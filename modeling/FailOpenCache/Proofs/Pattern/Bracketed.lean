import FailOpenCache.Libraries.Plain
import FailOpenCache.Proofs.Pattern.Expression

/-!
# Patterns of one class

A bracketed class is written as a sequence of items: characters, characters behind a backslash and
ranges. What the items denote is said from their text alone: a character stands for itself, also
behind a backslash, and a range for what lies between its ends. The scanner of globs copies an
escape as it stands, and the language of class bodies gives some escapes another meaning or none.
So a class denotes what its text says when a backslash stands in front of punctuation marks and the
like only, and an escape of any other character alone in a class already means something else.
-/

namespace FailOpenCache

namespace Glob

/-- A character with no meaning of its own in the body of a class. -/
abbrev PlainCharacter : Type := { character : Char // character ∉ [']', '\\', '-', '^', '!'] }

/-- An item of the body of a class, as it is written. -/
inductive BracketItem where
  /-- A character. -/
  | plain (character : PlainCharacter)
  /-- A character behind a backslash. -/
  | escaped (character : Char)
  /-- A range of characters. -/
  | range (first last : PlainCharacter) (ordered : first.1 ≤ last.1)

namespace BracketItem

/-- The text of an item. -/
def text : BracketItem → List Char
  | plain character => [character.1]
  | escaped character => ['\\', character]
  | range first last _ => [first.1, '-', last.1]

/-- A character of the body of a class that is not escaped there. -/
def quoted (character : Char) : List Char :=
  if character = '[' ∨ character = '&' ∨ character = '~' then ['\\', character] else [character]

/-- What an item adds to the body of a class. -/
def body : BracketItem → List Char
  | plain character => quoted character.1
  | escaped character => ['\\', character]
  | range first last _ => quoted first.1 ++ '-' :: quoted last.1

/-- The symbol that a character behind a backslash is alone. -/
def symbolOf? (character : Char) : Option ClassSymbol :=
  match ClassSymbol.escape? character with
  | some ([symbol], .between) => some symbol
  | _ => none

/-- The item of a class that an item is read as, if its escape means something. -/
def read? : BracketItem → Option ClassItem
  | plain character => some (.range character.1 character.1)
  | escaped character => (symbolOf? character).map ClassItem.ofSymbol
  | range first last _ => some (.range first.1 last.1)

/-- An escape, if the item is one, is that of an ASCII character which is neither a letter nor a
digit nor an angle bracket. -/
def EscapesMark : BracketItem → Prop
  | escaped character => ClassSymbol.isLiteralEscape character = true
  | _ => True

/-- An escape, if the item is one, reads nothing of what stands behind it. -/
def EscapesAlone : BracketItem → Prop
  | escaped character => character ∉ ['x', 'u', 'U', 'p', 'P']
  | _ => True

end BracketItem

/-- What stands behind the opening bracket of a class: nothing, or a mark of negation. -/
inductive BracketMark where
  /-- No mark. -/
  | none
  /-- A circumflex. -/
  | circumflex
  /-- An exclamation mark. -/
  | exclamation
deriving DecidableEq

/-- The text of a mark. -/
def BracketMark.text : BracketMark → List Char
  | none => []
  | circumflex => ['^']
  | exclamation => ['!']

/-- What a mark adds to the body of a class. -/
def BracketMark.body : BracketMark → List Char
  | none => []
  | circumflex | exclamation => ['^']

/-- A bracketed class, as it is written. -/
structure Bracket where
  /-- The mark behind its opening bracket. -/
  mark : BracketMark
  /-- The items of its body. -/
  items : List BracketItem
  /-- There are some. -/
  nonempty : items ≠ []

namespace Bracket

/-- The text of a class. -/
def source (bracket : Bracket) : String :=
  String.ofList ('[' :: (bracket.mark.text ++ bracket.items.flatMap BracketItem.text ++ [']']))

end Bracket

end Glob

namespace Category

end Category

namespace ClassSymbol

/-- A character behind a backslash is a symbol alone, or means nothing, or reads what stands behind
it. -/
theorem escape?_cases (character : Char) :
    (∃ symbol, symbol ≠ .hyphen ∧ escape? character = some ([symbol], .between)) ∨
      escape? character = none ∨ character ∈ ['x', 'u', 'U', 'p', 'P'] := by
  unfold escape?
  split
  all_goals try exact .inl ⟨_, by simp, rfl⟩
  all_goals try exact .inr (.inr (by decide))
  split
  · exact .inl ⟨_, by simp, rfl⟩
  · exact .inr (.inl rfl)

end ClassSymbol

namespace CharacterClass

variable {union : List ClassItem} {later : List ClassSymbol}

/-- A symbol that no hyphen follows is an item of its own. -/
theorem readUnions_cons {symbol : ClassSymbol} (noHyphen : symbol ≠ .hyphen)
    (opens : later.head? ≠ some .hyphen) :
    readUnions union (symbol :: later) = readUnions (ClassItem.ofSymbol symbol :: union) later := by
  cases later with
  | nil =>
    rw [readUnions]
    all_goals simp [readUnions]
  | cons next rest =>
    have noRange : next ≠ .hyphen := fun same => opens (congrArg some same)
    rw [readUnions]
    all_goals simp [noHyphen, noRange]

/-- Two characters around a hyphen are a range. -/
theorem readUnions_range {first last : Char} (ordered : first ≤ last) :
    readUnions union (.literal first :: .hyphen :: .literal last :: later) =
      readUnions (.range first last :: union) later := by
  rw [readUnions]
  · simp [ClassItem.ofEnds?, ClassSymbol.endpoint?, ordered]
  · simp
  · simp

/-- Symbols that begin with no hyphen are read as one union of items. -/
structure ReadsAs (symbols : List ClassSymbol) (found : List ClassItem) : Prop where
  /-- They begin with no hyphen. -/
  opens : symbols.head? ≠ some .hyphen
  /-- Their items stand behind those of the union. -/
  union : ∀ union, readUnions union symbols = some [union.reverse ++ found]

namespace ReadsAs

variable {symbols : List ClassSymbol} {found : List ClassItem}

/-- No symbols are read as no items. -/
theorem nil : ReadsAs [] [] := ⟨by simp, fun union => by simp [readUnions]⟩

/-- A symbol in front. -/
theorem cons (reads : ReadsAs symbols found) {symbol : ClassSymbol} (noHyphen : symbol ≠ .hyphen) :
    ReadsAs (symbol :: symbols) (ClassItem.ofSymbol symbol :: found) where
  opens := by simpa using noHyphen
  union union := by
    rw [readUnions_cons noHyphen reads.opens, reads.union, List.reverse_cons, List.append_assoc]
    rfl

/-- A range in front. -/
theorem range (reads : ReadsAs symbols found) {first last : Char} (ordered : first ≤ last) :
    ReadsAs (.literal first :: .hyphen :: .literal last :: symbols)
      (.range first last :: found) where
  opens := by simp
  union union := by
    rw [readUnions_range ordered, reads.union, List.reverse_cons, List.append_assoc]
    rfl

/-- Symbols that begin with no hyphen are those of a class without literal hyphens in front. -/
theorem ofSymbols? (reads : ReadsAs symbols found) :
    CharacterClass.ofSymbols? symbols = some [found] := by
  have noneInFront : symbols.takeWhile (· == .hyphen) = [] ∧
      symbols.dropWhile (· == .hyphen) = symbols := by
    cases symbols with
    | nil => exact ⟨rfl, rfl⟩
    | cons symbol later =>
      have noHyphen : symbol ≠ .hyphen := fun same => reads.opens (congrArg some same)
      simp [noHyphen]
  rw [CharacterClass.ofSymbols?, noneInFront.1, noneInFront.2, List.map_nil, reads.union]
  rfl

end ReadsAs

end CharacterClass

namespace Glob

namespace BracketItem

/-- A character that neither closes a class nor escapes another one is read in the body of a class
as itself. -/
theorem stepInside_quoted {character : Char} (noClose : character ≠ ']')
    (noBackslash : character ≠ '\\') (earlier : List Char) :
    stepInside earlier character = ([], .inside ((quoted character).reverse ++ earlier)) := by
  unfold stepInside quoted
  rw [if_neg noClose, if_neg noBackslash]
  split <;> rfl

end BracketItem

namespace Bracket

variable (bracket : Bracket)

/-- The body of a class as the scanner of globs leaves it. -/
def body : List Char := bracket.mark.body ++ bracket.items.flatMap BracketItem.body

end Bracket

namespace BracketItem

open ClassSymbol (scanFrom escape?)

/-- A plain character in the body of a class is a literal symbol. -/
theorem scanFrom_quoted (character : PlainCharacter) (later : List Char) :
    scanFrom .between (quoted character.1 ++ later) =
      (scanFrom .between later).map ([.literal character.1] ++ ·) := by
  obtain ⟨character, plain⟩ := character
  simp only [List.mem_cons, List.not_mem_nil, or_false, not_or] at plain
  unfold quoted
  split
  · rename_i sign
    have escape : escape? character = some ([.literal character], .between) := by
      rcases sign with rfl | rfl | rfl <;> decide
    simp [scanFrom, ClassSymbol.step?, escape, Function.comp_def]
  · simp [scanFrom, ClassSymbol.step?, plain]

/-- An escape in the body of a class that reads nothing of what stands behind it is its symbol, or
is none. -/
theorem scanFrom_escaped {character : Char} (alone : EscapesAlone (.escaped character))
    (later : List Char) :
    scanFrom .between ('\\' :: character :: later) =
      (symbolOf? character).bind fun symbol => (scanFrom .between later).map ([symbol] ++ ·) := by
  have opened : scanFrom .between ('\\' :: character :: later) =
      scanFrom .escaped (character :: later) := by
    simp [scanFrom, ClassSymbol.step?]
  rw [opened, scanFrom, ClassSymbol.step?, symbolOf?]
  rcases ClassSymbol.escape?_cases character with ⟨symbol, -, found⟩ | noSymbol | reads
  · rw [found]
    rfl
  · rw [noSymbol]
    rfl
  · exact absurd reads alone

end BracketItem

namespace Bracket

variable {bracket : Bracket}

end Bracket

end Glob

namespace Pattern

variable [Libraries]

end Pattern

namespace Glob

namespace BracketItem

/-- Such an item reads nothing of what stands behind it. -/
theorem EscapesMark.alone {item : BracketItem} (escapes : item.EscapesMark) :
    item.EscapesAlone := by
  cases item with
  | plain own => trivial
  | range first last ordered => trivial
  | escaped own =>
    intro reads
    simp only [List.mem_cons, List.not_mem_nil, or_false] at reads
    rcases reads with rfl | rfl | rfl | rfl | rfl <;> cases escapes

end BracketItem

namespace Bracket

variable {bracket : Bracket}

variable [Libraries]

end Bracket

end Glob

namespace Pattern

open scoped Libraries.Plain

end Pattern

end FailOpenCache
