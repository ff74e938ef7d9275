import FailOpenCache.Libraries
import FailOpenCache.Pattern.CharacterClass

/-!
# Patterns of keys

A pattern is a sequence of tokens, each of which is a run of any characters or one character that
passes a test, and it matches the keys that it spells out as a whole. Matching goes through the
tokens from the last one to the first and keeps, for every rest of the key, whether the tokens
behind match it: `rowOf_eq` says that the row of a token list holds just these answers.
-/

namespace FailOpenCache

/-- A test of one character. -/
inductive CharacterTest where
  /-- Any character passes. -/
  | anything
  /-- Only this character passes. -/
  | exactly (character : Char)
  /-- The characters of a class pass. -/
  | among (characters : CharacterClass)
deriving DecidableEq

/-- The character passes the test. -/
def CharacterTest.passes (test : CharacterTest) (character : Char) : Bool :=
  match test with
  | anything => true
  | exactly expected => character == expected
  | among characters => characters.holds character

/-- A token of a pattern. -/
inductive PatternToken where
  /-- Any characters, or none. -/
  | anyRun
  /-- One character that passes a test. -/
  | one (test : CharacterTest)
deriving DecidableEq

/-- The token of a part of a glob; a class whose body denotes nothing has none. -/
def PatternToken.ofPart? : Glob.Part → Option PatternToken
  | .anyRun => some anyRun
  | .anyOne => some (one .anything)
  | .literal character => some (one (.exactly character))
  | .bracket body => (CharacterClass.ofBody? body).map fun characters => one (.among characters)

/-- A compiled pattern. -/
structure Pattern where
  /-- The text of the pattern. -/
  source : String
  /-- Its tokens. -/
  tokens : List PatternToken
deriving DecidableEq

namespace Pattern

/-- The most bytes that a compiled expression may take up. -/
def sizeLimit : Nat := 10 * 2 ^ 20

/-- The expression of a pattern is not too large to be compiled. -/
def Fits [Libraries] (source : String) : Prop :=
  Libraries.expressionSize (Glob.parts source.toList) ≤ sizeLimit

instance [Libraries] (source : String) : Decidable (Fits source) :=
  inferInstanceAs (Decidable (_ ≤ _))

/-- The pattern of a text, if its parts denote something. -/
def ofSource? (source : String) : Option Pattern :=
  ((Glob.parts source.toList).mapM PatternToken.ofPart?).map fun tokens => ⟨source, tokens⟩

/-- Compile the text of a pattern; one whose expression is too large is refused. -/
def compile? [Libraries] (source : String) : Option Pattern :=
  if Fits source then ofSource? source else none

/-- The tokens spell out the characters. -/
def spells : List PatternToken → List Char → Bool
  | [], [] => true
  | [], _ :: _ => false
  | .anyRun :: tokens, [] => spells tokens []
  | .anyRun :: tokens, character :: rest =>
    spells tokens (character :: rest) || spells (.anyRun :: tokens) rest
  | .one _ :: _, [] => false
  | .one test :: tokens, character :: rest => test.passes character && spells tokens rest
termination_by tokens characters => (tokens.length, characters.length)

/-- For each rest of a list of answers, whether the list from there on holds a positive one. -/
def anyFrom : List Bool → List Bool
  | [] => []
  | answer :: rest =>
    let later := anyFrom rest
    (answer || later.headD false) :: later

/-- The answers for a character test in front of tokens with the given answers. -/
def passThen (test : CharacterTest) : List Char → List Bool → List Bool
  | [], _ => [false]
  | character :: rest, row =>
    (test.passes character && row.tail.headD false) :: passThen test rest row.tail

/-- The answers for no tokens: only the empty rest is spelled out. -/
def emptyRow : List Char → List Bool
  | [] => [true]
  | _ :: rest => false :: emptyRow rest

/-- For each rest of the characters, the whole first and the empty one last, whether the tokens
spell it out. -/
def rowOf (characters : List Char) : List PatternToken → List Bool
  | [] => emptyRow characters
  | .anyRun :: tokens => anyFrom (rowOf characters tokens)
  | .one test :: tokens => passThen test characters (rowOf characters tokens)

/-- The pattern matches the key as a whole. -/
def matchesKey (pattern : Pattern) (key : String) : Bool :=
  (rowOf key.toList pattern.tokens).headD false

/-- The answers that the tokens have for each rest of the characters. -/
def answers (tokens : List PatternToken) : List Char → List Bool
  | [] => [spells tokens []]
  | character :: rest => spells tokens (character :: rest) :: answers tokens rest

/-- The first answer is the one for the whole. -/
@[simp] theorem head?_answers (tokens : List PatternToken) (characters : List Char) :
    (answers tokens characters).head?.getD false = spells tokens characters := by
  cases characters <;> rfl

/-- Answers for no tokens. -/
theorem emptyRow_eq (characters : List Char) : emptyRow characters = answers [] characters := by
  induction characters with
  | nil => simp [emptyRow, answers, spells]
  | cons character rest ih => simp [emptyRow, answers, spells, ih]

/-- Answers for a run in front of tokens. -/
theorem anyFrom_answers (tokens : List PatternToken) (characters : List Char) :
    anyFrom (answers tokens characters) = answers (.anyRun :: tokens) characters := by
  induction characters with
  | nil => simp [anyFrom, answers, spells]
  | cons character rest ih => simp [anyFrom, answers, spells, ih]

/-- Answers for a test in front of tokens. -/
theorem passThen_answers (test : CharacterTest) (tokens : List PatternToken)
    (characters : List Char) :
    passThen test characters (answers tokens characters) =
      answers (.one test :: tokens) characters := by
  induction characters with
  | nil => simp [passThen, answers, spells]
  | cons character rest ih => simp [passThen, answers, spells, ih]

/-- The row of tokens holds their answers for each rest. -/
theorem rowOf_eq (characters : List Char) (tokens : List PatternToken) :
    rowOf characters tokens = answers tokens characters := by
  induction tokens with
  | nil => exact emptyRow_eq characters
  | cons token tokens ih =>
    cases token with
    | anyRun => rw [rowOf, ih, anyFrom_answers]
    | one test => rw [rowOf, ih, passThen_answers]

/-- A pattern matches a key when its tokens spell it out. -/
theorem matchesKey_eq_spells (pattern : Pattern) (key : String) :
    pattern.matchesKey key = spells pattern.tokens key.toList := by
  simp [matchesKey, rowOf_eq]

end Pattern

end FailOpenCache
