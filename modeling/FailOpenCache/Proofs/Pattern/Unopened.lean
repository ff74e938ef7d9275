import FailOpenCache.Proofs.Pattern.Bracketed
import FailOpenCache.Proofs.Pattern.Unbracketed

/-!
# Patterns whose brackets open no class

A bracket opens no class if it is never closed, or if nothing or a mark of negation alone stands up
to where it is closed. A pattern with such brackets only, and without the other signs of patterns,
compiles if its expression is not too large, and it matches one key, character for character. That
key is not always the text of the pattern: of an empty class the closing bracket and the mark are
lost, and behind a bracket that is never closed the marks of negation are lost and a backslash comes
in front of each sign that is escaped in the body of a class. The key is the text exactly if none of
this happens.
-/

namespace FailOpenCache

namespace Glob

open BracketItem (quoted stepInside_quoted)

/-- No opening bracket of the text begins a class with a body, and the text has no other sign of
patterns. -/
structure Classless (pattern : List Char) : Prop where
  /-- There are no stars, question marks and backslashes. -/
  plain : ∀ sign ∈ ['*', '?', '\\'], sign ∉ pattern
  /-- What stands between an opening bracket and the first closing one behind it, if there is one,
  is nothing or a mark of negation. -/
  bodiless : ∀ before body later, pattern = before ++ '[' :: (body ++ ']' :: later) →
    ']' ∉ body → body ∈ [[], ['^'], ['!']]

/-- Such a text read from the front: a bracket is closed at once or behind one mark of negation, or
it is never closed, and every other character means nothing in a pattern. -/
inductive Unopened : List Char → Prop where
  /-- Nothing. -/
  | nil : Unopened []
  /-- A bracket that is closed at once or behind a mark. -/
  | empty (mark : BracketMark) {later : List Char} (unopened : Unopened later) :
    Unopened ('[' :: (mark.text ++ ']' :: later))
  /-- A bracket that is never closed. -/
  | unclosed {later : List Char} (unclosed : ']' ∉ later)
    (plain : ∀ sign ∈ ['*', '?', '\\'], sign ∉ later) : Unopened ('[' :: later)
  /-- Any other character. -/
  | cons {character : Char} {later : List Char} (meaningless : character ∉ ['*', '?', '\\', '['])
    (unopened : Unopened later) : Unopened (character :: later)

/-- The text behind a bracket that is never closed without the marks of negation: an exclamation
mark counts in front only, and then come circumflexes. -/
def unmarked : List Char → List Char
  | '!' :: later => later.dropWhile (· == '^')
  | later => later.dropWhile (· == '^')

/-- What is left of the text of a pattern whose brackets open no class. -/
def remains : List Char → List Char
  | [] => []
  | '[' :: ']' :: later => '[' :: remains later
  | '[' :: '^' :: ']' :: later => '[' :: remains later
  | '[' :: '!' :: ']' :: later => '[' :: remains later
  | '[' :: later => '[' :: (unmarked later).flatMap quoted
  | character :: later => character :: remains later

/-- Behind no opening bracket stands a mark of negation, and none is followed by another bracket or
by a sign that is escaped in the body of a class. -/
def Preserved (pattern : List Char) : Prop :=
  ∀ before later, pattern = before ++ '[' :: later →
    later.head? ≠ some '^' ∧ later.head? ≠ some '!' ∧
      ∀ sign ∈ [']', '[', '&', '~'], sign ∉ later

namespace Classless

variable {before later : List Char}

/-- The end of a pattern has no classes either. -/
theorem behind (classless : Classless (before ++ later)) : Classless later where
  plain sign held inside := classless.plain sign held (List.mem_append_right _ inside)
  bodiless earlier body rest split :=
    classless.bodiless (before ++ earlier) body rest (by rw [split, List.append_assoc])

/-- Without the first character a pattern has no classes either. -/
theorem tail {character : Char} (classless : Classless (character :: later)) :
    Classless later := by
  rw [← List.singleton_append] at classless
  exact classless.behind

/-- A bracket that begins no empty class is never closed. -/
theorem unclosed (classless : Classless ('[' :: later))
    (bodied : ∀ (mark : BracketMark) (rest : List Char), later ≠ mark.text ++ ']' :: rest) :
    ']' ∉ later := by
  intro closed
  obtain ⟨body, rest, rfl, first⟩ := List.eq_append_cons_of_mem closed
  have empty := classless.bodiless [] body rest rfl first
  simp only [List.mem_cons, List.not_mem_nil, or_false] at empty
  rcases empty with rfl | rfl | rfl
  · exact bodied .none rest rfl
  · exact bodied .circumflex rest rfl
  · exact bodied .exclamation rest rfl

/-- The text is read from the front. -/
theorem unopened {pattern : List Char} (classless : Classless pattern) : Unopened pattern := by
  induction size : pattern.length using Nat.strongRecOn generalizing pattern with
  | _ size ih =>
    subst size
    cases pattern with
    | nil => exact .nil
    | cons character later =>
      by_cases bracket : character = '['
      · subst bracket
        by_cases bodied :
            ∃ (mark : BracketMark) (rest : List Char), later = mark.text ++ ']' :: rest
        · obtain ⟨mark, rest, rfl⟩ := bodied
          have shorter : rest.length < ('[' :: (mark.text ++ ']' :: rest)).length := by
            simp only [List.length_cons, List.length_append]
            omega
          exact .empty mark (ih _ shorter classless.tail.behind.tail rfl)
        · simp only [not_exists] at bodied
          exact .unclosed (classless.unclosed bodied) classless.tail.plain
      · refine .cons ?_ (ih _ (Nat.lt_succ_self _) classless.tail rfl)
        intro sign
        have early : character ∈ ['*', '?', '\\'] := by
          simpa [bracket] using sign
        exact classless.plain character early List.mem_cons_self

end Classless

/-- A character without meaning is no opening bracket. -/
theorem ne_bracket {character : Char} (meaningless : character ∉ ['*', '?', '\\', '[']) :
    character ≠ '[' := by
  rintro rfl
  exact meaningless (by decide)

/-- A character that does not stand in a first part is the one behind it or stands in the rest. -/
theorem eq_or_behind {first before rest later : List Char} {behind sign : Char}
    (outside : sign ∉ first) (split : first ++ behind :: rest = before ++ sign :: later) :
    before = first ∧ behind = sign ∨
      ∃ between, before = first ++ behind :: between ∧ rest = between ++ sign :: later := by
  rcases List.append_eq_append_iff.1 split with ⟨between, rfl, tail⟩ | ⟨between, shape, tail⟩
  · cases between with
    | nil => exact .inl ⟨List.append_nil _, (List.cons.inj tail).1⟩
    | cons _ between =>
      obtain ⟨rfl, rfl⟩ := List.cons.inj tail
      exact .inr ⟨between, rfl, rfl⟩
  · cases between with
    | nil => exact .inl ⟨(shape.trans (List.append_nil _)).symm, (List.cons.inj tail).1.symm⟩
    | cons _ between =>
      obtain ⟨rfl, -⟩ := List.cons.inj tail
      exact absurd (shape ▸ List.mem_append_right _ List.mem_cons_self) outside

namespace Unopened

/-- A text of these parts has no star, question mark or backslash. -/
theorem plain {pattern : List Char} (unopened : Unopened pattern) :
    ∀ sign ∈ ['*', '?', '\\'], sign ∉ pattern := by
  intro sign held
  have noBracket : sign ≠ '[' ∧ sign ≠ ']' ∧ sign ≠ '^' ∧ sign ≠ '!' := by
    simp only [List.mem_cons, List.not_mem_nil, or_false] at held
    rcases held with rfl | rfl | rfl <;> decide
  induction unopened with
  | nil => exact List.not_mem_nil
  | empty mark _ ih => cases mark <;> simp [BracketMark.text, noBracket, ih]
  | unclosed _ plain => simp [noBracket, plain sign held]
  | cons meaningless _ ih =>
    refine List.not_mem_cons_of_ne_of_not_mem ?_ ih
    rintro rfl
    exact meaningless (List.mem_append_left ['['] held)

/-- A text of these parts has no classes. -/
theorem classless {pattern : List Char} (unopened : Unopened pattern) : Classless pattern := by
  refine ⟨unopened.plain, fun before body rest split opened => ?_⟩
  induction unopened generalizing before with
  | nil => exact absurd split (by simp)
  | @empty mark later unopened ih =>
    have noClose : ']' ∉ mark.text := by cases mark <;> decide
    have noOpen : '[' ∉ mark.text := by cases mark <;> decide
    cases before with
    | nil =>
      rcases eq_or_behind noClose (List.cons.inj split).2 with ⟨rfl, -⟩ | ⟨between, rfl, -⟩
      · cases mark <;> decide
      · exact absurd (List.mem_append_right _ List.mem_cons_self) opened
    | cons first before =>
      rcases eq_or_behind noOpen (List.cons.inj split).2 with ⟨-, same⟩ | ⟨between, -, inside⟩
      · exact absurd same (by decide)
      · exact ih between inside
  | unclosed unclosed _ =>
    cases before with
    | nil =>
      obtain rfl := (List.cons.inj split).2
      exact absurd (List.mem_append_right _ List.mem_cons_self) unclosed
    | cons first before =>
      obtain rfl := (List.cons.inj split).2
      exact absurd (by simp) unclosed
  | cons meaningless _ ih =>
    cases before with
    | nil => exact absurd (List.cons.inj split).1 (ne_bracket meaningless)
    | cons first before => exact ih before (List.cons.inj split).2

end Unopened

/-- Circumflexes are the same in front of the body of a class. -/
theorem dropWhile_flatMap_quoted (text : List Char) :
    (text.flatMap quoted).dropWhile (· == '^') = (text.dropWhile (· == '^')).flatMap quoted := by
  induction text with
  | nil => rfl
  | cons character rest ih =>
    by_cases mark : character = '^'
    · subst mark
      exact ih
    · have opens : ∃ first later, quoted character = first :: later ∧ first ≠ '^' := by
        unfold quoted
        split
        · exact ⟨_, _, rfl, by decide⟩
        · exact ⟨_, _, rfl, mark⟩
      obtain ⟨first, later, shape, noMark⟩ := opens
      rw [List.dropWhile_cons_of_neg (by simpa using mark), List.flatMap_cons, shape,
        List.cons_append, List.dropWhile_cons_of_neg (by simpa using noMark)]

/-- The text behind a bracket that is never closed is gathered to the end. -/
theorem partsFrom_unclosed {text : List Char} (unclosed : ']' ∉ text) (noBackslash : '\\' ∉ text)
    (earlier : List Char) :
    partsFrom (.inside earlier) text = literalBracket (earlier.reverse ++ text.flatMap quoted) := by
  induction text generalizing earlier with
  | nil => simp [partsFrom, finish]
  | cons character rest ih =>
    rw [List.mem_cons, not_or] at unclosed noBackslash
    have read := stepInside_quoted (Ne.symm unclosed.1) (Ne.symm noBackslash.1) earlier
    rw [partsFrom, step, read]
    dsimp only
    rw [ih unclosed.2 noBackslash.2, List.nil_append, List.reverse_append, List.reverse_reverse,
      List.append_assoc, List.flatMap_cons]

/-- A bracket that is never closed stands for itself, and what stands behind it for what is gathered
of it. -/
theorem partsFrom_opened_unclosed {text : List Char} (unclosed : ']' ∉ text)
    (noBackslash : '\\' ∉ text) :
    partsFrom .opened text =
      .literal '[' :: ((unmarked text).flatMap quoted).map .literal := by
  cases text with
  | nil => rfl
  | cons character rest =>
    by_cases mark : character = '^' ∨ character = '!'
    · have marked : partsFrom .opened (character :: rest) = partsFrom (.inside ['^']) rest := by
        rw [partsFrom, step, if_pos mark]
        rfl
      rw [List.mem_cons, not_or] at unclosed noBackslash
      have left : unmarked (character :: rest) = rest.dropWhile (· == '^') := by
        rcases mark with rfl | rfl <;> rfl
      rw [marked, partsFrom_unclosed unclosed.2 noBackslash.2, left, ← dropWhile_flatMap_quoted]
      rfl
    · have inside : partsFrom .opened (character :: rest) =
          partsFrom (.inside []) (character :: rest) := by
        rw [partsFrom, step, if_neg mark]
        rfl
      rw [not_or] at mark
      have left : unmarked (character :: rest) =
          (character :: rest).dropWhile (· == '^') := by
        unfold unmarked
        split
        · rename_i shape
          exact absurd (List.cons.inj shape).1 mark.2
        · rfl
      rw [inside, partsFrom_unclosed unclosed noBackslash, left, ← dropWhile_flatMap_quoted]
      rfl

/-- Of an empty class the opening bracket is left. -/
theorem remains_empty (mark : BracketMark) (later : List Char) :
    remains ('[' :: (mark.text ++ ']' :: later)) = '[' :: remains later := by
  cases mark with
  | none => rw [BracketMark.text, List.nil_append, remains]
  | circumflex => rw [BracketMark.text, List.singleton_append, remains]
  | exclamation => rw [BracketMark.text, List.singleton_append, remains]

/-- What is left of a bracket that is never closed. -/
theorem remains_unclosed {later : List Char} (unclosed : ']' ∉ later) :
    remains ('[' :: later) = '[' :: (unmarked later).flatMap quoted := by
  rw [remains]
  all_goals
    rintro rest rfl
    exact unclosed (by simp)

/-- A character that is no opening bracket is left. -/
theorem remains_cons {character : Char} (noBracket : character ≠ '[') (later : List Char) :
    remains (character :: later) = character :: remains later := by
  rw [remains]
  · exact fun _ same _ => noBracket same
  · exact fun _ same _ => noBracket same
  · exact fun _ same _ => noBracket same
  · exact noBracket

/-- An empty class is completed as its opening bracket. -/
theorem parts_empty (mark : BracketMark) (later : List Char) :
    parts ('[' :: (mark.text ++ ']' :: later)) = .literal '[' :: parts later := by
  cases mark <;> rfl

/-- The parts of a pattern whose brackets open no class are the characters that are left of it. -/
theorem Unopened.parts_eq {pattern : List Char} (unopened : Unopened pattern) :
    parts pattern = (remains pattern).map .literal := by
  induction unopened with
  | nil => rfl
  | empty mark _ ih => rw [parts_empty, ih, remains_empty, List.map_cons]
  | unclosed unclosed plain =>
    rw [remains_unclosed unclosed, List.map_cons,
      ← partsFrom_opened_unclosed unclosed (plain _ (by decide))]
    rfl
  | cons meaningless _ ih =>
    simp only [List.mem_cons, List.not_mem_nil, or_false, not_or] at meaningless
    obtain ⟨noStar, noMark, noBackslash, noBracket⟩ := meaningless
    rw [parts_cons noStar noMark noBackslash noBracket, ih, remains_cons noBracket, List.map_cons]

/-- Marks are left out only. -/
theorem unmarked_sublist (text : List Char) : (unmarked text).Sublist text := by
  unfold unmarked
  split
  · exact (List.dropWhile_sublist _).cons _
  · exact List.dropWhile_sublist _

/-- A text is as it was without its marks exactly if it has none in front. -/
theorem unmarked_eq_self_iff (text : List Char) :
    unmarked text = text ↔ text.head? ≠ some '^' ∧ text.head? ≠ some '!' := by
  cases text with
  | nil => simp [unmarked]
  | cons character rest =>
    constructor
    · intro same
      have long : (unmarked (character :: rest)).length = rest.length + 1 := by rw [same]; rfl
      have short := (List.dropWhile_sublist (l := rest) (· == '^')).length_le
      refine ⟨fun mark => ?_, fun mark => ?_⟩
      · obtain rfl := Option.some.inj mark
        have left : unmarked ('^' :: rest) = rest.dropWhile (· == '^') := rfl
        rw [left] at long
        omega
      · obtain rfl := Option.some.inj mark
        have left : unmarked ('!' :: rest) = rest.dropWhile (· == '^') := rfl
        rw [left] at long
        omega
    · rintro ⟨noCircumflex, noExclamation⟩
      have first : character ≠ '^' := fun same => noCircumflex (congrArg some same)
      unfold unmarked
      split
      · rename_i shape
        exact absurd (congrArg List.head? shape) noExclamation
      · rw [List.dropWhile_cons_of_neg (by simpa using first)]

/-- What is gathered of a text without backslashes has none exactly if the text has no sign that is
escaped in the body of a class; then it is the text. -/
theorem flatMap_quoted_iff {text : List Char} (noBackslash : '\\' ∉ text) :
    ('\\' ∉ text.flatMap quoted ↔ ∀ sign ∈ ['[', '&', '~'], sign ∉ text) ∧
      ('\\' ∉ text.flatMap quoted → text.flatMap quoted = text) := by
  induction text with
  | nil => simp
  | cons character rest ih =>
    rw [List.mem_cons, not_or] at noBackslash
    obtain ⟨signless, same⟩ := ih noBackslash.2
    rw [List.flatMap_cons, List.mem_append, not_or]
    by_cases sign : character = '[' ∨ character = '&' ∨ character = '~'
    · have escaped : quoted character = ['\\', character] := if_pos sign
      have inside : '\\' ∈ quoted character := by
        rw [escaped]
        exact List.mem_cons_self
      refine ⟨⟨fun none => absurd inside none.1, fun none => ?_⟩, fun none => absurd inside none.1⟩
      rcases sign with rfl | rfl | rfl
      all_goals exact absurd List.mem_cons_self (none _ (by decide))
    · have plain : quoted character = [character] := if_neg sign
      rw [not_or, not_or] at sign
      rw [plain]
      refine ⟨?_, fun none => by rw [same none.2]; rfl⟩
      rw [signless]
      simp [noBackslash.1, sign, eq_comm]

/-- What is left is no longer than the text, unless a backslash is added. -/
theorem Unopened.length_remains_le {pattern : List Char} (unopened : Unopened pattern)
    (noBackslash : '\\' ∉ remains pattern) : (remains pattern).length ≤ pattern.length := by
  induction unopened with
  | nil => exact Nat.le_refl _
  | empty mark _ ih =>
    rw [remains_empty] at noBackslash ⊢
    have rest := ih fun inside => noBackslash (List.mem_cons_of_mem _ inside)
    simp only [List.length_cons, List.length_append]
    omega
  | @unclosed later unclosed plain =>
    rw [remains_unclosed unclosed] at noBackslash ⊢
    have marks := unmarked_sublist later
    have gathered := (flatMap_quoted_iff fun inside => plain _ (by decide) (marks.subset inside)).2
      fun inside => noBackslash (List.mem_cons_of_mem _ inside)
    rw [gathered]
    exact Nat.succ_le_succ marks.length_le
  | @cons character later meaningless _ ih =>
    have noBracket : character ≠ '[' := ne_bracket meaningless
    rw [remains_cons noBracket] at noBackslash ⊢
    exact Nat.succ_le_succ (ih fun inside => noBackslash (List.mem_cons_of_mem _ inside))

/-- A character that is no opening bracket changes nothing of what is said of the brackets. -/
theorem preserved_cons {character : Char} (noBracket : character ≠ '[') (later : List Char) :
    Preserved (character :: later) ↔ Preserved later := by
  constructor
  · intro preserved before rest split
    exact preserved (character :: before) rest (by rw [split]; rfl)
  · intro preserved before rest split
    cases before with
    | nil => exact absurd (List.cons.inj split).1 noBracket
    | cons first before => exact preserved before rest (List.cons.inj split).2

/-- The first opening bracket says it of all. -/
theorem preserved_bracket (later : List Char) :
    Preserved ('[' :: later) ↔
      later.head? ≠ some '^' ∧ later.head? ≠ some '!' ∧
        ∀ sign ∈ [']', '[', '&', '~'], sign ∉ later := by
  constructor
  · exact fun preserved => preserved [] later rfl
  · rintro ⟨noCircumflex, noExclamation, signless⟩ before rest split
    cases before with
    | nil =>
      obtain rfl := (List.cons.inj split).2
      exact ⟨noCircumflex, noExclamation, signless⟩
    | cons first before =>
      obtain rfl := (List.cons.inj split).2
      exact absurd (List.mem_append_right _ List.mem_cons_self) (signless '[' (by decide))

/-- The text is left as it is exactly if nothing stands behind its opening brackets that is lost or
escaped. -/
theorem Unopened.remains_eq_self_iff {pattern : List Char} (unopened : Unopened pattern) :
    remains pattern = pattern ↔ Preserved pattern := by
  induction unopened with
  | nil => exact ⟨fun _ before _ split => absurd split (by simp), fun _ => rfl⟩
  | @empty mark later unopened _ =>
    have closed : ']' ∈ mark.text ++ ']' :: later :=
      List.mem_append_right _ List.mem_cons_self
    rw [remains_empty, preserved_bracket]
    refine ⟨fun same => ?_, fun preserved => absurd closed (preserved.2.2 _ (by decide))⟩
    -- The closing bracket is lost, and no backslash has come in its place.
    have left := (List.cons.inj same).2
    have noBackslash : '\\' ∉ remains later := by
      rw [left]
      have none := (unopened.empty mark).plain '\\' (by decide)
      exact fun inside => none (List.mem_cons_of_mem _ inside)
    have short := unopened.length_remains_le noBackslash
    rw [left] at short
    simp only [List.length_append, List.length_cons] at short
    omega
  | @unclosed later unclosed plain =>
    have noBackslash : '\\' ∉ later := plain _ (by decide)
    rw [remains_unclosed unclosed, preserved_bracket, List.cons.injEq]
    simp only [true_and]
    constructor
    · intro same
      have marks := unmarked_sublist later
      have noBackslash' : '\\' ∉ unmarked later := fun inside => noBackslash (marks.subset inside)
      have unescaped : '\\' ∉ (unmarked later).flatMap quoted := by
        rw [same]
        exact noBackslash
      obtain ⟨signless, gathered⟩ := flatMap_quoted_iff noBackslash'
      rw [gathered unescaped] at same
      rw [same] at signless unescaped
      obtain ⟨noCircumflex, noExclamation⟩ := (unmarked_eq_self_iff later).1 same
      refine ⟨noCircumflex, noExclamation, List.forall_mem_cons.2 ⟨unclosed, signless.1 unescaped⟩⟩
    · rintro ⟨noCircumflex, noExclamation, signless⟩
      rw [(unmarked_eq_self_iff later).2 ⟨noCircumflex, noExclamation⟩]
      obtain ⟨signless', gathered⟩ := flatMap_quoted_iff noBackslash
      exact gathered (signless'.2 (List.forall_mem_cons.1 signless).2)
  | @cons character later meaningless _ ih =>
    have noBracket : character ≠ '[' := ne_bracket meaningless
    rw [remains_cons noBracket, preserved_cons noBracket, ← ih, List.cons.injEq]
    simp only [true_and]

end Glob

namespace Pattern

/-- Literal characters are compiled to tests of these characters. -/
theorem tokens?_literal (text : List Char) :
    tokens? (text.map .literal) = some (text.map fun character => .one (.exactly character)) := by
  induction text with
  | nil => rfl
  | cons character rest ih => exact tokens?_cons rfl ih

/-- Tests of characters spell these characters. -/
theorem spells_literal (text key : List Char) :
    spells (text.map fun character => .one (.exactly character)) key = true ↔ key = text := by
  induction text generalizing key with
  | nil => exact spells_nil key
  | cons character rest ih =>
    rw [List.map_cons, spells_exactly]
    simp only [ih]
    exact ⟨fun ⟨_, split, same⟩ => same ▸ split, fun same => ⟨rest, same, rfl⟩⟩

/-- A pattern without stars, question marks and backslashes whose brackets open no class has a legal
expression, and compiles if that is not too large. It matches, and a search for the expression finds
it in, one key: what is left of the text without the closing brackets and the marks of negation of
its empty classes, and, behind a bracket that is never closed, without the marks in front and with a
backslash before each opening bracket, ampersand and tilde. So it matches its own text alone exactly
if nothing of this stands behind an opening bracket. -/
theorem matchesKey_classless [Libraries] {source : String}
    (classless : Glob.Classless source.toList) (fits : Fits source) :
    ∃ pattern items, compile? source = some pattern ∧ pattern.source = source ∧
      Expression.read? (Expression.ofPattern source.toList) = some items ∧
      (∀ key : String,
        (pattern.matchesKey key = true ↔ key.toList = Glob.remains source.toList) ∧
        (Expression.Found items key.toList ↔ key.toList = Glob.remains source.toList)) ∧
      ((∀ key : String, pattern.matchesKey key = true ↔ key = source) ↔
        Glob.Preserved source.toList) := by
  have unopened := classless.unopened
  have denoted : ofSource? source = some
      ⟨source, (Glob.remains source.toList).map fun character => .one (.exactly character)⟩ := by
    have tokens := tokens?_literal (Glob.remains source.toList)
    rw [tokens?, ← unopened.parts_eq] at tokens
    rw [ofSource?, tokens]
    rfl
  have matching : ∀ key : String,
      matchesKey ⟨source, (Glob.remains source.toList).map fun character =>
        .one (.exactly character)⟩ key = true ↔ key.toList = Glob.remains source.toList := by
    intro key
    rw [matchesKey_eq_spells]
    exact spells_literal _ key.toList
  refine ⟨_, _, compile?_eq_some_iff.2 ⟨fits, denoted⟩, rfl,
    by rw [Expression.read?_eq_ofSource?, denoted]; rfl,
    fun key => ⟨matching key, (Expression.found_iff_matchesKey _ key).trans (matching key)⟩, ?_⟩
  rw [← unopened.remains_eq_self_iff]
  simp only [matching]
  constructor
  · intro literal
    exact ((literal source).2 rfl).symm
  · intro same key
    rw [same]
    exact String.toList_inj

open scoped Libraries.Plain

/-- A bracket at the end of a text stands for itself. Of an empty class, and of a bracket that is
never closed with a mark and another bracket behind it, something else is left. -/
theorem matchesKey_classless_lossy :
    (Glob.Classless "odd[".toList ∧ ∃ pattern, compile? "odd[" = some pattern ∧
      ∀ key : String, pattern.matchesKey key = true ↔ key = "odd[") ∧
    Glob.Classless "a[^]b[!c[".toList ∧ ∃ pattern, compile? "a[^]b[!c[" = some pattern ∧
      pattern.matchesKey "a[b[c\\[" = true ∧ pattern.matchesKey "a[^]b[!c[" = false := by
  constructor
  · have classless : Glob.Classless "odd[".toList := by
      show Glob.Classless ['o', 'd', 'd', '[']
      exact Glob.Unopened.classless (.cons (by decide) (.cons (by decide) (.cons (by decide)
        (.unclosed (by decide) (by simp)))))
    obtain ⟨pattern, items, compiled, -, -, -, literal⟩ :=
      matchesKey_classless classless (by decide)
    have preserved : Glob.Preserved "odd[".toList := by
      show Glob.Preserved ['o', 'd', 'd', '[']
      rw [Glob.preserved_cons (by decide), Glob.preserved_cons (by decide),
        Glob.preserved_cons (by decide), Glob.preserved_bracket]
      simp
    exact ⟨classless, pattern, compiled, literal.2 preserved⟩
  · have classless : Glob.Classless "a[^]b[!c[".toList := by
      show Glob.Classless ['a', '[', '^', ']', 'b', '[', '!', 'c', '[']
      exact Glob.Unopened.classless (.cons (by decide) (.empty .circumflex (.cons (by decide)
        (.unclosed (by decide) (by simp)))))
    obtain ⟨pattern, items, compiled, -, -, matching, -⟩ :=
      matchesKey_classless classless (by decide)
    refine ⟨classless, pattern, compiled, (matching _).1.2 (by decide), ?_⟩
    rw [← Bool.not_eq_true, (matching _).1]
    decide

end Pattern

end FailOpenCache
