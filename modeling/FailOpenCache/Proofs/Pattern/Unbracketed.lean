import FailOpenCache.Libraries.Plain
import FailOpenCache.Proofs.Pattern.Expression

/-!
# Patterns without classes

What a pattern without an opening bracket means is said by recursion on its text alone: a star
stands for any characters, a question mark for any one, a backslash takes the next character
literally, and the whole key has to be used up. Such a pattern compiles unless its expression is too
large, and it matches exactly the keys that its text accepts: the scanner of globs completes one
part for each step of the recursion, and each part spells what the step accepts. These are the keys
in which a search finds the expression of the pattern.
-/

namespace FailOpenCache

namespace Glob

/-- The text of a pattern, in which no class begins, accepts a key. -/
def Accepts : List Char → List Char → Prop
  | [], key => key = []
  | '*' :: pattern, key => ∃ run rest, key = run ++ rest ∧ Accepts pattern rest
  | '?' :: pattern, key => ∃ character rest, key = character :: rest ∧ Accepts pattern rest
  | ['\\'], key => key = ['\\']
  | '\\' :: character :: pattern, key => ∃ rest, key = character :: rest ∧ Accepts pattern rest
  | character :: pattern, key => ∃ rest, key = character :: rest ∧ Accepts pattern rest

/-- A character with no meaning of its own stands for itself. -/
theorem accepts_cons {character : Char} (noStar : character ≠ '*') (noMark : character ≠ '?')
    (noBackslash : character ≠ '\\') (pattern key : List Char) :
    Accepts (character :: pattern) key ↔
      ∃ rest, key = character :: rest ∧ Accepts pattern rest := by
  rw [Accepts]
  · exact noStar
  · exact noMark
  · exact fun same _ => noBackslash same
  · exact fun _ _ same _ => noBackslash same

/-- A star is a run of any characters. -/
theorem parts_star (pattern : List Char) : parts ('*' :: pattern) = .anyRun :: parts pattern := rfl

/-- A question mark is any one character. -/
theorem parts_question (pattern : List Char) :
    parts ('?' :: pattern) = .anyOne :: parts pattern := rfl

/-- A backslash makes the next character literal. -/
theorem parts_backslash (character : Char) (pattern : List Char) :
    parts ('\\' :: character :: pattern) = .literal character :: parts pattern := rfl

/-- Any other character but an opening bracket is literal. -/
theorem parts_cons {character : Char} (noStar : character ≠ '*') (noMark : character ≠ '?')
    (noBackslash : character ≠ '\\') (noBracket : character ≠ '[') (pattern : List Char) :
    parts (character :: pattern) = .literal character :: parts pattern := by
  simp [parts, partsFrom, step, noStar, noMark, noBackslash, noBracket]

end Glob

namespace Pattern

/-- One literal character in front of tokens. -/
theorem spells_exactly (expected : Char) (tokens : List PatternToken) (key : List Char) :
    spells (.one (.exactly expected) :: tokens) key = true ↔
      ∃ rest, key = expected :: rest ∧ spells tokens rest = true := by
  rw [spells_one]
  constructor
  · rintro ⟨character, rest, rfl, passes, spelled⟩
    obtain rfl : character = expected := by simpa [CharacterTest.passes] using passes
    exact ⟨rest, rfl, spelled⟩
  · rintro ⟨rest, rfl, spelled⟩
    exact ⟨expected, rest, rfl, by simp [CharacterTest.passes], spelled⟩

/-- Tokens are those of a pattern without classes, and spell what its text accepts. -/
structure Renders (pattern : List Char) (tokens : List PatternToken) : Prop where
  /-- They are the tokens of the pattern's parts. -/
  found : tokens? (Glob.parts pattern) = some tokens
  /-- They spell a key when the text accepts it. -/
  spelled : ∀ key, spells tokens key = true ↔ Glob.Accepts pattern key

/-- The token of the first part goes in front. -/
theorem tokens?_cons {part : Glob.Part} {token : PatternToken} {parts : List Glob.Part}
    {tokens : List PatternToken} (first : PatternToken.ofPart? part = some token)
    (later : tokens? parts = some tokens) : tokens? (part :: parts) = some (token :: tokens) := by
  rw [tokens?] at later ⊢
  simp [List.mapM_cons, first, later]

namespace Renders

variable {pattern : List Char} {tokens : List PatternToken}

/-- The empty pattern. -/
theorem nil : Renders [] [] := ⟨rfl, spells_nil⟩

/-- A star in front. -/
theorem star (rendered : Renders pattern tokens) :
    Renders ('*' :: pattern) (.anyRun :: tokens) where
  found := by
    rw [Glob.parts_star]
    exact tokens?_cons rfl rendered.found
  spelled key := by simp only [spells_anyRun, rendered.spelled, Glob.Accepts]

/-- A question mark in front. -/
theorem question (rendered : Renders pattern tokens) :
    Renders ('?' :: pattern) (.one .anything :: tokens) where
  found := by
    rw [Glob.parts_question]
    exact tokens?_cons rfl rendered.found
  spelled key := by
    simp only [spells_one, CharacterTest.passes, true_and, rendered.spelled, Glob.Accepts]

/-- A backslash at the end. -/
theorem trailing : Renders ['\\'] [.one (.exactly '\\')] where
  found := rfl
  spelled key := by simp [spells_exactly, spells_nil, Glob.Accepts]

/-- A backslash and the character behind it in front. -/
theorem backslash (rendered : Renders pattern tokens) (character : Char) :
    Renders ('\\' :: character :: pattern) (.one (.exactly character) :: tokens) where
  found := by
    rw [Glob.parts_backslash]
    exact tokens?_cons rfl rendered.found
  spelled key := by simp only [spells_exactly, rendered.spelled, Glob.Accepts]

/-- A character with no meaning of its own in front. -/
theorem cons (rendered : Renders pattern tokens) {character : Char} (noStar : character ≠ '*')
    (noMark : character ≠ '?') (noBackslash : character ≠ '\\') (noBracket : character ≠ '[') :
    Renders (character :: pattern) (.one (.exactly character) :: tokens) where
  found := by
    rw [Glob.parts_cons noStar noMark noBackslash noBracket]
    exact tokens?_cons rfl rendered.found
  spelled key := by
    simp only [spells_exactly, rendered.spelled, Glob.accepts_cons noStar noMark noBackslash]

end Renders

/-- Every pattern without classes has tokens that spell what its text accepts. -/
theorem exists_renders {pattern : List Char} (plain : '[' ∉ pattern) :
    ∃ tokens, Renders pattern tokens := by
  -- The induction follows the recursion of the meaning; the key plays no part in it.
  suffices general : ∀ pattern key : List Char, '[' ∉ pattern → ∃ tokens, Renders pattern tokens
    from general pattern [] plain
  intro pattern key
  induction pattern, key using Glob.Accepts.induct with
  | case1 => exact fun _ => ⟨[], .nil⟩
  | case2 pattern key ih =>
    intro plain
    obtain ⟨tokens, rendered⟩ := ih [] fun inside => plain (List.mem_cons_of_mem _ inside)
    exact ⟨_, rendered.star⟩
  | case3 pattern key ih =>
    intro plain
    obtain ⟨tokens, rendered⟩ := ih [] fun inside => plain (List.mem_cons_of_mem _ inside)
    exact ⟨_, rendered.question⟩
  | case4 => exact fun _ => ⟨_, .trailing⟩
  | case5 character pattern key ih =>
    intro plain
    obtain ⟨tokens, rendered⟩ := ih [] fun inside =>
      plain (List.mem_cons_of_mem _ (List.mem_cons_of_mem _ inside))
    exact ⟨_, rendered.backslash character⟩
  | case6 character pattern key noStar noMark noTrailing noBackslash ih =>
    intro plain
    obtain ⟨tokens, rendered⟩ := ih [] fun inside => plain (List.mem_cons_of_mem _ inside)
    have noEscape : character ≠ '\\' := by
      intro same
      cases pattern with
      | nil => exact noTrailing same rfl
      | cons next later => exact noBackslash next later same rfl
    have noBracket : character ≠ '[' := fun same => plain (same ▸ List.mem_cons_self)
    exact ⟨_, rendered.cons noStar noMark noEscape noBracket⟩

/-- The expression of a pattern whose text has no opening bracket is legal, so the pattern compiles
exactly if that expression is not too large. It keeps its text then, and matches exactly the keys
that its text accepts, and these are the keys in which a search finds the expression: a star takes
any characters, line ends included, a question mark takes any one, a backslash makes the next
character literal and stands for itself at the end, every other character takes itself, and the key
is used up. -/
theorem matchesKey_unbracketed [Libraries] {source : String} (plain : '[' ∉ source.toList) :
    ((∃ pattern, compile? source = some pattern) ↔ Fits source) ∧
      (∃ items, Expression.read? (Expression.ofPattern source.toList) = some items ∧
        ∀ key : String,
          Expression.Found items key.toList ↔ Glob.Accepts source.toList key.toList) ∧
      ∀ pattern, compile? source = some pattern → pattern.source = source ∧
        ∀ key : String, pattern.matchesKey key = true ↔
          Glob.Accepts source.toList key.toList := by
  obtain ⟨tokens, rendered⟩ := exists_renders plain
  have denoted : ofSource? source = some ⟨source, tokens⟩ := by
    have found := rendered.found
    rw [tokens?] at found
    rw [ofSource?, found]
    rfl
  have matching : ∀ key : String, matchesKey ⟨source, tokens⟩ key = true ↔
      Glob.Accepts source.toList key.toList := by
    intro key
    rw [matchesKey_eq_spells]
    exact rendered.spelled key.toList
  refine ⟨⟨?_, fun fits => ⟨_, compile?_eq_some_iff.2 ⟨fits, denoted⟩⟩⟩,
    ⟨Expression.itemsOf tokens, ?_, fun key => ?_⟩, fun pattern compiled => ?_⟩
  · rintro ⟨pattern, compiled⟩
    exact (compile?_eq_some_iff.1 compiled).1
  · rw [Expression.read?_eq_ofSource?, denoted]
    rfl
  · exact (Expression.found_iff_matchesKey ⟨source, tokens⟩ key).trans (matching key)
  · obtain rfl := Option.some.inj (denoted.symm.trans (compile?_eq_some_iff.1 compiled).2)
    exact ⟨rfl, matching⟩

open scoped Libraries.Plain

/-- A pattern with each kind of part and with signs of the language of expressions matches a key
across the ends of lines, and it does not match the same key with a line end behind it. -/
theorem matchesKey_unbracketed_lines :
    '[' ∉ "a.*?\\*$\\".toList ∧
      ∃ pattern items, compile? "a.*?\\*$\\" = some pattern ∧
        Expression.read? "(?s)^a\\..*.\\*\\$\\\\$".toList = some items ∧
        pattern.matchesKey "a.\n\n*$\\" = true ∧
        Expression.Found items "a.\n\n*$\\".toList ∧
        pattern.matchesKey "a.\n\n*$\\\n" = false := by
  have plain : '[' ∉ "a.*?\\*$\\".toList := by decide
  obtain ⟨compiles, ⟨items, read, found⟩, matching⟩ := matchesKey_unbracketed plain
  obtain ⟨pattern, compiled⟩ := compiles.2 (by decide)
  have accepted : Glob.Accepts "a.*?\\*$\\".toList "a.\n\n*$\\".toList :=
    ⟨_, rfl, _, rfl, ['\n'], _, rfl, '\n', _, rfl, _, rfl, _, rfl, rfl⟩
  refine ⟨plain, pattern, items, compiled, read, ((matching _ compiled).2 _).2 accepted,
    (found _).2 accepted, ?_⟩
  obtain rfl := Option.some.inj compiled
  decide

/-- A row of question marks is a row of parts for any one character. -/
theorem parts_questions (count : Nat) :
    Glob.parts (List.replicate count '?') = List.replicate count .anyOne := by
  induction count with
  | zero => rfl
  | succ count ih => rw [List.replicate_succ, Glob.parts_question, ih, List.replicate_succ]

/-- The expression of a row of parts for any one character grows with it. -/
theorem expressionSize_anyOne (count : Nat) :
    Libraries.expressionSize (List.replicate count .anyOne) = 964 * count := by
  induction count with
  | zero => rfl
  | succ count ih =>
    have grown : Libraries.expressionSize (List.replicate (count + 1) .anyOne) =
        964 + Libraries.expressionSize (List.replicate count .anyOne) := rfl
    rw [grown, ih]
    omega

/-- The expression of question marks is too large from some number on. -/
theorem fits_questions_iff (count : Nat) :
    Fits (String.ofList (List.replicate count '?')) ↔ 964 * count ≤ sizeLimit := by
  rw [Fits, String.toList_ofList, parts_questions, expressionSize_anyOne]

/-- A hundred thousand question marks do not compile. -/
theorem compile?_questions_eq_none :
    '[' ∉ (String.ofList (List.replicate 100000 '?')).toList ∧
      compile? (String.ofList (List.replicate 100000 '?')) = none := by
  have large : ¬ Fits (String.ofList (List.replicate 100000 '?')) := by
    rw [fits_questions_iff]
    decide
  constructor
  · rw [String.toList_ofList]
    exact fun inside => absurd (List.eq_of_mem_replicate inside) (by decide)
  · rw [compile?, if_neg large]

end Pattern

end FailOpenCache
