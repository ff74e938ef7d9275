import FailOpenCache.Pattern.Matching

/-!
# Patterns as regular expressions

A pattern is written as a regular expression: its parts one behind the other, each literal
character that is a sign of that language behind a backslash, between two anchors and behind the
flag with which a dot stands for the end of a line as well. `read?` reads an expression by the rules
of its language, in which every sign keeps its meaning, and `Found` says what a search for it finds
anywhere in a text. So it is proved here, for classes too, that nothing in a pattern is mistaken for
a sign: the expression of a pattern is legal exactly when the pattern's parts denote something, and
a search finds it exactly in the keys that the pattern matches. Groups, alternatives and repetitions
other than the star are not read. How large an expression gets is the library's business; a pattern
whose expression is legal compiles exactly if it is not too large.
-/

namespace FailOpenCache

namespace Pattern

/-- A run in front of tokens spells any characters in front of what the tokens spell. -/
theorem spells_anyRun (tokens : List PatternToken) (key : List Char) :
    spells (.anyRun :: tokens) key = true ↔
      ∃ run rest, key = run ++ rest ∧ spells tokens rest = true := by
  induction key with
  | nil =>
    rw [spells]
    constructor
    · intro spelled
      exact ⟨[], [], rfl, spelled⟩
    · rintro ⟨run, rest, split, spelled⟩
      rwa [(List.append_eq_nil_iff.1 split.symm).2] at spelled
  | cons character later ih =>
    rw [spells, Bool.or_eq_true, ih]
    constructor
    · rintro (here | ⟨run, rest, rfl, spelled⟩)
      · exact ⟨[], character :: later, rfl, here⟩
      · exact ⟨character :: run, rest, rfl, spelled⟩
    · rintro ⟨run, rest, split, spelled⟩
      cases run with
      | nil =>
        rw [List.nil_append] at split
        exact .inl (split ▸ spelled)
      | cons first others =>
        obtain ⟨-, split⟩ := List.cons.inj split
        exact .inr ⟨others, rest, split, spelled⟩

/-- A test in front of tokens spells one character that passes in front of what the tokens
spell. -/
theorem spells_one (test : CharacterTest) (tokens : List PatternToken) (key : List Char) :
    spells (.one test :: tokens) key = true ↔
      ∃ character rest, key = character :: rest ∧ test.passes character = true ∧
        spells tokens rest = true := by
  cases key with
  | nil => simp [spells]
  | cons character later =>
    rw [spells, Bool.and_eq_true]
    constructor
    · rintro ⟨passes, spelled⟩
      exact ⟨character, later, rfl, passes, spelled⟩
    · rintro ⟨_, _, split, passes, spelled⟩
      obtain ⟨rfl, rfl⟩ := List.cons.inj split
      exact ⟨passes, spelled⟩

/-- No tokens spell the empty key only. -/
theorem spells_nil (key : List Char) : spells [] key = true ↔ key = [] := by
  cases key <;> simp [spells]

/-- A pattern compiles exactly if its parts denote something and its expression is not too large. -/
theorem compile?_eq_some_iff [Libraries] {source : String} {pattern : Pattern} :
    compile? source = some pattern ↔ Fits source ∧ ofSource? source = some pattern := by
  rw [compile?]
  split
  · rename_i fits
    simp [fits]
  · rename_i large
    simp [large]

/-- The tokens of a list of parts, if each part has one. -/
def tokens? (parts : List Glob.Part) : Option (List PatternToken) :=
  parts.mapM PatternToken.ofPart?

end Pattern

/-- A step of what an expression describes. -/
inductive ExpressionItem where
  /-- The beginning of the text. -/
  | beginning
  /-- The end of the text. -/
  | ending
  /-- One character that passes a test. -/
  | one (test : CharacterTest)
  /-- Any characters that pass a test, or none. -/
  | many (test : CharacterTest)
deriving DecidableEq

namespace Expression

/-- The character means something in an expression, so it stands for itself behind a backslash
only. -/
def isSign (character : Char) : Bool :=
  ['\\', '.', '+', '*', '?', '(', ')', '|', '[', ']', '\x7b', '\x7d', '^', '$', '#', '&', '-',
    '~'].contains character

/-- A character that stands for itself. -/
def ofLiteral (character : Char) : List Char :=
  if isSign character then ['\\', character] else [character]

/-- A part of a glob in the language of expressions. -/
def ofPart : Glob.Part → List Char
  | .anyRun => ['.', '*']
  | .anyOne => ['.']
  | .literal character => ofLiteral character
  | .bracket body => '[' :: body ++ [']']

/-- The expression of a pattern. -/
def ofPattern (pattern : List Char) : List Char :=
  ['(', '?', 's', ')', '^'] ++ (Glob.parts pattern).flatMap ofPart ++ ['$']

/-- Where in an expression a character stands. What is gathered is kept the latest character
first. -/
inductive Place where
  /-- Outside of classes. -/
  | plain
  /-- Behind a backslash outside of classes. -/
  | escaped
  /-- In a group. -/
  | group (text : List Char)
  /-- In the body of a class. -/
  | inside (body : List Char)
  /-- Behind a backslash in the body of a class. -/
  | insideEscaped (body : List Char)
deriving DecidableEq

/-- An expression that is being read. -/
structure Reading where
  /-- A dot stands for the end of a line, too. -/
  newlines : Bool
  /-- The items read so far, the latest first. -/
  items : List ExpressionItem
  /-- Where the next character stands. -/
  place : Place
deriving DecidableEq

namespace Reading

/-- Nothing is read yet, and the flag is off. -/
def start : Reading := ⟨false, [], .plain⟩

/-- One more item, outside of classes. -/
def add (reading : Reading) (item : ExpressionItem) : Reading :=
  { reading with items := item :: reading.items, place := .plain }

/-- What a dot stands for. -/
def dot (reading : Reading) : CharacterTest :=
  if reading.newlines then .anything else .among ⟨true, [[.range '\n' '\n']]⟩

/-- The last item as often as wanted, if it is one character. -/
def repeatLast? (reading : Reading) : Option Reading :=
  match reading.items with
  | .one test :: earlier => some { reading with items := .many test :: earlier }
  | _ => none

/-- One more character outside of classes. -/
def stepPlain? (reading : Reading) (character : Char) : Option Reading :=
  if character = '\\' then some { reading with place := .escaped }
  else if character = '[' then some { reading with place := .inside [] }
  else if character = '(' then some { reading with place := .group [] }
  else if character = '.' then some (reading.add (.one reading.dot))
  else if character = '^' then some (reading.add .beginning)
  else if character = '$' then some (reading.add .ending)
  else if character = '*' then reading.repeatLast?
  else if character = '+' ∨ character = '?' ∨ character = '|' ∨ character = ')' ∨
      character = '\x7b' then none
  else some (reading.add (.one (.exactly character)))

/-- One more character in the body of a class, in which a closing bracket in front is literal.
Classes inside of classes are not read. -/
def stepInside? (reading : Reading) (body : List Char) (character : Char) : Option Reading :=
  if character = ']' then
    if body = [] ∨ body = ['^'] then some { reading with place := .inside (']' :: body) }
    else (CharacterClass.ofBody? body.reverse).map fun characters =>
      reading.add (.one (.among characters))
  else if character = '\\' then some { reading with place := .insideEscaped body }
  else if character = '[' ∨ character = '&' ∨ character = '~' then none
  else some { reading with place := .inside (character :: body) }

/-- One more character. -/
def step? (reading : Reading) (character : Char) : Option Reading :=
  match reading.place with
  | .plain => reading.stepPlain? character
  | .escaped => if isSign character then some (reading.add (.one (.exactly character))) else none
  | .group text =>
    if character ≠ ')' then some { reading with place := .group (character :: text) }
    else if text.reverse = ['?', 's'] then some { reading with newlines := true, place := .plain }
    else none
  | .inside body => reading.stepInside? body character
  | .insideEscaped body => some { reading with place := .inside (character :: '\\' :: body) }

/-- All characters that are still to come. -/
def steps? (reading : Reading) : List Char → Option Reading
  | [] => some reading
  | character :: rest => (reading.step? character).bind fun next => next.steps? rest

/-- The items in their order, if the expression ends outside of classes and groups. -/
def finish? (reading : Reading) : Option (List ExpressionItem) :=
  if reading.place = .plain then some reading.items.reverse else none

/-- Texts are read one behind the other. -/
theorem steps?_append (reading : Reading) (text later : List Char) :
    reading.steps? (text ++ later) = (reading.steps? text).bind fun next => next.steps? later := by
  induction text generalizing reading with
  | nil => rfl
  | cons character rest ih =>
    rw [List.cons_append, steps?, steps?]
    cases reading.step? character with
    | none => rfl
    | some next => exact ih next

end Reading

/-- The items of an expression, if its text is one. -/
def read? (text : List Char) : Option (List ExpressionItem) :=
  (Reading.start.steps? text).bind Reading.finish?

/-- Items fit at a place in a text, given by what stands before and behind it. -/
def Fits : List ExpressionItem → List Char → List Char → Prop
  | [], _, _ => True
  | .beginning :: items, before, behind => before = [] ∧ Fits items before behind
  | .ending :: items, before, behind => behind = [] ∧ Fits items before behind
  | .one test :: items, before, behind => ∃ character rest, behind = character :: rest ∧
    test.passes character = true ∧ Fits items (before ++ [character]) rest
  | .many test :: items, before, behind => ∃ run rest, behind = run ++ rest ∧
    (∀ character ∈ run, test.passes character = true) ∧ Fits items (before ++ run) rest

/-- A search for the items finds them somewhere in the text. -/
def Found (items : List ExpressionItem) (text : List Char) : Prop :=
  ∃ before behind, text = before ++ behind ∧ Fits items before behind

/-- The item of a token. -/
def itemOf : PatternToken → ExpressionItem
  | .anyRun => .many .anything
  | .one test => .one test

/-- The items of tokens between two anchors. -/
def itemsOf (tokens : List PatternToken) : List ExpressionItem :=
  .beginning :: tokens.map itemOf ++ [.ending]

/-- The items of tokens fit up to the end of a text when the tokens spell what stands behind. -/
theorem fits_itemOf_iff (tokens : List PatternToken) (before behind : List Char) :
    Fits (tokens.map itemOf ++ [.ending]) before behind ↔
      Pattern.spells tokens behind = true := by
  induction tokens generalizing before behind with
  | nil => simp [Fits, Pattern.spells_nil]
  | cons token later ih =>
    cases token with
    | anyRun => simp [itemOf, Fits, ih, Pattern.spells_anyRun, CharacterTest.passes]
    | one test => simp [itemOf, Fits, ih, Pattern.spells_one]

/-- Between two anchors tokens are found where they spell the whole text. -/
theorem found_itemsOf_iff (tokens : List PatternToken) (text : List Char) :
    Found (itemsOf tokens) text ↔ Pattern.spells tokens text = true := by
  constructor
  · rintro ⟨before, behind, rfl, rfl, fits⟩
    exact (fits_itemOf_iff tokens _ _).1 fits
  · intro spelled
    exact ⟨[], text, rfl, rfl, (fits_itemOf_iff tokens _ _).2 spelled⟩

/-- The text is the body of a class so far: no bracket in it opens or closes a class, and none of
its signs combines two classes. -/
inductive Unclosed : List Char → Prop
  /-- Nothing. -/
  | nil : Unclosed []
  /-- A character behind a backslash. -/
  | escaped (character : Char) {later : List Char} (unclosed : Unclosed later) :
    Unclosed ('\\' :: character :: later)
  /-- Any other character. -/
  | cons {character : Char} {later : List Char} (plain : character ∉ [']', '\\', '[', '&', '~'])
    (unclosed : Unclosed later) : Unclosed (character :: later)

/-- What is read behind the body of a class is part of it as well. -/
theorem Unclosed.append {body later : List Char} (unclosed : Unclosed body)
    (unclosed' : Unclosed later) : Unclosed (body ++ later) := by
  induction unclosed with
  | nil => exact unclosed'
  | escaped character _ ih => exact .escaped character ih
  | cons plain _ ih => exact .cons plain ih

/-- The body of a class is read on as it stands. -/
theorem Unclosed.steps? {body : List Char} (unclosed : Unclosed body) (reading : Reading)
    (earlier : List Char) :
    Reading.steps? { reading with place := .inside earlier } body =
      some { reading with place := .inside (body.reverse ++ earlier) } := by
  induction unclosed generalizing earlier with
  | nil => rfl
  | escaped character _ ih =>
    simp [Reading.steps?, Reading.step?, Reading.stepInside?, ih]
  | cons plain _ ih =>
    simp only [List.mem_cons, List.not_mem_nil, or_false, not_or] at plain
    simp [Reading.steps?, Reading.step?, Reading.stepInside?, plain, ih]

namespace Reading

variable {reading : Reading}

/-- Several more items, outside of classes. -/
def addAll (reading : Reading) (items : List ExpressionItem) : Reading :=
  { reading with items := items.reverse ++ reading.items, place := .plain }

/-- A literal character is read as itself, be it a sign or not. -/
theorem steps?_ofLiteral (plain : reading.place = .plain) (character : Char) :
    reading.steps? (ofLiteral character) = some (reading.add (.one (.exactly character))) := by
  unfold ofLiteral
  split
  · rename_i sign
    simp [steps?, step?, stepPlain?, add, plain, sign]
  · rename_i noSign
    simp only [isSign, List.contains_cons, List.contains_nil, Bool.or_false, Bool.or_eq_true,
      beq_iff_eq, not_or] at noSign
    simp [steps?, step?, stepPlain?, plain, noSign]

end Reading

/-- The text between brackets is the body of a class, and not one in which a closing bracket would
be literal. -/
def Readable : Glob.Part → Prop
  | .bracket body => Unclosed body ∧ body ≠ [] ∧ body ≠ ['^']
  | _ => True

/-- What stands between a place and the brackets of a class is the body of one. -/
def Open : Glob.Place → Prop
  | .inside body => Unclosed body.reverse
  | .insideEscaped body => Unclosed body.reverse
  | _ => True

/-- The parts of a bracket that opens no class are readable. -/
theorem readable_literalBracket (body : List Char) : ∀ part ∈ Glob.literalBracket body,
    Readable part := by
  intro part held
  rcases List.mem_cons.1 held with rfl | later
  · trivial
  · obtain ⟨character, -, rfl⟩ := List.mem_map.1 later
    trivial

/-- One character in the body of a class completes readable parts and leads on. -/
theorem readable_stepInside {body : List Char} (unclosed : Unclosed body.reverse)
    (character : Char) : (∀ part ∈ (Glob.stepInside body character).1, Readable part) ∧
      Open (Glob.stepInside body character).2 := by
  unfold Glob.stepInside
  split
  · refine ⟨?_, trivial⟩
    unfold Glob.closeBracket
    split
    · exact readable_literalBracket _
    · rename_i bodied
      rw [not_or] at bodied
      intro part held
      obtain rfl := List.mem_singleton.1 held
      exact ⟨unclosed, bodied⟩
  · rename_i notClosed
    split
    · exact ⟨nofun, unclosed⟩
    · rename_i notEscape
      split
      · refine ⟨nofun, ?_⟩
        change Unclosed (character :: '\\' :: body).reverse
        rw [List.reverse_cons, List.reverse_cons, List.append_assoc]
        exact unclosed.append (.escaped character .nil)
      · rename_i notCombined
        refine ⟨nofun, ?_⟩
        change Unclosed (character :: body).reverse
        rw [List.reverse_cons]
        refine unclosed.append (.cons ?_ .nil)
        simp only [List.mem_cons, List.not_mem_nil, or_false]
        rintro (same | same | combined)
        · exact notClosed same
        · exact notEscape same
        · exact notCombined combined

/-- One character completes readable parts and leads on. -/
theorem readable_step {place : Glob.Place} (opened : Open place) (character : Char) :
    (∀ part ∈ (Glob.step place character).1, Readable part) ∧
      Open (Glob.step place character).2 := by
  cases place with
  | plain =>
    unfold Glob.step
    dsimp only
    repeat' split
    all_goals simp [Readable, Open]
  | escaped => simp [Glob.step, Readable, Open]
  | opened =>
    rw [Glob.step]
    split
    · exact ⟨nofun, .cons (by decide) .nil⟩
    · have nothing : Unclosed ([] : List Char).reverse := .nil
      exact readable_stepInside nothing character
  | inside body => exact readable_stepInside opened character
  | insideEscaped body =>
    refine ⟨nofun, ?_⟩
    change Unclosed (character :: '\\' :: body).reverse
    rw [List.reverse_cons, List.reverse_cons, List.append_assoc]
    exact Unclosed.append opened (.escaped character .nil)

/-- The end of a pattern completes readable parts. -/
theorem readable_finish (place : Glob.Place) : ∀ part ∈ Glob.finish place, Readable part := by
  cases place with
  | plain => exact nofun
  | escaped => simp [Glob.finish, Readable]
  | opened => exact readable_literalBracket _
  | inside body => exact readable_literalBracket _
  | insideEscaped body => exact readable_literalBracket _

/-- Every part of a pattern is readable. -/
theorem readable_partsFrom {place : Glob.Place} (opened : Open place) (pattern : List Char) :
    ∀ part ∈ Glob.partsFrom place pattern, Readable part := by
  induction pattern generalizing place with
  | nil => exact readable_finish place
  | cons character rest ih =>
    obtain ⟨parts, leads⟩ := readable_step opened character
    intro part held
    rcases List.mem_append.1 held with here | later
    · exact parts part here
    · exact ih leads part later

namespace Reading

variable {reading : Reading}

/-- A readable part is read as its token, if it has one. -/
theorem steps?_ofPart (plain : reading.place = .plain) (flag : reading.newlines = true)
    {part : Glob.Part} (readable : Readable part) :
    reading.steps? (ofPart part) =
      (PatternToken.ofPart? part).map fun token => reading.add (itemOf token) := by
  cases part with
  | anyRun =>
    simp [ofPart, steps?, step?, stepPlain?, plain, add, repeatLast?, dot, flag,
      PatternToken.ofPart?, itemOf]
  | anyOne =>
    simp [ofPart, steps?, step?, stepPlain?, plain, dot, flag, PatternToken.ofPart?, itemOf]
  | literal character => exact steps?_ofLiteral plain character
  | bracket body =>
    obtain ⟨unclosed, nonempty, unmarked⟩ := readable
    have opens : reading.step? '[' = some { reading with place := .inside [] } := by
      simp [step?, stepPlain?, plain]
    have bodied : ¬ (body.reverse = [] ∨ body.reverse = ['^']) := by
      rintro (none | mark)
      · exact nonempty (List.reverse_eq_nil_iff.1 none)
      · exact unmarked (List.reverse_inj.1 mark)
    have closes : Reading.step? { reading with place := .inside body.reverse } ']' =
        (CharacterClass.ofBody? body).map fun characters =>
          reading.add (.one (.among characters)) := by
      rw [step?]
      dsimp only
      rw [stepInside?, if_pos rfl, if_neg bodied, List.reverse_reverse]
      rfl
    rw [ofPart, List.cons_append, steps?, opens, Option.bind_some, steps?_append, unclosed.steps?,
      Option.bind_some, List.append_nil, steps?, closes, PatternToken.ofPart?]
    cases CharacterClass.ofBody? body <;> rfl

/-- Readable parts are read as their tokens, if each of them has one. -/
theorem steps?_ofParts (plain : reading.place = .plain) (flag : reading.newlines = true)
    {parts : List Glob.Part} (readable : ∀ part ∈ parts, Readable part) :
    reading.steps? (parts.flatMap ofPart) =
      (Pattern.tokens? parts).map fun tokens => reading.addAll (tokens.map itemOf) := by
  induction parts generalizing reading with
  | nil =>
    obtain ⟨newlines, items, place⟩ := reading
    cases plain
    rfl
  | cons part later ih =>
    rw [List.flatMap_cons, steps?_append, steps?_ofPart plain flag (readable part
      List.mem_cons_self), Pattern.tokens?, List.mapM_cons]
    cases PatternToken.ofPart? part with
    | none => rfl
    | some token =>
      have rest : (reading.add (itemOf token)).steps? (later.flatMap ofPart) =
          (Pattern.tokens? later).map fun tokens =>
            (reading.add (itemOf token)).addAll (tokens.map itemOf) :=
        ih rfl flag fun part held => readable part (List.mem_cons_of_mem _ held)
      rw [Option.map_some, Option.bind_some, rest, Pattern.tokens?]
      cases later.mapM PatternToken.ofPart? with
      | none => rfl
      | some tokens => simp [add, addAll]

end Reading

/-- The expression of a pattern is read as the tokens of the pattern's parts between two anchors, if
each part has a token. -/
theorem read?_ofPattern (pattern : List Char) :
    read? (ofPattern pattern) = (Pattern.tokens? (Glob.parts pattern)).map itemsOf := by
  have opening : Reading.start.steps? ['(', '?', 's', ')', '^'] =
      some ⟨true, [.beginning], .plain⟩ := by decide
  have outside : Open .plain := trivial
  have readable : ∀ part ∈ Glob.parts pattern, Readable part := readable_partsFrom outside pattern
  rw [read?, ofPattern, List.append_assoc, Reading.steps?_append, opening, Option.bind_some,
    Reading.steps?_append, Reading.steps?_ofParts rfl rfl readable]
  cases Pattern.tokens? (Glob.parts pattern) with
  | none => rfl
  | some tokens =>
    simp [Reading.steps?, Reading.step?, Reading.stepPlain?, Reading.addAll, Reading.add,
      Reading.finish?, itemsOf]

/-- The expression of a pattern is legal exactly when the parts of the pattern denote something, and
is read as the pattern's tokens between two anchors. -/
theorem read?_eq_ofSource? (source : String) :
    read? (ofPattern source.toList) =
      (Pattern.ofSource? source).map fun pattern => itemsOf pattern.tokens := by
  rw [read?_ofPattern, Pattern.ofSource?, Option.map_map]
  rfl

/-- A search for what the expression of a pattern says finds it exactly in the keys that the pattern
matches. -/
theorem found_iff_matchesKey (pattern : Pattern) (key : String) :
    Found (itemsOf pattern.tokens) key.toList ↔ pattern.matchesKey key = true := by
  rw [found_itemsOf_iff, Pattern.matchesKey_eq_spells]

end Expression

end FailOpenCache
