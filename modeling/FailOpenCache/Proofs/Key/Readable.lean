import FailOpenCache.Key
import FailOpenCache.Proofs.Sorted

/-!
# Readable keys

A readable key states its parameters as they are, so a separator inside a part is spelled like one
between two parts, and different parameters can have one key. The parts are told apart again where
no separator can be mistaken. Read from the front, that is where no name holds the sign behind a
name and no value the sign behind a value; read from the back, where no name holds the sign in front
of a name and no value the sign in front of a value. The order in which parameters are given plays
no part.
-/

namespace FailOpenCache.Key

/-- Pairs of parts as a readable key spells them. -/
def spell (pairs : List (List Char × List Char)) : List Char :=
  ['_'].intercalate (pairs.map fun pair => pair.1 ++ '=' :: pair.2)

/-- Spelled pairs behind a separator, or nothing when there are none. -/
def spellBehind (separator : Char) : List (List Char × List Char) → List Char
  | [] => []
  | pair :: rest => separator :: spell (pair :: rest)

/-- Pairs are spelled one behind the other. -/
theorem spell_cons (pair : List Char × List Char) (rest : List (List Char × List Char)) :
    spell (pair :: rest) = pair.1 ++ '=' :: (pair.2 ++ spellBehind '_' rest) := by
  cases rest with
  | nil => simp [spell, spellBehind]
  | cons next later => simp [spell, spellBehind, List.intercalate_cons_cons]

/-- Something is spelled for each pair. -/
theorem spell_cons_ne_nil (pair : List Char × List Char) (rest : List (List Char × List Char)) :
    spell (pair :: rest) ≠ [] := by
  rw [spell_cons]
  exact List.append_ne_nil_of_right_ne_nil _ (List.cons_ne_nil _ _)

/-- The last of several pairs is spelled at the end. -/
theorem spell_append_singleton {pairs : List (List Char × List Char)} (several : pairs ≠ [])
    (last : List Char × List Char) :
    spell (pairs ++ [last]) = spell pairs ++ '_' :: (last.1 ++ '=' :: last.2) := by
  induction pairs with
  | nil => exact absurd rfl several
  | cons pair rest ih =>
    rw [List.cons_append, spell_cons, spell_cons]
    cases rest with
    | nil => simp [spellBehind, spell]
    | cons next later =>
      have behind := ih (List.cons_ne_nil next later)
      rw [List.cons_append] at behind
      simp [spellBehind, behind]

/-- What is spelled behind a separator starts with it. -/
theorem head?_spellBehind {separator first : Char} {pairs : List (List Char × List Char)}
    (starts : first ∈ (spellBehind separator pairs).head?) : first = separator := by
  cases pairs with
  | nil => cases starts
  | cons pair rest => exact (Option.some.inj starts).symm

/-- What is spelled behind a separator tells what is spelled. -/
theorem spell_eq_of_spellBehind_eq {separator : Char} {pairs others : List (List Char × List Char)}
    (same : spellBehind separator pairs = spellBehind separator others) :
    spell pairs = spell others := by
  cases pairs with
  | nil =>
    cases others with
    | nil => rfl
    | cons other later => cases same
  | cons pair rest =>
    cases others with
    | nil => cases same
    | cons other later => exact (List.cons.inj same).2

/-- What stands in front of the first separator is found again. -/
theorem takeWhile_front {separator : Char} {front rest : List Char} (clean : separator ∉ front)
    (cut : ∀ first ∈ rest.head?, first = separator) :
    (front ++ rest).takeWhile (· ≠ separator) = front := by
  have held : ∀ character ∈ front, decide (character ≠ separator) = true := by
    intro character inside
    exact decide_eq_true fun same => clean (same ▸ inside)
  rw [List.takeWhile_append_of_pos held]
  cases rest with
  | nil => simp
  | cons first later => simp [cut first rfl]

/-- Two texts are cut alike at their first separators. -/
theorem eq_of_append_eq {separator : Char} {front front' rest rest' : List Char}
    (clean : separator ∉ front) (clean' : separator ∉ front')
    (cut : ∀ first ∈ rest.head?, first = separator)
    (cut' : ∀ first ∈ rest'.head?, first = separator)
    (same : front ++ rest = front' ++ rest') : front = front' ∧ rest = rest' := by
  have fronts : front = front' := by
    rw [← takeWhile_front clean cut, same, takeWhile_front clean' cut']
  subst fronts
  exact ⟨rfl, List.append_cancel_left same⟩

/-- A text that goes on with a separator is cut there. -/
theorem head?_separator {separator first : Char} {rest : List Char}
    (starts : first ∈ (separator :: rest).head?) : first = separator :=
  (Option.some.inj starts).symm

/-- Pairs are told apart by their spelling, read from the front: no sign behind a name stands in a
name, and none behind a value in a value. -/
theorem spell_injective_front {pairs others : List (List Char × List Char)}
    (clean : ∀ pair ∈ pairs, '=' ∉ pair.1 ∧ '_' ∉ pair.2)
    (clean' : ∀ pair ∈ others, '=' ∉ pair.1 ∧ '_' ∉ pair.2)
    (same : spell pairs = spell others) : pairs = others := by
  induction pairs generalizing others with
  | nil =>
    cases others with
    | nil => rfl
    | cons other later => exact absurd same.symm (spell_cons_ne_nil other later)
  | cons pair rest ih =>
    cases others with
    | nil => exact absurd same (spell_cons_ne_nil pair rest)
    | cons other later =>
      have first := clean pair List.mem_cons_self
      have first' := clean' other List.mem_cons_self
      rw [spell_cons, spell_cons] at same
      obtain ⟨names, behind⟩ := eq_of_append_eq first.1 first'.1 (fun _ => head?_separator)
        (fun _ => head?_separator) same
      obtain ⟨values, remaining⟩ := eq_of_append_eq first.2 first'.2
        (fun _ => head?_spellBehind) (fun _ => head?_spellBehind) (List.cons.inj behind).2
      rw [ih (fun pair inside => clean pair (List.mem_cons_of_mem _ inside))
        (fun pair inside => clean' pair (List.mem_cons_of_mem _ inside))
        (spell_eq_of_spellBehind_eq remaining), Prod.ext names values]

/-- The pairs that are read from the back. -/
def mirrored (pairs : List (List Char × List Char)) : List (List Char × List Char) :=
  (pairs.map fun pair => (pair.2.reverse, pair.1.reverse)).reverse

/-- Mirrored pairs are spelled in reverse. -/
theorem spell_mirrored (pairs : List (List Char × List Char)) :
    spell (mirrored pairs) = (spell pairs).reverse := by
  induction pairs with
  | nil => rfl
  | cons pair rest ih =>
    have front : mirrored (pair :: rest) =
        mirrored rest ++ [(pair.2.reverse, pair.1.reverse)] := by
      simp [mirrored]
    rw [front]
    cases rest with
    | nil => simp [mirrored, spell]
    | cons next later =>
      have several : mirrored (next :: later) ≠ [] := by simp [mirrored]
      rw [spell_append_singleton several, ih, spell_cons pair, spellBehind]
      simp

/-- Mirroring twice changes nothing. -/
theorem mirrored_mirrored (pairs : List (List Char × List Char)) :
    mirrored (mirrored pairs) = pairs := by
  simp [mirrored, List.map_reverse, Function.comp_def]

/-- Pairs are told apart by their spelling, read from the back: no sign in front of a name stands
in a name, and none in front of a value in a value. -/
theorem spell_injective_back {pairs others : List (List Char × List Char)}
    (clean : ∀ pair ∈ pairs, '_' ∉ pair.1 ∧ '=' ∉ pair.2)
    (clean' : ∀ pair ∈ others, '_' ∉ pair.1 ∧ '=' ∉ pair.2)
    (same : spell pairs = spell others) : pairs = others := by
  have cleanMirrored : ∀ {pairs : List (List Char × List Char)},
      (∀ pair ∈ pairs, '_' ∉ pair.1 ∧ '=' ∉ pair.2) →
        ∀ pair ∈ mirrored pairs, '=' ∉ pair.1 ∧ '_' ∉ pair.2 := by
    intro pairs clean pair held
    obtain ⟨source, inside, rfl⟩ := List.mem_map.1 (List.mem_reverse.1 held)
    exact ⟨fun found => (clean source inside).2 (List.mem_reverse.1 found),
      fun found => (clean source inside).1 (List.mem_reverse.1 found)⟩
  have spelled : spell (mirrored pairs) = spell (mirrored others) := by
    rw [spell_mirrored, spell_mirrored, same]
  rw [← mirrored_mirrored pairs,
    spell_injective_front (cleanMirrored clean) (cleanMirrored clean') spelled, mirrored_mirrored]

/-- The parts of parameters in the order of the names. -/
def parts (parameters : List (String × String)) : List (List Char × List Char) :=
  (sortByName parameters).map fun parameter => (parameter.1.toList, parameter.2.toList)

/-- Two lists of parameters are the same mapping; of several under one name the last one counts. -/
def SameParameters (parameters parameters' : List (String × String)) : Prop :=
  ∀ name, lastUnder? parameters name = lastUnder? parameters' name

/-- Parameters have the same parts when they are the same mapping. -/
theorem parts_eq_iff (parameters parameters' : List (String × String)) :
    parts parameters = parts parameters' ↔ SameParameters parameters parameters' := by
  rw [parts, parts, List.map_inj_right, sortByName_eq_iff, SameParameters]
  rintro ⟨name, value⟩ ⟨name', value'⟩ same
  obtain ⟨names, values⟩ := Prod.mk.inj same
  exact Prod.ext (String.toList_inj.1 names) (String.toList_inj.1 values)

/-- What holds of the texts of all parameters holds of all parts. -/
theorem forall_mem_parts {holds : List Char × List Char → Prop}
    {parameters : List (String × String)}
    (given : ∀ parameter ∈ parameters, holds (parameter.1.toList, parameter.2.toList)) :
    ∀ pair ∈ parts parameters, holds pair := by
  intro pair held
  obtain ⟨parameter, inside, rfl⟩ := List.mem_map.1 held
  exact given parameter (mem_of_mem_sortByName inside)

/-- A readable key is its beginning and the spelled parts of its parameters. -/
theorem toList_withParameters (key : String) (parameters : List (String × String)) :
    (withParameters key parameters).toList = key.toList ++ spellBehind ':' (parts parameters) := by
  have spelled : (spellParameters parameters).toList = spell (parts parameters) := by
    simp [spellParameters, spell, parts, String.toList_intercalate, Function.comp_def]
  rw [withParameters]
  by_cases empty : parameters = []
  · subst empty
    simp [parts, sortByName, spellBehind]
  · have several : parts parameters ≠ [] := by
      rw [parts, Ne, List.map_eq_nil_iff, sortByName_eq_nil_iff]
      exact empty
    obtain ⟨pair, rest, split⟩ := List.exists_cons_of_ne_nil several
    rw [if_neg fun isEmpty => empty (List.isEmpty_iff.1 isEmpty), split, spellBehind, ← split,
      ← spelled]
    simp

/-- No separator inside a part is mistaken for one between parts, read from the front or read from
the back. -/
def Separable (parameters : List (String × String)) : Prop :=
  (∀ parameter ∈ parameters, '=' ∉ parameter.1.toList ∧ '_' ∉ parameter.2.toList) ∨
    (∀ parameter ∈ parameters, '_' ∉ parameter.1.toList ∧ '=' ∉ parameter.2.toList)

/-- No colon inside a subject or a name is mistaken for the one between the subject and the
parameters. -/
def SubjectsSeparable (users : List String) (parameters : List (String × String)) : Prop :=
  (∀ user ∈ users, ':' ∉ user.toList) ∨
    ((∀ user ∈ users, '=' ∉ user.toList) ∧ ∀ parameter ∈ parameters, ':' ∉ parameter.1.toList)

/-- What is spelled for separable parameters behind a separator tells their parts. -/
theorem parts_eq_of_spellBehind_eq {separator : Char}
    {parameters parameters' : List (String × String)}
    (separable : Separable (parameters ++ parameters'))
    (same : spellBehind separator (parts parameters) = spellBehind separator (parts parameters')) :
    parts parameters = parts parameters' := by
  have spelled := spell_eq_of_spellBehind_eq same
  rcases separable with front | back
  · obtain ⟨clean, clean'⟩ := List.forall_mem_append.1 front
    exact spell_injective_front (forall_mem_parts clean) (forall_mem_parts clean') spelled
  · obtain ⟨clean, clean'⟩ := List.forall_mem_append.1 back
    exact spell_injective_back (forall_mem_parts clean) (forall_mem_parts clean') spelled

/-- The first equals sign of spelled pairs has no colon in front of it, if the names have none. -/
theorem spell_eq_front_append {pair : List Char × List Char} (clean : ':' ∉ pair.1)
    (rest : List (List Char × List Char)) :
    ∃ front later, spell (pair :: rest) = front ++ '=' :: later ∧ '=' ∉ front ∧ ':' ∉ front := by
  rw [spell_cons]
  by_cases inside : '=' ∈ pair.1
  · obtain ⟨front, behind, split, unmarked⟩ := List.eq_append_cons_of_mem inside
    refine ⟨front, behind ++ '=' :: (pair.2 ++ spellBehind '_' rest), ?_, unmarked, ?_⟩
    · rw [split, List.append_assoc, List.cons_append]
    · intro found
      exact clean (split ▸ List.mem_append_left _ found)
  · exact ⟨pair.1, _, rfl, inside, clean⟩

/-- A subject without an equals sign is told from names without a colon. -/
theorem subject_eq_of_append_eq {user user' : List Char}
    {pairs others : List (List Char × List Char)}
    (clean : '=' ∉ user) (clean' : '=' ∉ user') (names : ∀ pair ∈ pairs, ':' ∉ pair.1)
    (names' : ∀ pair ∈ others, ':' ∉ pair.1)
    (same : user ++ spellBehind ':' pairs = user' ++ spellBehind ':' others) : user = user' := by
  cases pairs with
  | nil =>
    cases others with
    | nil => simpa [spellBehind] using same
    | cons other later =>
      rw [spellBehind, spellBehind, spell_cons, List.append_nil] at same
      exact absurd (by simp [same]) clean
  | cons pair rest =>
    cases others with
    | nil =>
      rw [spellBehind, spellBehind, spell_cons, List.append_nil] at same
      exact absurd (by simp [← same]) clean'
    | cons other later =>
      obtain ⟨front, behind, spelled, unmarked, closed⟩ :=
        spell_eq_front_append (names pair List.mem_cons_self) rest
      obtain ⟨front', behind', spelled', unmarked', closed'⟩ :=
        spell_eq_front_append (names' other List.mem_cons_self) later
      rw [spellBehind, spellBehind, spelled, spelled'] at same
      -- The first equals sign bounds the subject with the beginning of a name behind it, and the
      -- last colon in there ends the subject.
      have bounded : (user ++ ':' :: front) ++ '=' :: behind =
          (user' ++ ':' :: front') ++ '=' :: behind' := by simpa using same
      have cut := (eq_of_append_eq (by simp [clean, unmarked]) (by simp [clean', unmarked'])
        (fun _ => head?_separator) (fun _ => head?_separator) bounded).1
      have turned : front.reverse ++ ':' :: user.reverse =
          front'.reverse ++ ':' :: user'.reverse := by
        simpa using congrArg List.reverse cut
      have users := (eq_of_append_eq (by simpa using closed) (by simpa using closed')
        (fun _ => head?_separator) (fun _ => head?_separator) turned).2
      exact List.reverse_inj.1 (List.cons.inj users).2

/-- Readable keys are compared part by part. -/
theorem withParameters_eq_iff (key key' : String)
    (parameters parameters' : List (String × String)) :
    withParameters key parameters = withParameters key' parameters' ↔
      key.toList ++ spellBehind ':' (parts parameters) =
        key'.toList ++ spellBehind ':' (parts parameters') := by
  rw [← String.toList_inj, toList_withParameters, toList_withParameters]

/-- Keys of lists are the same when what is spelled for their parameters is. -/
theorem ofList_eq_iff (stem : String) (parameters parameters' : List (String × String)) :
    ofList stem parameters = ofList stem parameters' ↔
      spellBehind ':' (parts parameters) = spellBehind ':' (parts parameters') := by
  rw [ofList, ofList, withParameters_eq_iff, List.append_right_inj]

/-- Keys of subjects are the same when what is spelled for the subjects and their parameters is. -/
theorem ofUser_eq_iff (stem user user' : String) (parameters parameters' : List (String × String)) :
    ofUser stem user parameters = ofUser stem user' parameters' ↔
      user.toList ++ spellBehind ':' (parts parameters) =
        user'.toList ++ spellBehind ':' (parts parameters') := by
  rw [ofUser, ofUser, withParameters_eq_iff]
  simp only [String.toList_append, List.append_assoc, List.append_right_inj]

/-- Separable subjects are told apart by their keys. -/
theorem user_eq_of_ofUser_eq {stem user user' : String}
    {parameters parameters' : List (String × String)}
    (separable : SubjectsSeparable [user, user'] (parameters ++ parameters'))
    (same : ofUser stem user parameters = ofUser stem user' parameters') : user = user' := by
  rw [ofUser_eq_iff] at same
  have held : user ∈ [user, user'] := List.mem_cons_self
  have held' : user' ∈ [user, user'] := List.mem_cons_of_mem _ (List.mem_singleton_self _)
  apply String.toList_inj.1
  rcases separable with clean | ⟨clean, names⟩
  · exact (eq_of_append_eq (clean user held) (clean user' held') (fun _ => head?_spellBehind)
      (fun _ => head?_spellBehind) same).1
  · obtain ⟨closed, closed'⟩ := List.forall_mem_append.1 names
    exact subject_eq_of_append_eq (clean user held) (clean user' held') (forall_mem_parts closed)
      (forall_mem_parts closed') same

/-- Readable keys of one stem tell the parameters apart where no separator inside a part is mistaken
for one between parts, and the keys of subjects tell the subjects apart where no colon is. The order
in which parameters are given never changes a key. -/
theorem readable_eq_iff (stem : String) (parameters parameters' : List (String × String)) :
    (Separable (parameters ++ parameters') →
      (ofList stem parameters = ofList stem parameters' ↔ SameParameters parameters parameters') ∧
      ∀ user, ofUser stem user parameters = ofUser stem user parameters' ↔
        SameParameters parameters parameters') ∧
    (∀ user user', SubjectsSeparable [user, user'] (parameters ++ parameters') →
      ofUser stem user parameters = ofUser stem user' parameters' → user = user') ∧
    (parameters.Perm parameters' → (parameters.map Prod.fst).Nodup →
      ofList stem parameters = ofList stem parameters' ∧
        ∀ user, ofUser stem user parameters = ofUser stem user parameters') := by
  refine ⟨fun separable => ?_, fun user user' => user_eq_of_ofUser_eq,
    fun permuted distinct => ?_⟩
  · have told : spellBehind ':' (parts parameters) = spellBehind ':' (parts parameters') ↔
        SameParameters parameters parameters' := by
      rw [← parts_eq_iff]
      exact ⟨parts_eq_of_spellBehind_eq separable, congrArg (spellBehind ':')⟩
    refine ⟨(ofList_eq_iff _ _ _).trans told, fun user => ?_⟩
    rw [ofUser_eq_iff, List.append_right_inj, told]
  · have same : parts parameters = parts parameters' :=
      (parts_eq_iff _ _).2 (lastUnder?_perm permuted distinct)
    refine ⟨(ofList_eq_iff _ _ _).2 (congrArg _ same), fun user => ?_⟩
    rw [ofUser_eq_iff, same]

/-- Parameters of a page whose value holds an equals sign, subjects whose names hold underscores,
and parameters given in two orders. -/
theorem readable_eq_iff_page :
    ofList "posts" [("page", "1"), ("order", "new=1")] ≠ ofList "posts" [("page", "2")] ∧
    ofUser "feed" "u_1" [("page", "1")] ≠ ofUser "feed" "u_2" [("page", "1")] ∧
    ofUser "feed" "u_1" [("page", "1"), ("order", "new")] =
      ofUser "feed" "u_1" [("order", "new"), ("page", "1")] := by
  refine ⟨fun same => ?_, fun same => ?_,
    ((readable_eq_iff "feed" _ _).2.2 (by decide) (by decide)).2 "u_1"⟩
  · have told := ((readable_eq_iff "posts" _ _).1 (.inl (by decide))).1.1 same
    exact absurd (told "page") (by decide)
  · have told := (readable_eq_iff "feed" _ _).2.1 "u_1" "u_2" (.inl (by decide)) same
    exact absurd told (by decide)

/-- Where separators are mistaken keys collide: when both occur in values, both in names, one of
them on both sides, a colon and an equals sign in a subject, or a colon in a subject and a name. -/
theorem readable_collide :
    ofList "posts" [("a", "1_b=2")] = ofList "posts" [("a", "1"), ("b", "2")] ∧
    ofList "posts" [("a=1_b", "2")] = ofList "posts" [("a", "1"), ("b", "2")] ∧
    ofList "posts" [("a=b", "c")] = ofList "posts" [("a", "b=c")] ∧
    ofList "posts" [("a", "1_b"), ("c", "2")] = ofList "posts" [("a", "1"), ("b_c", "2")] ∧
    ofUser "feed" "1:a=1" [] = ofUser "feed" "1" [("a", "1")] ∧
    ofUser "feed" "1:a" [("b", "2")] = ofUser "feed" "1" [("a:b", "2")] ∧
    ¬ SameParameters [("a", "1_b=2")] [("a", "1"), ("b", "2")] ∧ "1:a=1" ≠ "1" := by
  refine ⟨by decide, by decide, by decide, by decide, by decide, by decide, fun same => ?_,
    by decide⟩
  exact absurd (same "b") (by decide)

end FailOpenCache.Key
