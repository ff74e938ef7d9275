import FailOpenCache.Document.Basic
import FailOpenCache.Proofs.Sorted
import Mathlib.Data.List.Forall2

/-!
# Members in any order

Whoever writes a document gives the members of its objects in some order, and a document in its one
form has them in the order of their names. Two documents mean the same when their objects are the
same mappings at every level, and exactly then they have one form in common. A document that is in
its one form is not changed by arranging it.
-/

namespace FailOpenCache.Document

mutual

/-- The document with the members of all its objects in the order of their names; of several under
one name the last one counts. -/
def arranged : Document → Document
  | null => null
  | bool value => bool value
  | integer value => integer value
  | real value => real value
  | string value => string value
  | array items => array (arrangedItems items)
  | object members => ofMembers (arrangedMembers members)

/-- Each item arranged. -/
def arrangedItems : List Document → List Document
  | [] => []
  | item :: rest => arranged item :: arrangedItems rest

/-- Each member's value arranged. -/
def arrangedMembers : List (String × Document) → List (String × Document)
  | [] => []
  | (name, value) :: rest => (name, arranged value) :: arrangedMembers rest

end

/-- Two documents mean the same: they are the same, or what stands at each place of an array and
under each name of an object means the same. -/
inductive Alike : Document → Document → Prop
  /-- The same document. -/
  | refl (document : Document) : Alike document document
  /-- Items that mean the same in the same order. -/
  | array {items others : List Document} (alike : List.Forall₂ Alike items others) :
    Alike (array items) (array others)
  /-- Under each name nothing, or what means the same. -/
  | object {members others : List (String × Document)}
    (alike : ∀ name, Option.Rel Alike (lastUnder? members name) (lastUnder? others name)) :
    Alike (object members) (object others)

/-- Items are arranged one by one. -/
theorem arrangedItems_eq_map (items : List Document) :
    arrangedItems items = items.map arranged := by
  induction items with
  | nil => rfl
  | cons item rest ih => rw [arrangedItems, ih, List.map_cons]

/-- Members are arranged one by one. -/
theorem arrangedMembers_eq_map (members : List (String × Document)) :
    arrangedMembers members = members.map fun member => (member.1, member.2.arranged) := by
  induction members with
  | nil => rfl
  | cons member rest ih => rw [arrangedMembers, ih, List.map_cons]

/-- Arranged members give under each name what the members give there, arranged. -/
theorem lastUnder?_arrangedMembers (members : List (String × Document)) (name : String) :
    lastUnder? (arrangedMembers members) name = (lastUnder? members name).map arranged := by
  rw [arrangedMembers_eq_map, lastUnder?_map]

/-- An optional document whose arrangement tells what it means. -/
theorem optionMap_arranged_eq_iff {found found' : Option Document}
    (told : ∀ item ∈ found, ∀ other : Document,
      item.arranged = other.arranged ↔ Alike item other) :
    found.map arranged = found'.map arranged ↔ Option.Rel Alike found found' := by
  cases found with
  | none =>
    cases found' with
    | none => exact ⟨fun _ => .none, fun _ => rfl⟩
    | some other => exact ⟨nofun, nofun⟩
  | some item =>
    cases found' with
    | none => exact ⟨nofun, nofun⟩
    | some other =>
      have decided := told item rfl other
      constructor
      · exact fun same => .some (decided.1 (Option.some.inj same))
      · rintro ⟨⟩
        rename_i alike
        exact congrArg some (decided.2 alike)

mutual

/-- Documents are arranged alike exactly when they mean the same. -/
theorem arranged_eq_iff : ∀ document other : Document,
    document.arranged = other.arranged ↔ Alike document other
  | null, other => by
    refine ⟨fun same => ?_, fun alike => by cases alike; rfl⟩
    cases other with
    | null => exact .refl null
    | _ => cases same
  | bool value, other => by
    refine ⟨fun same => ?_, fun alike => by cases alike; rfl⟩
    cases other with
    | bool value' => exact bool.inj same ▸ .refl _
    | _ => cases same
  | integer value, other => by
    refine ⟨fun same => ?_, fun alike => by cases alike; rfl⟩
    cases other with
    | integer value' => exact integer.inj same ▸ .refl _
    | _ => cases same
  | real value, other => by
    refine ⟨fun same => ?_, fun alike => by cases alike; rfl⟩
    cases other with
    | real value' => exact real.inj same ▸ .refl _
    | _ => cases same
  | string value, other => by
    refine ⟨fun same => ?_, fun alike => by cases alike; rfl⟩
    cases other with
    | string value' => exact string.inj same ▸ .refl _
    | _ => cases same
  | array items, other => by
    constructor
    · intro same
      cases other with
      | array others => exact .array ((arrangedItems_eq_iff items others).1 (array.inj same))
      | _ => cases same
    · intro alike
      cases alike with
      | refl => rfl
      | array alike =>
        rw [arranged, arranged, (arrangedItems_eq_iff items _).2 alike]
  | object members, other => by
    have named : ∀ others name,
        lastUnder? (arrangedMembers members) name = lastUnder? (arrangedMembers others) name ↔
          Option.Rel Alike (lastUnder? members name) (lastUnder? others name) := by
      intro others name
      rw [lastUnder?_arrangedMembers, lastUnder?_arrangedMembers]
      exact optionMap_arranged_eq_iff fun item found =>
        memberArranged_eq_iff members (mem_of_lastUnder? found)
    constructor
    · intro same
      cases other with
      | object others =>
        exact .object fun name =>
          (named others name).1 (sortByName_eq_iff.1 (object.inj same) name)
      | _ => cases same
    · intro alike
      cases alike with
      | refl => rfl
      | object alike =>
        rw [arranged, arranged, ofMembers, ofMembers]
        exact congrArg object (sortByName_eq_iff.2 fun name => (named _ name).2 (alike name))

/-- Items are arranged alike exactly when they mean the same, one by one. -/
theorem arrangedItems_eq_iff : ∀ items others : List Document,
    arrangedItems items = arrangedItems others ↔ List.Forall₂ Alike items others
  | [], [] => ⟨fun _ => .nil, fun _ => rfl⟩
  | [], _ :: _ => ⟨nofun, nofun⟩
  | _ :: _, [] => ⟨nofun, nofun⟩
  | item :: items, other :: others => by
    rw [arrangedItems, arrangedItems, List.cons.injEq, List.forall₂_cons,
      arranged_eq_iff item other, arrangedItems_eq_iff items others]

/-- The value of each member is arranged as another document exactly when it means the same. -/
theorem memberArranged_eq_iff : ∀ (members : List (String × Document)) {name : String}
    {value : Document}, (name, value) ∈ members → ∀ other : Document,
      value.arranged = other.arranged ↔ Alike value other
  | [], _, _, held, _ => nomatch held
  | (name, value) :: members, name', value', held, other => by
    rcases List.mem_cons.1 held with same | later
    · obtain ⟨rfl, rfl⟩ := Prod.mk.inj same
      exact arranged_eq_iff value' other
    · exact memberArranged_eq_iff members later other

end

mutual

/-- A document in its one form is not changed by arranging it. -/
theorem arranged_eq_self : ∀ {document : Document}, document.WellFormed →
    document.arranged = document
  | null, _ => rfl
  | bool _, _ => rfl
  | integer _, _ => rfl
  | real _, _ => rfl
  | string _, _ => rfl
  | array items, formed => by
    have held : ItemsWellFormed items := formed
    rw [arranged, arrangedItems_eq_self held]
  | object members, formed => by
    rw [arranged, arrangedMembers_eq_self formed.2, ofMembers, sortByName_eq_self formed.1]

/-- Items in their one form are not changed. -/
theorem arrangedItems_eq_self : ∀ {items : List Document}, ItemsWellFormed items →
    arrangedItems items = items
  | [], _ => rfl
  | _ :: _, formed =>
    congrArg₂ List.cons (arranged_eq_self formed.1) (arrangedItems_eq_self formed.2)

/-- Members in their one form are not changed. -/
theorem arrangedMembers_eq_self : ∀ {members : List (String × Document)},
    MembersWellFormed members → arrangedMembers members = members
  | [], _ => rfl
  | (name, _) :: _, formed =>
    congrArg₂ List.cons (congrArg (name, ·) (arranged_eq_self formed.1))
      (arrangedMembers_eq_self formed.2)

end

/-- Documents in their one form mean the same only when they are the same. -/
theorem alike_iff_eq {document other : Document} (formed : document.WellFormed)
    (formed' : other.WellFormed) : Alike document other ↔ document = other := by
  rw [← arranged_eq_iff, arranged_eq_self formed, arranged_eq_self formed']

/-- What is found twice means the same. -/
theorem alike_option_refl (found : Option Document) : Option.Rel Alike found found := by
  cases found with
  | none => exact .none
  | some value => exact .some (.refl value)

/-- Two objects mean the same when they are the same mapping. -/
theorem alike_object_iff {members others : List (String × Document)} :
    Alike (object members) (object others) ↔
      ∀ name, Option.Rel Alike (lastUnder? members name) (lastUnder? others name) := by
  constructor
  · intro alike name
    cases alike with
    | refl => exact alike_option_refl _
    | object alike => exact alike name
  · exact .object

end FailOpenCache.Document
