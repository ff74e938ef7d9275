import FailOpenCache.Sorted
import FailOpenCache.Table
import Mathlib.Data.List.Induction
import Mathlib.Tactic.ByContra

/-!
# One form for each mapping

Entries stand for a mapping: under each name counts the last value that they give. Sorting them by
their names yields one list for each mapping, so two lists of entries are sorted alike exactly when
they stand for the same mapping, and the order of entries with distinct names plays no part.
-/

namespace FailOpenCache

variable {α β : Type}

/-- The last value that entries give under a name. -/
def lastUnder? (entries : List (String × α)) (name : String) : Option α :=
  entries.reverse.lookup name

/-- A later entry counts before the earlier ones. -/
theorem lastUnder?_append_singleton (entries : List (String × α)) (held name : String)
    (value : α) : lastUnder? (entries ++ [(held, value)]) name =
      if name = held then some value else lastUnder? entries name := by
  rw [lastUnder?, List.reverse_append, List.reverse_singleton, List.singleton_append,
    Table.lookup_entry, lastUnder?]

/-- What counts under a name is given by an entry. -/
theorem mem_of_lastUnder? {entries : List (String × α)} {name : String} {value : α}
    (found : lastUnder? entries name = some value) : (name, value) ∈ entries := by
  induction entries using List.reverseRecOn with
  | nil => cases found
  | append_singleton earlier entry ih =>
    obtain ⟨held, kept⟩ := entry
    rw [lastUnder?_append_singleton] at found
    split at found
    · rename_i same
      obtain rfl := Option.some.inj found
      exact List.mem_append_right _ (same ▸ List.mem_singleton_self _)
    · exact List.mem_append_left _ (ih found)

/-- Values that are changed alike under all names are changed under each name. -/
theorem lastUnder?_map (change : α → β) (entries : List (String × α)) (name : String) :
    lastUnder? (entries.map fun entry => (entry.1, change entry.2)) name =
      (lastUnder? entries name).map change := by
  induction entries using List.reverseRecOn with
  | nil => rfl
  | append_singleton earlier entry ih =>
    obtain ⟨held, kept⟩ := entry
    rw [List.map_append, List.map_singleton, lastUnder?_append_singleton,
      lastUnder?_append_singleton, ih]
    split <;> rfl

/-- Under distinct names every entry counts. -/
theorem lastUnder?_of_mem {entries : List (String × α)}
    (distinct : (entries.map Prod.fst).Nodup) {name : String} {value : α}
    (held : (name, value) ∈ entries) : lastUnder? entries name = some value := by
  induction entries using List.reverseRecOn with
  | nil => cases held
  | append_singleton earlier entry ih =>
    obtain ⟨other, kept⟩ := entry
    rw [List.map_append, List.nodup_append] at distinct
    rw [lastUnder?_append_singleton]
    rcases List.mem_append.1 held with before | last
    · have differs : name ≠ other :=
        distinct.2.2 name (List.mem_map_of_mem before) other (List.mem_singleton_self _)
      rw [if_neg differs]
      exact ih distinct.1 before
    · obtain ⟨rfl, rfl⟩ := Prod.mk.inj (List.mem_singleton.1 last)
      exact if_pos rfl

/-- Entries under distinct names stand for the same mapping in any order. -/
theorem lastUnder?_perm {entries others : List (String × α)} (permuted : entries.Perm others)
    (distinct : (entries.map Prod.fst).Nodup) (name : String) :
    lastUnder? entries name = lastUnder? others name := by
  have distinct' : (others.map Prod.fst).Nodup := (permuted.map Prod.fst).nodup_iff.1 distinct
  ext value
  constructor
  · intro found
    exact lastUnder?_of_mem distinct' (permuted.mem_iff.1 (mem_of_lastUnder? found))
  · intro found
    exact lastUnder?_of_mem distinct (permuted.mem_iff.2 (mem_of_lastUnder? found))

/-- An insertion puts its value under its name and leaves the other names alone. -/
theorem lookup_insertByName (name other : String) (value : α) (entries : List (String × α)) :
    (insertByName name value entries).lookup other =
      if other = name then some value else entries.lookup other := by
  induction entries with
  | nil => rw [insertByName, Table.lookup_entry]
  | cons entry rest ih =>
    obtain ⟨held, kept⟩ := entry
    rw [insertByName]
    split
    · rw [Table.lookup_entry]
    · split
      · rename_i same
        rw [Table.lookup_entry, Table.lookup_entry, ← show name = held from same]
        split <;> rfl
      · rename_i differs
        rw [Table.lookup_entry, Table.lookup_entry, ih]
        by_cases found : other = held
        · subst found
          rw [if_pos rfl, if_pos rfl, if_neg fun same => differs same.symm]
        · rw [if_neg found, if_neg found]

/-- An insertion keeps the names in order, each once. -/
theorem pairwise_insertByName (name : String) (value : α) {entries : List (String × α)}
    (ordered : (entries.map Prod.fst).Pairwise (· < ·)) :
    ((insertByName name value entries).map Prod.fst).Pairwise (· < ·) := by
  induction entries with
  | nil => exact List.pairwise_singleton _ _
  | cons entry rest ih =>
    rw [List.map_cons, List.pairwise_cons] at ordered
    rw [insertByName]
    split
    · rename_i before
      rw [List.map_cons, List.pairwise_cons, List.map_cons, List.pairwise_cons]
      refine ⟨fun other held => ?_, ordered⟩
      rcases List.mem_cons.1 held with rfl | later
      · exact before
      · exact String.lt_trans before (ordered.1 other later)
    · split
      · rename_i same
        rw [List.map_cons, List.pairwise_cons]
        exact ⟨fun other held => same ▸ ordered.1 other held, ordered.2⟩
      · rename_i notBefore differs
        have behind : entry.1 < name := by
          rcases String.le_total name entry.1 with below | above
          · exact absurd (String.le_antisymm below (String.not_lt.1 notBefore)) differs
          · by_cases less : entry.1 < name
            · exact less
            · exact absurd (String.le_antisymm (String.not_lt.1 less) above) differs
        rw [List.map_cons, List.pairwise_cons]
        refine ⟨fun other held => ?_, ih ordered.2⟩
        rcases mem_names_insertByName held with rfl | inside
        · exact behind
        · exact ordered.1 other inside

/-- A name behind all others is inserted at the end. -/
theorem insertByName_append {name : String} {value : α} {entries : List (String × α)}
    (behind : ∀ other ∈ entries, other.1 < name) :
    insertByName name value entries = entries ++ [(name, value)] := by
  induction entries with
  | nil => rfl
  | cons entry rest ih =>
    have before := behind entry List.mem_cons_self
    have differs : name ≠ entry.1 := fun same => String.lt_irrefl _ (same ▸ before)
    rw [insertByName, if_neg (String.lt_asymm before), if_neg differs,
      ih fun other inside => behind other (List.mem_cons_of_mem _ inside)]
    rfl

/-- Sorting inserts the entries one after the other. -/
theorem sortByName_append_singleton (entries : List (String × α)) (name : String) (value : α) :
    sortByName (entries ++ [(name, value)]) = insertByName name value (sortByName entries) := by
  rw [sortByName, List.foldl_append]
  rfl

/-- Sorted entries give under each name what counts there. -/
theorem lookup_sortByName (entries : List (String × α)) (name : String) :
    (sortByName entries).lookup name = lastUnder? entries name := by
  induction entries using List.reverseRecOn with
  | nil => rfl
  | append_singleton earlier entry ih =>
    rw [sortByName_append_singleton, lookup_insertByName, lastUnder?_append_singleton, ih]

/-- Sorted entries have their names in order, each once. -/
theorem pairwise_sortByName (entries : List (String × α)) :
    ((sortByName entries).map Prod.fst).Pairwise (· < ·) := by
  induction entries using List.reverseRecOn with
  | nil => exact List.Pairwise.nil
  | append_singleton earlier entry ih =>
    rw [sortByName_append_singleton]
    exact pairwise_insertByName _ _ ih

/-- Entries with their names in order are sorted as they are. -/
theorem sortByName_eq_self {entries : List (String × α)}
    (ordered : (entries.map Prod.fst).Pairwise (· < ·)) : sortByName entries = entries := by
  induction entries using List.reverseRecOn with
  | nil => rfl
  | append_singleton earlier entry ih =>
    rw [List.map_append, List.pairwise_append] at ordered
    rw [sortByName_append_singleton, ih ordered.1]
    exact insertByName_append fun other before =>
      ordered.2.2 other.1 (List.mem_map_of_mem before) entry.1 (List.mem_singleton_self _)

/-- Names that are found in entries stand there. -/
theorem mem_names_of_lookup {entries : List (String × α)} {name : String} {value : α}
    (found : entries.lookup name = some value) : name ∈ entries.map Prod.fst := by
  induction entries with
  | nil => cases found
  | cons entry rest ih =>
    obtain ⟨held, kept⟩ := entry
    rw [Table.lookup_entry] at found
    split at found
    · rename_i same
      exact same ▸ List.mem_cons_self
    · exact List.mem_cons_of_mem _ (ih found)

/-- Nothing is found under a name before all names of entries. -/
theorem lookup_eq_none_of_lt {entries : List (String × α)} {name : String}
    (before : ∀ other ∈ entries.map Prod.fst, name < other) : entries.lookup name = none := by
  cases found : entries.lookup name with
  | none => rfl
  | some value => exact absurd (before name (mem_names_of_lookup found)) (String.lt_irrefl name)

/-- Two lists of entries with their names in order that give the same under each name are the
same. -/
theorem eq_of_lookup_eq {entries others : List (String × α)}
    (ordered : (entries.map Prod.fst).Pairwise (· < ·))
    (ordered' : (others.map Prod.fst).Pairwise (· < ·))
    (same : ∀ name, entries.lookup name = others.lookup name) : entries = others := by
  induction entries generalizing others with
  | nil =>
    cases others with
    | nil => rfl
    | cons other later =>
      have found := same other.1
      rw [Table.lookup_entry, if_pos rfl] at found
      cases found
  | cons entry rest ih =>
    cases others with
    | nil =>
      have found := same entry.1
      rw [Table.lookup_entry, if_pos rfl] at found
      cases found
    | cons other later =>
      obtain ⟨name, value⟩ := entry
      obtain ⟨name', value'⟩ := other
      rw [List.map_cons, List.pairwise_cons] at ordered ordered'
      -- The first names are the same, since neither list could hold the smaller one otherwise.
      have names : name = name' := by
        have here := same name
        have there := same name'
        rw [Table.lookup_entry, Table.lookup_entry, if_pos rfl] at here
        rw [Table.lookup_entry, Table.lookup_entry, if_pos rfl] at there
        by_contra differs
        rw [if_neg differs] at here
        rw [if_neg fun same => differs same.symm] at there
        exact String.lt_asymm (ordered.1 name' (mem_names_of_lookup there))
          (ordered'.1 name (mem_names_of_lookup here.symm))
      subst names
      have values := same name
      rw [Table.lookup_entry, Table.lookup_entry, if_pos rfl, if_pos rfl] at values
      obtain rfl := Option.some.inj values
      congr 1
      refine ih ordered.2 ordered'.2 fun found => ?_
      have behind := same found
      rw [Table.lookup_entry, Table.lookup_entry] at behind
      by_cases first : found = name
      · subst first
        rw [lookup_eq_none_of_lt ordered.1, lookup_eq_none_of_lt ordered'.1]
      · rwa [if_neg first, if_neg first] at behind

/-- Entries are sorted alike exactly when they stand for the same mapping. -/
theorem sortByName_eq_iff {entries others : List (String × α)} :
    sortByName entries = sortByName others ↔
      ∀ name, lastUnder? entries name = lastUnder? others name := by
  constructor
  · intro same name
    rw [← lookup_sortByName, same, lookup_sortByName]
  · intro same
    refine eq_of_lookup_eq (pairwise_sortByName entries) (pairwise_sortByName others) fun name => ?_
    rw [lookup_sortByName, lookup_sortByName, same]

/-- Sorting leaves what counts under each name. -/
theorem lastUnder?_sortByName (entries : List (String × α)) (name : String) :
    lastUnder? (sortByName entries) name = lastUnder? entries name :=
  sortByName_eq_iff.1 (sortByName_eq_self (pairwise_sortByName entries)) name

/-- Sorting makes up no entry. -/
theorem mem_of_mem_sortByName {entries : List (String × α)} {entry : String × α}
    (held : entry ∈ sortByName entries) : entry ∈ entries := by
  have distinct : ((sortByName entries).map Prod.fst).Nodup :=
    (pairwise_sortByName entries).imp fun {name other} (before : name < other)
      (same : name = other) => String.lt_irrefl other (same ▸ before)
  apply mem_of_lastUnder?
  rw [← lastUnder?_sortByName]
  exact lastUnder?_of_mem distinct held

/-- Sorting loses all entries only when there are none. -/
theorem sortByName_eq_nil_iff {entries : List (String × α)} :
    sortByName entries = [] ↔ entries = [] := by
  refine ⟨fun same => ?_, fun none => by rw [none]; rfl⟩
  cases entries using List.reverseRecOn with
  | nil => rfl
  | append_singleton earlier entry =>
    have found := lookup_sortByName (earlier ++ [entry]) entry.1
    rw [same, lastUnder?_append_singleton, if_pos rfl] at found
    cases found

end FailOpenCache
