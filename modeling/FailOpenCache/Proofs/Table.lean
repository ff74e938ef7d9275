import FailOpenCache.Table

/-!
# Entries of tables

Since the names of a table are distinct, what is found under a name is the one entry that has it. A
table whose values can die may be thinned: it holds what it held, except for some of what is dead.
Putting, dropping and settling a name keeps a table and a thinned one in step, and the same is live
in both.
-/

namespace FailOpenCache

/-- Leaving out what is not there changes nothing. -/
theorem filter_ne_of_notMem {α : Type} [DecidableEq α] {list : List α} {absent : α}
    (outside : absent ∉ list) : list.filter (fun other => other ≠ absent) = list := by
  apply List.filter_eq_self.2
  intro other inside
  exact decide_eq_true fun same => outside (same ▸ inside)

namespace Table

variable {α : Type}

/-- An entry of a table is found under its name. -/
theorem find?_of_mem {table : Table α} {name : String} {value : α}
    (held : (name, value) ∈ table.entries) : table.find? name = some value := by
  suffices general : ∀ entries : List (String × α), (entries.map Prod.fst).Nodup →
      (name, value) ∈ entries → entries.lookup name = some value from
    general table.entries table.distinct held
  intro entries
  induction entries with
  | nil => exact fun _ inside => absurd inside List.not_mem_nil
  | cons entry rest ih =>
    intro distinct inside
    obtain ⟨other, kept⟩ := entry
    rw [lookup_entry]
    rw [List.map_cons, List.nodup_cons] at distinct
    rcases List.mem_cons.1 inside with same | later
    · obtain ⟨rfl, rfl⟩ := Prod.mk.inj same
      rw [if_pos rfl]
    · have differs : name ≠ other := by
        intro same
        exact distinct.1 (List.mem_map.2 ⟨(name, value), later, same⟩)
      rw [if_neg differs]
      exact ih distinct.2 later

/-- What is found under a name is an entry of the table. -/
theorem mem_of_find? {table : Table α} {name : String} {value : α}
    (found : table.find? name = some value) : (name, value) ∈ table.entries := by
  suffices general : ∀ entries : List (String × α), entries.lookup name = some value →
      (name, value) ∈ entries from general table.entries found
  intro entries
  induction entries with
  | nil => exact fun nothing => absurd nothing (by simp)
  | cons entry rest ih =>
    intro looked
    obtain ⟨other, kept⟩ := entry
    rw [lookup_entry] at looked
    split at looked
    · rename_i same
      obtain rfl := Option.some.inj looked
      exact same ▸ List.mem_cons_self
    · exact List.mem_cons_of_mem _ (ih looked)

/-- A name is held when a value is found under it. -/
theorem mem_names_iff {table : Table α} {name : String} :
    name ∈ table.names ↔ (table.find? name).isSome := by
  constructor
  · intro held
    obtain ⟨⟨other, value⟩, inside, rfl⟩ := List.mem_map.1 held
    rw [find?_of_mem inside]
    rfl
  · intro found
    obtain ⟨value, same⟩ := Option.isSome_iff_exists.1 found
    exact List.mem_map.2 ⟨(name, value), mem_of_find? same, rfl⟩

/-- A name is found after filtering if its entry passes the test. -/
theorem find?_filter (table : Table α) (keep : String → α → Bool)
    (name : String) :
    (table.filter keep).find? name = (table.find? name).filter (keep name) := by
  cases found : table.find? name with
  | none =>
    cases kept : (table.filter keep).find? name with
    | none => rfl
    | some value =>
      have held := (List.mem_filter.1 (mem_of_find? kept)).1
      rw [find?_of_mem held] at found
      exact absurd found (by simp)
  | some value =>
    by_cases passes : keep name value = true
    · have held : (name, value) ∈ (table.filter keep).entries :=
        List.mem_filter.2 ⟨mem_of_find? found, passes⟩
      rw [find?_of_mem held]
      simp [Option.filter, passes]
    · cases kept : (table.filter keep).find? name with
      | none => simp [Option.filter, passes]
      | some other =>
        obtain ⟨held, passed⟩ := List.mem_filter.1 (mem_of_find? kept)
        rw [find?_of_mem held] at found
        obtain rfl := Option.some.inj found
        exact absurd passed passes

/-- Drop what stands under a name if it is dead. -/
def settle (table : Table α) (dead : α → Bool) (name : String) : Table α :=
  match table.find? name with
  | none => table
  | some value => if dead value then table.erase name else table

/-- A settled name stands for what is live under it. -/
theorem find?_settle (table : Table α) (dead : α → Bool) (name other : String) :
    (table.settle dead name).find? other =
      if other = name then (table.find? name).filter fun value => !dead value
      else table.find? other := by
  rw [settle]
  by_cases same : other = name
  · subst same
    rw [if_pos rfl]
    cases held : table.find? other with
    | none => exact held
    | some value =>
      cases gone : dead value with
      | true => simp [Option.filter, gone]
      | false => simp [Option.filter, gone, held]
  · rw [if_neg same]
    cases table.find? name with
    | none => rfl
    | some value =>
      dsimp only
      split
      · rw [find?_erase, if_neg same]
      · rfl

/-- Settling a name changes nothing of what is live. -/
theorem filter_settle (table : Table α) (dead : α → Bool) (name other : String) :
    (((table.settle dead name).find? other).filter fun value => !dead value) =
      (table.find? other).filter fun value => !dead value := by
  rw [find?_settle]
  split
  · rename_i same
    rw [same, Option.filter_filter]
    simp only [Bool.and_self]
  · rfl

/-- The entries that pass a test and those that fail it are all entries. -/
theorem size_filter_add (table : Table α) (test : α → Bool) :
    (table.filter fun _ value => test value).size +
      (table.filter fun _ value => !test value).size = table.size := by
  suffices general : ∀ entries : List (String × α),
      (entries.filter fun entry => test entry.2).length +
        (entries.filter fun entry => !test entry.2).length = entries.length from
    general table.entries
  intro entries
  induction entries with
  | nil => rfl
  | cons entry rest ih =>
    cases passes : test entry.2 with
    | true =>
      simp only [List.filter_cons, passes, Bool.not_true, ↓reduceIte, Bool.false_eq_true,
        List.length_cons]
      omega
    | false =>
      simp only [List.filter_cons, passes, Bool.not_false, ↓reduceIte, Bool.false_eq_true,
        List.length_cons]
      omega

/-- One table holds what another holds, except for some of what is dead there. -/
def Thinned (dead : α → Bool) (thin full : Table α) : Prop :=
  ∀ name, thin.find? name = full.find? name ∨
    thin.find? name = none ∧ ∀ value ∈ full.find? name, dead value = true

namespace Thinned

variable {dead : α → Bool} {thin full : Table α}

/-- What is found is live, or nothing is left of it. -/
theorem filter_live (dead : α → Bool) (found : Option α) :
    (found.filter fun value => !dead value) = found ∨
      (found.filter fun value => !dead value) = none ∧ ∀ value ∈ found, dead value = true := by
  cases found with
  | none => exact .inl rfl
  | some value =>
    cases gone : dead value with
    | true => exact .inr (by simp [Option.filter, gone])
    | false => exact .inl (by simp [Option.filter, gone])

/-- A table holds what it holds. -/
theorem refl (dead : α → Bool) (table : Table α) : Thinned dead table table :=
  fun _ => .inl rfl

/-- What is left of a table that holds less holds less. -/
theorem trans {less : Table α} (early : Thinned dead thin full) (late : Thinned dead less thin) :
    Thinned dead less full := by
  intro name
  rcases late name with same | ⟨nothing, lapsed⟩
  · rw [same]
    exact early name
  · rcases early name with same' | ⟨-, lapsed'⟩
    · exact .inr ⟨nothing, fun value held => lapsed value (same' ▸ held)⟩
    · exact .inr ⟨nothing, lapsed'⟩

/-- A settled name has lost what is dead, if it was. -/
theorem of_settle (dead : α → Bool) (table : Table α) (name : String) :
    Thinned dead (table.settle dead name) table := by
  intro other
  rw [find?_settle]
  split
  · rename_i same
    rw [same]
    exact filter_live dead _
  · exact .inl rfl

/-- What is dead stays dead as more is. -/
theorem mono {dead' : α → Bool} (more : ∀ value, dead value = true → dead' value = true)
    (thinned : Thinned dead thin full) : Thinned dead' thin full := by
  intro name
  rcases thinned name with same | ⟨nothing, lapsed⟩
  · exact .inl same
  · exact .inr ⟨nothing, fun value held => more value (lapsed value held)⟩

/-- The same is live under every name. -/
theorem live_eq (thinned : Thinned dead thin full) (name : String) :
    ((thin.find? name).filter fun value => !dead value) =
      (full.find? name).filter fun value => !dead value := by
  rcases thinned name with same | ⟨nothing, lapsed⟩
  · rw [same]
  · rw [nothing]
    cases held : full.find? name with
    | none => rfl
    | some value =>
      have gone := lapsed value held
      simp [Option.filter, gone]

/-- A name that is held is held in the fuller table. -/
theorem contains (thinned : Thinned dead thin full) {name : String}
    (held : thin.contains name = true) : full.contains name = true := by
  rw [Table.contains] at held ⊢
  rcases thinned name with same | ⟨nothing, -⟩
  · rwa [← same]
  · rw [nothing] at held
    exact absurd held Bool.false_ne_true

/-- The same value is put under a name. -/
theorem put (thinned : Thinned dead thin full) (name : String) (value : α) :
    Thinned dead (thin.put name value) (full.put name value) := by
  intro other
  rw [find?_put, find?_put]
  split
  · exact .inl rfl
  · exact thinned other

/-- A name is dropped. -/
theorem erase (thinned : Thinned dead thin full) (name : String) :
    Thinned dead (thin.erase name) (full.erase name) := by
  intro other
  rw [find?_erase, find?_erase]
  split
  · exact .inl rfl
  · exact thinned other

/-- A name is settled. -/
theorem settle (thinned : Thinned dead thin full) (name : String) :
    Thinned dead (thin.settle dead name) (full.settle dead name) := by
  intro other
  rw [find?_settle, find?_settle, thinned.live_eq name]
  split
  · exact .inl rfl
  · exact thinned other

/-- All that is dead is dropped from the one table. -/
theorem sweep (thinned : Thinned dead thin full) :
    Thinned dead (thin.filter fun _ value => !dead value) full := by
  intro name
  rw [find?_filter, thinned.live_eq name]
  exact filter_live dead _

/-- The live names are the same up to their order. -/
theorem names_perm (thinned : Thinned dead thin full) :
    (thin.filter fun _ value => !dead value).names.Perm
      (full.filter fun _ value => !dead value).names := by
  refine (List.perm_ext_iff_of_nodup (Table.distinct _) (Table.distinct _)).2 fun name => ?_
  have same := thinned.live_eq name
  show name ∈ names _ ↔ name ∈ names _
  rw [mem_names_iff, mem_names_iff, find?_filter, find?_filter, same]

end Thinned

end Table

end FailOpenCache
