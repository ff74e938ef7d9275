/-!
# Tables of named values

A table holds values under distinct names and keeps the order in which the names were first put
in. Putting a value under a name that is held replaces the value where it stands; putting one
under a new name appends it. The view of a table is `find?`, and each operation is described by
what it does to that view.
-/

namespace FailOpenCache

variable {α : Type}

/-- Replace the value of a name where it stands, or append the name. -/
def putEntry (name : String) (value : α) : List (String × α) → List (String × α)
  | [] => [(name, value)]
  | entry :: rest =>
    if entry.1 = name then (name, value) :: rest else entry :: putEntry name value rest

/-- Putting adds no name other than the one put. -/
theorem mem_names_putEntry {name other : String} {value : α} {entries : List (String × α)}
    (held : other ∈ (putEntry name value entries).map Prod.fst) :
    other = name ∨ other ∈ entries.map Prod.fst := by
  induction entries with
  | nil => simpa [putEntry] using held
  | cons entry rest ih =>
    by_cases same : entry.1 = name
    · simp only [putEntry, same, ↓reduceIte, List.map_cons, List.mem_cons] at held ⊢
      rcases held with rfl | inside
      · exact .inl rfl
      · exact .inr (.inr inside)
    · simp only [putEntry, same, ↓reduceIte, List.map_cons, List.mem_cons] at held ⊢
      rcases held with rfl | inside
      · exact .inr (.inl rfl)
      · rcases ih inside with rfl | inside
        · exact .inl rfl
        · exact .inr (.inr inside)

/-- Putting keeps names distinct. -/
theorem nodup_putEntry (name : String) (value : α) {entries : List (String × α)}
    (distinct : (entries.map Prod.fst).Nodup) :
    ((putEntry name value entries).map Prod.fst).Nodup := by
  induction entries with
  | nil => simp [putEntry]
  | cons entry rest ih =>
    simp only [List.map_cons, List.nodup_cons] at distinct
    by_cases same : entry.1 = name
    · subst same
      simpa [putEntry] using distinct
    · simp only [putEntry, same, ↓reduceIte, List.map_cons, List.nodup_cons]
      refine ⟨fun held => ?_, ih distinct.2⟩
      rcases mem_names_putEntry held with rfl | inside
      · exact same rfl
      · exact distinct.1 inside

/-- Values under distinct names, in the order in which the names were first put in. -/
structure Table (α : Type) where
  /-- Names and values, the oldest name first. -/
  entries : List (String × α)
  /-- No name stands twice. -/
  distinct : (entries.map Prod.fst).Nodup
deriving DecidableEq

namespace Table

/-- The table that holds nothing. -/
def empty : Table α := ⟨[], List.nodup_nil⟩

instance : EmptyCollection (Table α) := ⟨empty⟩

instance : Inhabited (Table α) := ⟨empty⟩

/-- The names held, the oldest first. -/
def names (table : Table α) : List String := table.entries.map Prod.fst

/-- How many names are held. -/
def size (table : Table α) : Nat := table.entries.length

/-- No name is held. -/
def isEmpty (table : Table α) : Bool := table.entries.isEmpty

/-- The value under a name. -/
def find? (table : Table α) (name : String) : Option α := table.entries.lookup name

/-- The name is held. -/
def contains (table : Table α) (name : String) : Bool := (table.find? name).isSome

/-- Replace the value of a name where it stands, or append the name. -/
def put (table : Table α) (name : String) (value : α) : Table α :=
  ⟨putEntry name value table.entries, nodup_putEntry name value table.distinct⟩

/-- Keep the entries that satisfy a test. -/
def filter (table : Table α) (keep : String → α → Bool) : Table α :=
  ⟨table.entries.filter fun entry => keep entry.1 entry.2,
    (List.filter_sublist.map Prod.fst).nodup table.distinct⟩

/-- Drop a name, if it is held. -/
def erase (table : Table α) (name : String) : Table α :=
  table.filter fun other _ => other ≠ name

/-- The table of a list of entries put in one after the other. -/
def ofList (entries : List (String × α)) : Table α :=
  entries.foldl (fun table entry => table.put entry.1 entry.2) empty

/-- Looking a name up in a list of entries meets its first entry first. -/
theorem lookup_entry (held other : String) (kept : α) (rest : List (String × α)) :
    ((held, kept) :: rest).lookup other = if other = held then some kept else rest.lookup other := by
  by_cases found : other = held
  · simp [found]
  · have different : (other == held) = false := by simpa using found
    simp [List.lookup_cons, different, found]

@[simp] theorem find?_empty (name : String) : (empty : Table α).find? name = none := rfl

/-- Looking a name up after a put finds the value put, or what stood under another name. -/
@[simp] theorem find?_put (table : Table α) (name other : String) (value : α) :
    (table.put name value).find? other =
      if other = name then some value else table.find? other := by
  suffices general : ∀ entries : List (String × α),
      (putEntry name value entries).lookup other =
        if other = name then some value else entries.lookup other from general table.entries
  intro entries
  induction entries with
  | nil => rw [putEntry, lookup_entry, List.lookup_nil]
  | cons entry rest ih =>
    obtain ⟨held, kept⟩ := entry
    by_cases same : held = name
    · subst same
      simp only [putEntry, ↓reduceIte, lookup_entry]
      split <;> rfl
    · simp only [putEntry, same, ↓reduceIte, lookup_entry, ih]
      by_cases found : other = held
      · subst found
        simp [same]
      · simp [found]

/-- Looking a name up after dropping a name finds what stood there, unless it was dropped. -/
@[simp] theorem find?_erase (table : Table α) (name other : String) :
    (table.erase name).find? other = if other = name then none else table.find? other := by
  suffices general : ∀ entries : List (String × α),
      (entries.filter fun entry => decide (entry.1 ≠ name)).lookup other =
        if other = name then none else entries.lookup other from general table.entries
  intro entries
  induction entries with
  | nil => simp [List.lookup_nil]
  | cons entry rest ih =>
    obtain ⟨held, kept⟩ := entry
    by_cases same : held = name
    · subst same
      simp only [ne_eq, not_true_eq_false, decide_false, Bool.false_eq_true, not_false_eq_true,
        List.filter_cons_of_neg, lookup_entry]
      rw [ih]
      split <;> rfl
    · simp only [ne_eq, same, not_false_eq_true, decide_true, List.filter_cons_of_pos,
        lookup_entry] at ih ⊢
      rw [ih]
      by_cases found : other = held
      · subst found
        simp [same]
      · simp [found]

end Table

/-- A finite set of names. -/
structure NameSet where
  /-- The names, the first one added first. -/
  names : List String
  /-- No name stands twice. -/
  distinct : names.Nodup
deriving DecidableEq

namespace NameSet

/-- The set of no name. -/
def empty : NameSet := ⟨[], List.nodup_nil⟩

/-- The set of one name. -/
def singleton (name : String) : NameSet := ⟨[name], by simp⟩

/-- Add a name, if it is not held yet. -/
def insert (set : NameSet) (name : String) : NameSet :=
  if held : name ∈ set.names then set
  else ⟨set.names ++ [name], by
    refine List.nodup_append.2 ⟨set.distinct, by simp, ?_⟩
    intro other inside added isName
    simp only [List.mem_singleton] at isName
    exact fun same => held (isName ▸ same ▸ inside)⟩

/-- A name is held after an insertion when it was held before or is the one inserted. -/
@[simp] theorem mem_insert (set : NameSet) (name other : String) :
    other ∈ (set.insert name).names ↔ other = name ∨ other ∈ set.names := by
  by_cases held : name ∈ set.names
  · simp only [insert, held, ↓reduceDIte]
    exact ⟨.inr, fun either => either.elim (fun same => same ▸ held) id⟩
  · simp [insert, held, or_comm]

end NameSet

end FailOpenCache
