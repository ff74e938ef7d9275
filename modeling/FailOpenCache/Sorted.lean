/-!
# Entries in the order of their names

Entries under distinct names can be kept in the order of the names, by code points. Such a list
has one form for each mapping: whatever the order in which entries are inserted, only the latest
value of each name counts.
-/

namespace FailOpenCache

variable {α : Type}

/-- Put an entry where its name belongs, in place of one of the same name. -/
def insertByName (name : String) (value : α) : List (String × α) → List (String × α)
  | [] => [(name, value)]
  | entry :: rest =>
    if name < entry.1 then (name, value) :: entry :: rest
    else if name = entry.1 then (name, value) :: rest
    else entry :: insertByName name value rest

/-- The entries of a list in the order of their names; of several under one name the last one
counts. -/
def sortByName (entries : List (String × α)) : List (String × α) :=
  entries.foldl (fun sorted entry => insertByName entry.1 entry.2 sorted) []

/-- An insertion adds no name other than the one inserted. -/
theorem mem_names_insertByName {name other : String} {value : α} {entries : List (String × α)}
    (held : other ∈ (insertByName name value entries).map Prod.fst) :
    other = name ∨ other ∈ entries.map Prod.fst := by
  induction entries with
  | nil => simpa [insertByName] using held
  | cons entry rest ih =>
    simp only [insertByName] at held
    split at held
    · simpa using held
    · split at held
      · rcases List.mem_cons.1 held with same | inside
        · exact .inl same
        · exact .inr (List.mem_cons_of_mem _ inside)
      · rcases List.mem_cons.1 held with same | inside
        · exact .inr (by simp [same])
        · rcases ih inside with same | inside
          · exact .inl same
          · exact .inr (List.mem_cons_of_mem _ inside)

end FailOpenCache
