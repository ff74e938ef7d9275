import FailOpenCache.Lifetimes
import FailOpenCache.Proofs.Sorted
import FailOpenCache.Proofs.Table

/-!
# Rules given one after the other

A stem keeps the place where it was first given, and takes the lifetime that is given for it last.
So the rules are told by the list of what was given: a key for which no lifetime is stated gets the
last lifetime of the first stem given that it starts with. One more rule counts for the keys that
start with its stem, except for those that start with another stem given before it.
-/

namespace FailOpenCache

/-- A name at the end stays unless it stands before. -/
theorem eraseDups_append_singleton (names : List String) (name : String) :
    (names ++ [name]).eraseDups =
      if name ∈ names then names.eraseDups else names.eraseDups ++ [name] := by
  rw [List.eraseDups_append]
  by_cases held : name ∈ names
  · simp [List.removeAll, held]
  · simp [List.removeAll, held, List.eraseDups_cons]

namespace Table

variable {α : Type}

/-- Putting leaves the names as they are, or appends a new one. -/
theorem names_put (table : Table α) (name : String) (value : α) :
    (table.put name value).names =
      if name ∈ table.names then table.names else table.names ++ [name] := by
  suffices general : ∀ entries : List (String × α),
      (putEntry name value entries).map Prod.fst =
        if name ∈ entries.map Prod.fst then entries.map Prod.fst
        else entries.map Prod.fst ++ [name] from general table.entries
  intro entries
  induction entries with
  | nil => rfl
  | cons entry rest ih =>
    rw [putEntry]
    by_cases same : entry.1 = name
    · simp [same]
    · have differs : name ≠ entry.1 := fun other => same other.symm
      rw [if_neg same, List.map_cons, ih]
      by_cases held : name ∈ rest.map Prod.fst
      · simp [held]
      · simp [held, differs]

/-- Of two values put under one name the later one stays. -/
theorem put_put (table : Table α) (name : String) (value later : α) :
    (table.put name value).put name later = table.put name later := by
  suffices general : ∀ entries : List (String × α),
      putEntry name later (putEntry name value entries) = putEntry name later entries by
    obtain ⟨entries, distinct⟩ := table
    simp only [put, general entries]
  intro entries
  induction entries with
  | nil => simp [putEntry]
  | cons entry rest ih =>
    by_cases same : entry.1 = name
    · simp [putEntry, same]
    · simp [putEntry, same, ih]

/-- The last entry is put in last. -/
theorem ofList_append_singleton (entries : List (String × α)) (entry : String × α) :
    ofList (entries ++ [entry]) = (ofList entries).put entry.1 entry.2 := by
  simp only [ofList, List.foldl_append, List.foldl_cons, List.foldl_nil]

/-- The names stand in the order in which they are first given. -/
theorem names_ofList (entries : List (String × α)) :
    (ofList entries).names = (entries.map Prod.fst).eraseDups := by
  induction entries using List.reverseRecOn with
  | nil => rfl
  | append_singleton earlier entry ih =>
    rw [ofList_append_singleton, names_put, ih, List.map_append, List.map_singleton,
      eraseDups_append_singleton]
    simp only [List.mem_eraseDups]

/-- What stands under a name is the last value given under it. -/
theorem find?_ofList (entries : List (String × α)) (name : String) :
    (ofList entries).find? name = lastUnder? entries name := by
  induction entries using List.reverseRecOn with
  | nil => rfl
  | append_singleton earlier entry ih =>
    rw [ofList_append_singleton, find?_put, ih, lastUnder?_append_singleton]

end Table

/-- Looking for the first name with a property, repeated names may be left out. -/
theorem find?_eraseDups (names : List String) (property : String → Bool) :
    names.eraseDups.find? property = names.find? property := by
  induction names using List.reverseRecOn with
  | nil => rfl
  | append_singleton earlier name ih =>
    rw [eraseDups_append_singleton]
    split
    · rename_i held
      rw [ih, List.find?_append]
      cases found : earlier.find? property with
      | some other => rfl
      | none => simp [List.find?_eq_none.1 found name held]
    · rw [List.find?_append, List.find?_append, ih]

/-- A name with the property at the end is the first one unless another name comes before it. -/
theorem find?_append_singleton_of_pos {names : List String} {name : String}
    {property : String → Bool} (holds : property name = true) :
    (names ++ [name]).find? property =
      ((names.takeWhile (· ≠ name)).find? property).or (some name) := by
  induction names with
  | nil => simp [holds]
  | cons first rest ih =>
    by_cases same : first = name
    · simp [same, holds]
    · rw [List.cons_append, List.takeWhile_cons_of_pos (by simpa using same), List.find?_cons,
        List.find?_cons, ih]
      cases property first <;> rfl

namespace LifetimeRules

/-- Give stems lifetimes, one after the other. -/
def overrideAll (rules : LifetimeRules) (given : List (String × Seconds)) : LifetimeRules :=
  given.foldl (fun left rule => left.override rule.1 rule.2) rules

/-- One more rule is put into the table of those given before. -/
theorem override_ofList (default : Seconds) (given : List (String × Seconds)) (stem : String)
    (lifetime : Seconds) :
    (ofList default given).override stem lifetime = ofList default (given ++ [(stem, lifetime)]) := by
  rw [override, ofList, ofList, Table.ofList_append_singleton]

/-- Rules given later follow those given at the beginning. -/
theorem overrideAll_ofList (default : Seconds) (initial later : List (String × Seconds)) :
    (ofList default initial).overrideAll later = ofList default (initial ++ later) := by
  induction later using List.reverseRecOn with
  | nil => rw [List.append_nil, overrideAll, List.foldl_nil]
  | append_singleton earlier rule ih =>
    rw [overrideAll] at ih ⊢
    rw [List.foldl_append, ih, List.foldl_cons, List.foldl_nil, override_ofList,
      List.append_assoc]

/-- Giving a stem its lifetime once more changes nothing. -/
theorem override_override (rules : LifetimeRules) (stem : String) (lifetime : Seconds) :
    (rules.override stem lifetime).override stem lifetime = rules.override stem lifetime := by
  simp only [override, Table.put_put]

/-- The stem given first of those that a key starts with. -/
def earliest? (given : List (String × Seconds)) (key : String) : Option String :=
  (given.map Prod.fst).find? fun stem => stem.toList <+: key.toList

/-- A key starts with another stem that was given before the stem was. -/
def Shadowed (given : List (String × Seconds)) (stem key : String) : Prop :=
  ∃ other ∈ (given.map Prod.fst).takeWhile (· ≠ stem), other.toList <+: key.toList

instance (given : List (String × Seconds)) (stem key : String) :
    Decidable (Shadowed given stem key) :=
  inferInstanceAs (Decidable (∃ other ∈ (given.map Prod.fst).takeWhile (· ≠ stem),
    other.toList <+: key.toList))

/-- Where no lifetime is stated, the first of the stems that the key starts with decides. -/
theorem resolve_none (rules : LifetimeRules) (key : String) :
    rules.resolve key none =
      ((rules.overrides.names.find? fun stem => stem.toList <+: key.toList).bind
        rules.overrides.find?).getD rules.default := by
  have starts : ∀ stem, decide (stem.toList <+: key.toList) = applies stem key := fun stem =>
    Bool.eq_iff_iff.2 (by rw [applies, List.isPrefixOf_iff_prefix, decide_eq_true_eq])
  rw [resolve, Table.names, List.find?_map]
  simp only [Function.comp_def, starts]
  cases found : rules.overrides.entries.find? fun rule => applies rule.1 key with
  | none => rfl
  | some rule =>
    have held : (rule.1, rule.2) ∈ rules.overrides.entries := List.mem_of_find?_eq_some found
    rw [Option.map_some, Option.bind_some, Table.find?_of_mem held, Option.getD_some]

/-- Where no lifetime is stated, the last lifetime of the first stem given that the key starts with
is its lifetime, or the default one. -/
theorem resolve_ofList (default : Seconds) (given : List (String × Seconds)) (key : String) :
    (ofList default given).resolve key none =
      ((earliest? given key).bind (lastUnder? given)).getD default := by
  have lifetimes : (ofList default given).overrides.find? = lastUnder? given :=
    funext (Table.find?_ofList given)
  rw [resolve_none, lifetimes, ofList, Table.names_ofList, find?_eraseDups]
  rfl

/-- Rules that are told by the list of those given one after the other. -/
structure FirstMatch (default : Seconds) (given : List (String × Seconds))
    (rules : LifetimeRules) : Prop where
  /-- The stems stand in the order in which each was first given. -/
  stems : rules.overrides.names = (given.map Prod.fst).eraseDups
  /-- No stem stands twice. -/
  once : rules.overrides.names.Nodup
  /-- Each stem has the lifetime given for it last. -/
  lifetimes : ∀ stem, rules.overrides.find? stem = lastUnder? given stem
  /-- Where no lifetime is stated, the stem given first of those that the key starts with decides,
  and the default lifetime if there is none. -/
  unstated : ∀ key, rules.resolve key none =
    ((earliest? given key).bind (lastUnder? given)).getD default
  /-- A stated lifetime counts as it is. -/
  stated : ∀ key lifetime, rules.resolve key (some lifetime) = lifetime

/-- The rules of a list are told by it. -/
theorem firstMatch_ofList (default : Seconds) (given : List (String × Seconds)) :
    FirstMatch default given (ofList default given) where
  stems := Table.names_ofList given
  once := Table.distinct _
  lifetimes := Table.find?_ofList given
  unstated := resolve_ofList default given
  stated _ _ := rfl

section

variable {given : List (String × Seconds)} {stem key : String} (lifetime : Seconds)

/-- A rule counts for no key that does not start with its stem. -/
theorem resolve_override_of_apart (default : Seconds) (apart : ¬ stem.toList <+: key.toList) :
    ((ofList default given).override stem lifetime).resolve key none =
      (ofList default given).resolve key none := by
  have same : earliest? (given ++ [(stem, lifetime)]) key = earliest? given key := by
    simp [earliest?, List.find?_append, apart]
  rw [override_ofList, resolve_ofList, resolve_ofList, same]
  cases found : earliest? given key with
  | none => rfl
  | some other =>
    have differs : other ≠ stem := by
      rintro rfl
      have applied := List.find?_some found
      exact apart (of_decide_eq_true applied)
    rw [Option.bind_some, Option.bind_some, lastUnder?_append_singleton, if_neg differs]

/-- A rule counts for no key that starts with another stem given before. -/
theorem resolve_override_of_shadowed (default : Seconds) (shadowed : Shadowed given stem key) :
    ((ofList default given).override stem lifetime).resolve key none =
      (ofList default given).resolve key none := by
  by_cases starts : stem.toList <+: key.toList
  · obtain ⟨other, before, applied⟩ := shadowed
    cases front : ((given.map Prod.fst).takeWhile (· ≠ stem)).find?
        fun stem => stem.toList <+: key.toList with
    | none => exact absurd (decide_eq_true applied) (List.find?_eq_none.1 front other before)
    | some first =>
      -- The first stem in front is the first one of all, with the new rule or without it.
      have early : earliest? given key = some first := by
        rw [earliest?, ← List.takeWhile_append_dropWhile (p := (· ≠ stem)) (l := given.map Prod.fst),
          List.find?_append, front, Option.some_or]
      have early' : earliest? (given ++ [(stem, lifetime)]) key = some first := by
        rw [earliest?, List.map_append, List.map_singleton,
          find?_append_singleton_of_pos (decide_eq_true starts), front, Option.some_or]
      have differs : first ≠ stem := by
        simpa using List.all_eq_true.1 List.all_takeWhile first (List.mem_of_find?_eq_some front)
      rw [override_ofList, resolve_ofList, resolve_ofList, early, early', Option.bind_some,
        Option.bind_some, lastUnder?_append_singleton, if_neg differs]
  · exact resolve_override_of_apart lifetime default starts

/-- A rule counts for all other keys that start with its stem. -/
theorem resolve_override_of_starts (default : Seconds) (starts : stem.toList <+: key.toList)
    (clear : ¬ Shadowed given stem key) :
    ((ofList default given).override stem lifetime).resolve key none = lifetime := by
  have front : ((given.map Prod.fst).takeWhile (· ≠ stem)).find?
      (fun stem => stem.toList <+: key.toList) = none :=
    List.find?_eq_none.2 fun other before applied =>
      clear ⟨other, before, of_decide_eq_true applied⟩
  have early : earliest? (given ++ [(stem, lifetime)]) key = some stem := by
    rw [earliest?, List.map_append, List.map_singleton,
      find?_append_singleton_of_pos (decide_eq_true starts), front, Option.none_or]
  rw [override_ofList, resolve_ofList, early, Option.bind_some, lastUnder?_append_singleton,
    if_pos rfl, Option.getD_some]

end

end LifetimeRules

end FailOpenCache
