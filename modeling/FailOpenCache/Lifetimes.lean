import FailOpenCache.Table
import FailOpenCache.Time

/-!
# Lifetimes of keys

A write that states no lifetime takes the one of the first rule whose stem the key starts with, or
the default one. The rules stand in the order in which their stems were first given, and each stem
has the lifetime given for it last.
-/

namespace FailOpenCache

/-- The rules by which keys get their lifetimes. -/
structure LifetimeRules where
  /-- The lifetime of keys that no rule is for. -/
  default : Seconds
  /-- The lifetime of the keys that start with each stem. -/
  overrides : Table Seconds
deriving DecidableEq

namespace LifetimeRules

/-- The default lifetime when none is configured. -/
def usualDefault : Seconds := 300

/-- The rules given one after the other. -/
def ofList (default : Seconds) (overrides : List (String × Seconds)) : LifetimeRules :=
  ⟨default, .ofList overrides⟩

/-- Give a stem a lifetime. -/
def override (rules : LifetimeRules) (stem : String) (lifetime : Seconds) : LifetimeRules :=
  { rules with overrides := rules.overrides.put stem lifetime }

/-- The key starts with the stem. -/
def applies (stem key : String) : Bool :=
  stem.toList.isPrefixOf key.toList

/-- The lifetime of a key: the stated one, else that of the first rule that applies, else the
default. -/
def resolve (rules : LifetimeRules) (key : String) (stated : Option Seconds) : Seconds :=
  match stated with
  | some lifetime => lifetime
  | none =>
    match rules.overrides.entries.find? fun rule => applies rule.1 key with
    | some rule => rule.2
    | none => rules.default

end LifetimeRules

end FailOpenCache
