/-!
# Capabilities

A backing store need not offer every operation. It declares the groups it offers, and the cache
calls no operation of a group that is not declared.
-/

namespace FailOpenCache

/-- A group of operations that a store offers or does not. -/
inductive OperationGroup where
  /-- Reading, writing, deleting and probing single values. -/
  | keyValue
  /-- Counting. -/
  | counters
  /-- Walking over the keys. -/
  | scan
  /-- Reading and writing several values in one call. -/
  | pipeline
  /-- Sets of members. -/
  | sets
deriving DecidableEq

/-- The groups that a store declares. -/
structure Capabilities where
  /-- Reading, writing, deleting and probing single values. -/
  keyValue : Bool
  /-- Counting. -/
  counters : Bool
  /-- Walking over the keys. -/
  scan : Bool
  /-- Reading and writing several values in one call. -/
  pipeline : Bool
  /-- Sets of members. -/
  sets : Bool
deriving DecidableEq

namespace Capabilities

/-- Every group. -/
def all : Capabilities := ⟨true, true, true, true, true⟩

/-- No group. -/
def none : Capabilities := ⟨false, false, false, false, false⟩

/-- The group is declared. -/
def declares (capabilities : Capabilities) : OperationGroup → Bool
  | .keyValue => capabilities.keyValue
  | .counters => capabilities.counters
  | .scan => capabilities.scan
  | .pipeline => capabilities.pipeline
  | .sets => capabilities.sets

/-- A walk can delete the keys that it finds. -/
def deletesByWalk (capabilities : Capabilities) : Bool :=
  capabilities.scan && capabilities.keyValue

/-- The record of a tag can be kept, read and dropped. -/
def keepsTags (capabilities : Capabilities) : Bool :=
  capabilities.sets && capabilities.keyValue

/-- All groups are those that every group belongs to. -/
theorem declares_all (group : OperationGroup) : all.declares group = true := by
  cases group <;> rfl

end Capabilities

end FailOpenCache
