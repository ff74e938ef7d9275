import FailOpenCache.Time

/-!
# Store errors

A call to a backing store either answers or fails with one of these causes. The cache never
passes them on; it counts them and goes on without the store.
-/

namespace FailOpenCache

/-- What a store reports of a call that it refused. -/
inductive Refusal where
  /-- A value was used as a set, or a set as a value. -/
  | wrongKind
  /-- A counter holds no integer. -/
  | notAnInteger
  /-- A counter would leave its range. -/
  | counterOverflow
  /-- A pattern cannot be compiled. -/
  | badPattern
  /-- Anything else, in the store's own words. -/
  | reported (text : String)
deriving DecidableEq

/-- The wording of a refusal; that of a pattern is the pattern compiler's own. -/
def Refusal.message? : Refusal → Option String
  | wrongKind => some "WRONGTYPE Operation against a key holding the wrong kind of value"
  | notAnInteger => some "ERR value is not an integer or out of range"
  | counterOverflow => some "ERR increment or decrement would overflow"
  | badPattern => none
  | reported text => some text

/-- Why a call to a store failed. -/
inductive StoreError where
  /-- The call did not end in time. -/
  | timeout (limit : Millis)
  /-- The store does not offer the operation. -/
  | unsupported (operation : String)
  /-- The store refused. -/
  | backend (refusal : Refusal)
deriving DecidableEq

/-- The wording of an error, if it is not another's. -/
def StoreError.message? : StoreError → Option String
  | timeout limit => some ("Operation timed out after " ++ toString limit ++ " ms")
  | unsupported operation => some ("Unsupported operation: " ++ operation)
  | backend refusal => refusal.message?.map ("Backend error: " ++ ·)

end FailOpenCache
