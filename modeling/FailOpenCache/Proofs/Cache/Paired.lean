import FailOpenCache.Proofs.Cache.Requests
import FailOpenCache.Proofs.Cache.Walks
import FailOpenCache.Proofs.Store.Twins

/-!
# Operations over twins run in pairs

One connection keeps what it holds in the store in memory, its counterpart in the process, because
its store declares nothing. Two operations are paired when over counterparts they answer alike and
leave counterparts, as long as no key of the store in memory gives way. Steps that are paired are
paired one after the other, so it is enough to pair the few steps that look at the declarations.
-/

namespace FailOpenCache.Connection

variable {τ : Type} [BackingStore τ] {α β γ δ ε : Type}

/-- Two connections hold the same, one in the store in memory and the other in the process. -/
structure Counterparts (left : Connection MemoryStore) (right : Connection τ) : Prop where
  /-- The settings are the same. -/
  configuration : left.cache.configuration = right.cache.configuration
  /-- The rules are the same. -/
  rules : left.cache.rules = right.cache.rules
  /-- The guards are the same. -/
  guards : left.cache.guards = right.cache.guards
  /-- The clocks are the same. -/
  now : left.now = right.now
  /-- The store in memory and the fallback store of the other are twins. -/
  twins : Twins left.store right.cache.fallback left.now
  /-- The first one holds nothing in the process. -/
  bare : left.cache.fallback = .empty
  /-- The store of the other declares nothing. -/
  undeclared : BackingStore.capabilities right.store = .none

variable [Libraries]

end FailOpenCache.Connection
