import FailOpenCache.Store.Request

/-!
# One of two stores

A session that may be given stores of several kinds works on their sum: a store of either kind
answers as it would on its own, and stays of its kind.
-/

namespace FailOpenCache

variable {σ τ : Type}

/-- What the store of either kind answers. -/
def answerEither [BackingStore σ] [BackingStore τ] (request : Request) (now : Millis) :
    σ ⊕ τ → Except StoreError request.Reply × (σ ⊕ τ)
  | .inl store =>
    let (reply, left) := BackingStore.answer request now store
    (reply, .inl left)
  | .inr store =>
    let (reply, left) := BackingStore.answer request now store
    (reply, .inr left)

instance [BackingStore σ] [BackingStore τ] : BackingStore (σ ⊕ τ) where
  name
    | .inl store => BackingStore.name store
    | .inr store => BackingStore.name store
  capabilities
    | .inl store => BackingStore.capabilities store
    | .inr store => BackingStore.capabilities store
  pageBound
    | .inl store => BackingStore.pageBound store
    | .inr store => BackingStore.pageBound store
  answer := answerEither

end FailOpenCache
