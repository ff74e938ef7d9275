import FailOpenCache.Proofs.Store.EagerAnswers

/-!
# Requests about one key at a time

A request about several keys does to the store in memory what requests about one key each do, made
one after the other at the same instant up to the first one that fails. So a run of requests can be
taken to pieces that are about one key at most, and what such a piece can do to the store is little.
-/

namespace FailOpenCache

namespace Request

/-- The request is about one key at most. -/
def IsSingle : Request → Prop
  | getMany _ | setMany _ _ => False
  | delete keys | addMember keys _ _ => ∃ key, keys = [key]
  | _ => True

/-- The requests about one key each that a request about several keys stands for. -/
def singly : Request → List Request
  | getMany keys => keys.map get
  | setMany items lifetime => items.map fun item => set item.1 item.2 lifetime
  | delete keys => keys.map fun key => delete [key]
  | addMember keys member lifetime => keys.map fun key => addMember [key] member lifetime
  | request => [request]

/-- What a request stands for is about one key each. -/
theorem isSingle_of_mem_singly {request single : Request} (held : single ∈ request.singly) :
    single.IsSingle := by
  cases request with
  | getMany keys =>
    obtain ⟨key, -, rfl⟩ := List.mem_map.1 held
    exact trivial
  | setMany items lifetime =>
    obtain ⟨item, -, rfl⟩ := List.mem_map.1 held
    exact trivial
  | delete keys =>
    obtain ⟨key, -, rfl⟩ := List.mem_map.1 held
    exact ⟨key, rfl⟩
  | addMember keys member lifetime =>
    obtain ⟨key, -, rfl⟩ := List.mem_map.1 held
    exact ⟨key, rfl⟩
  | _ =>
    obtain rfl := List.mem_singleton.1 held
    exact trivial

end Request

namespace MemoryStore

variable [Libraries]

/-- The store that is left when requests have been answered one after the other. -/
def after (store : MemoryStore) (calls : List (Millis × Request)) : MemoryStore :=
  (store.answerAll calls).2

@[simp] theorem after_cons (store : MemoryStore) (now : Millis) (request : Request)
    (rest : List (Millis × Request)) :
    store.after ((now, request) :: rest) = (store.answer request now).2.after rest := rfl

/-- What is left after more requests. -/
theorem after_append (store : MemoryStore) (calls later : List (Millis × Request)) :
    store.after (calls ++ later) = (store.after calls).after later := by
  induction calls generalizing store with
  | nil => rfl
  | cons call rest ih => exact ih _

/-- Whatever is requested, the store stays coherent. -/
theorem Coherent.after {store : MemoryStore} (coherent : store.Coherent)
    (calls : List (Millis × Request)) : (store.after calls).Coherent := by
  induction calls generalizing store with
  | nil => exact coherent
  | cons call rest ih => exact ih (coherent.answer call.2 call.1)

/-- Of requests made at one instant, those up to the first that fails. -/
def untilRefused (store : MemoryStore) (now : Millis) : List Request → List (Millis × Request)
  | [] => []
  | request :: rest =>
    (now, request) :: match (store.answer request now).1 with
      | .error _ => []
      | .ok _ => (store.answer request now).2.untilRefused now rest

/-- What stands before a refusal is some of the requests at that instant. -/
theorem mem_of_mem_untilRefused {requests : List Request} {store : MemoryStore} {now : Millis}
    {call : Millis × Request} (held : call ∈ store.untilRefused now requests) :
    call.2 ∈ requests := by
  induction requests generalizing store with
  | nil => exact absurd held List.not_mem_nil
  | cons request rest ih =>
    rw [untilRefused] at held
    rcases List.mem_cons.1 held with rfl | later
    · exact List.mem_cons_self
    · split at later
      · exact absurd later List.not_mem_nil
      · exact List.mem_cons_of_mem _ (ih later)

/-- Go on with the store that is left, unless the answer is an error. -/
def goOn {α : Type} (outcome : Except StoreError α × MemoryStore)
    (next : MemoryStore → MemoryStore) : MemoryStore :=
  match outcome.1 with
  | .error _ => outcome.2
  | .ok _ => next outcome.2

/-- What is done to several things in order, up to the first that fails, is done to them one by
one. -/
theorem after_untilRefused_map {α : Type} (now : Millis) (single : α → Request)
    (whole : List α → MemoryStore → MemoryStore) (nothing : ∀ store, whole [] store = store)
    (step : ∀ item rest store,
      whole (item :: rest) store = goOn (store.answer (single item) now) (whole rest))
    (items : List α) (store : MemoryStore) :
    store.after (store.untilRefused now (items.map single)) = whole items store := by
  induction items generalizing store with
  | nil => exact (nothing store).symm
  | cons item rest ih =>
    rw [List.map_cons, untilRefused, after_cons, step, goOn]
    cases (store.answer (single item) now).1 with
    | error error => rfl
    | ok reply => exact ih _

omit [Libraries] in
/-- Several keys are read one by one, up to the first error. -/
theorem getMany_cons (store : MemoryStore) (key : String) (rest : List String) (now : Millis) :
    (store.getMany (key :: rest) now).2 =
      goOn (store.get key now) fun used => (used.getMany rest now).2 := by
  rw [getMany]
  rcases store.get key now with ⟨error | found, used⟩
  · rfl
  · rfl

omit [Libraries] in
/-- Several keys are deleted one by one. -/
theorem delete_cons (store : MemoryStore) (key : String) (rest : List String) (now : Millis) :
    (store.delete (key :: rest) now).2 = ((store.delete [key] now).2.delete rest now).2 := by
  rw [delete, delete]
  rcases store.use key now with ⟨_ | slot, used⟩
  · rfl
  · rfl

omit [Libraries] in
/-- A member is added to several keys one by one, up to the first error. -/
theorem addMember_cons (store : MemoryStore) (key : String) (rest : List String) (member : String)
    (lifetime : Seconds) (now : Millis) :
    (store.addMember (key :: rest) member lifetime now).2 =
      goOn (store.addMember [key] member lifetime now)
        fun used => (used.addMember rest member lifetime now).2 := by
  rw [addMember, addMember]
  rcases store.use key now with ⟨_ | ⟨entry | ⟨members, deadline⟩⟩, used⟩
  · rfl
  · rfl
  · rfl

/-- A request about several keys does to the store what the requests that it stands for do up to the
first that fails. -/
theorem after_singly (store : MemoryStore) (request : Request) (now : Millis) :
    store.after (store.untilRefused now request.singly) = (store.answer request now).2 := by
  have alone : ∀ request : Request,
      store.after (store.untilRefused now [request]) = (store.answer request now).2 := by
    intro request
    rw [untilRefused, after_cons]
    cases (store.answer request now).1 with
    | error error => rfl
    | ok reply => rfl
  cases request with
  | getMany keys =>
    exact after_untilRefused_map now .get (fun keys store => (store.getMany keys now).2)
      (fun _ => rfl) (fun key rest store => getMany_cons store key rest now) keys store
  | setMany items lifetime =>
    exact after_untilRefused_map now (fun item => .set item.1 item.2 lifetime)
      (fun items store => store.setMany items lifetime now)
      (fun _ => rfl) (fun item rest store => rfl) items store
  | delete keys =>
    exact after_untilRefused_map now (fun key => .delete [key])
      (fun keys store => (store.delete keys now).2)
      (fun _ => rfl) (fun key rest store => delete_cons store key rest now) keys store
  | addMember keys member lifetime =>
    exact after_untilRefused_map now (fun key => .addMember [key] member lifetime)
      (fun keys store => (store.addMember keys member lifetime now).2)
      (fun _ => rfl) (fun key rest store => addMember_cons store key rest member lifetime now)
      keys store
  | _ => exact alone _

/-- The pieces of a run: of each request what it stands for, up to the first that fails. -/
def pieces (store : MemoryStore) : List (Millis × Request) → List (Millis × Request)
  | [] => []
  | (now, request) :: rest =>
    store.untilRefused now request.singly ++ (store.answer request now).2.pieces rest

/-- The pieces of a run leave what the run leaves. -/
theorem after_pieces (store : MemoryStore) (calls : List (Millis × Request)) :
    store.after (store.pieces calls) = store.after calls := by
  induction calls generalizing store with
  | nil => rfl
  | cons call rest ih =>
    obtain ⟨now, request⟩ := call
    rw [pieces, after_append, after_singly, after_cons, ih]

/-- A piece of a run is one of those that a request of the run stands for. -/
theorem exists_of_mem_pieces {calls : List (Millis × Request)} {store : MemoryStore}
    {piece : Millis × Request} (held : piece ∈ store.pieces calls) :
    ∃ call ∈ calls, piece.2 ∈ call.2.singly := by
  induction calls generalizing store with
  | nil => exact absurd held List.not_mem_nil
  | cons call rest ih =>
    rw [pieces] at held
    rcases List.mem_append.1 held with here | later
    · exact ⟨call, List.mem_cons_self, mem_of_mem_untilRefused here⟩
    · obtain ⟨other, inside, named⟩ := ih later
      exact ⟨other, List.mem_cons_of_mem _ inside, named⟩

/-- The pieces of a run are about one key at most. -/
theorem isSingle_of_mem_pieces {calls : List (Millis × Request)} {store : MemoryStore}
    {piece : Millis × Request} (held : piece ∈ store.pieces calls) : piece.2.IsSingle := by
  obtain ⟨call, -, named⟩ := exists_of_mem_pieces held
  exact Request.isSingle_of_mem_singly named

end MemoryStore

end FailOpenCache
