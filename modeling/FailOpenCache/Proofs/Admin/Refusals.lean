import FailOpenCache.Admin.Server

/-!
# Requests that are refused

A request is refused for what stands in it, or because the cache is not connected, and there is a
list of what that can be. Nothing has been done when a request is refused: what is stored, what is
kept in the process, the state of the link and the counters are as they were. A body may be any
bytes. It is malformed if no body can be read off its front; what stands behind a complete one is
not looked at.
-/

namespace FailOpenCache.Admin

variable {σ : Type}

/-! ## What can be wrong with a request -/

/-- There is a response, and it is no success. -/
def IsRefusal (ending : Ending Response) : Prop :=
  ∃ response, ending = .returned response ∧ response.status ≠ 200

/-- A program refuses for just such a reason, and then leaves everything as it is. -/
structure RefusesFor (reason : Prop) (program : StateM (Session σ) (Ending Response))
    (session : Session σ) : Prop where
  /-- It is the reason that decides. -/
  decides : IsRefusal (program session).1 ↔ reason
  /-- Nothing is done. -/
  intact : reason → (program session).2 = session

/-! ## What is no success -/

namespace RefusesFor

variable {reason : Prop} {session : Session σ}

/-- A refusal refuses for any reason that there is. -/
theorem refusal {response : Response} (refused : response.status ≠ 200) (given : reason) :
    RefusesFor reason (refuse response) session :=
  ⟨⟨fun _ => given, fun _ => ⟨response, rfl, refused⟩⟩, fun _ => rfl⟩

/-- A program refuses for whatever amounts to its reason. -/
theorem congr {other : Prop} {program : StateM (Session σ) (Ending Response)}
    (refuses : RefusesFor reason program session) (same : other ↔ reason) :
    RefusesFor other program session :=
  ⟨refuses.decides.trans same.symm, fun given => refuses.intact (same.1 given)⟩

/-- A program of which every response is a success refuses for what is not the case. -/
theorem success {program : StateM (Session σ) (Ending Response)}
    (succeeds : ∀ response, (program session).1 = .returned response → response.status = 200)
    (absent : ¬ reason) : RefusesFor reason program session := by
  refine ⟨⟨?_, fun given => absurd given absent⟩, fun given => absurd given absent⟩
  rintro ⟨response, answered, refused⟩
  exact absurd (succeeds response answered) refused

/-- A program that responds with a success refuses for what is not the case. -/
theorem accepted {program : StateM (Session σ) (Ending Response)} {response : Response}
    (answered : (program session).1 = .returned response) (succeeds : response.status = 200)
    (absent : ¬ reason) : RefusesFor reason program session := by
  refine .success (fun other answered' => ?_) absent
  rw [answered] at answered'
  exact Ending.returned.inj answered' ▸ succeeds

end RefusesFor

end FailOpenCache.Admin
