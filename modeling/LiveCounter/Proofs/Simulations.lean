/-!
# Machines that answer alike

A machine takes requests one after the other; its step gives the answer to a request and the state
after it. If the steps of two machines go together, from related states to related states and with
answers that mean the same, so do all their runs.
-/

namespace LiveCounter

variable {σ τ ι ο π : Type}

/-- The answer to a request in a state, and the state after it. -/
abbrev Machine (σ ι ο : Type) := σ → ι → ο × σ

namespace Machine

/-- The state after several requests. -/
def run (step : Machine σ ι ο) (state : σ) (requests : List ι) : σ :=
  requests.foldl (fun state request => (step state request).2) state

/-- Several requests, each with its answer. -/
def log (step : Machine σ ι ο) (state : σ) : List ι → List (ι × ο)
  | [] => []
  | request :: requests =>
    (request, (step state request).1) :: step.log (step state request).2 requests

/-- The second machine does what the first one does: related states stay related, and the answers of
the first mean those of the second. -/
def Follows (second : Machine τ ι π) (first : Machine σ ι ο) (meaning : ο → π)
    (related : σ → τ → Prop) : Prop :=
  ∀ {state other}, related state other → ∀ request,
    meaning (first state request).1 = (second other request).1 ∧
      related (first state request).2 (second other request).2

variable {first : Machine σ ι ο} {second : Machine τ ι π} {meaning : ο → π}
  {related : σ → τ → Prop}

/-- Machines that start in related states end in related states. -/
theorem Follows.run (h : second.Follows first meaning related) {state : σ} {other : τ}
    (hrelated : related state other) (requests : List ι) :
    related (first.run state requests) (second.run other requests) := by
  induction requests generalizing state other with
  | nil => exact hrelated
  | cons request requests ih => exact ih (h hrelated request).2

/-- Machines that start in related states give the same answers, in their own terms. -/
theorem Follows.log (h : second.Follows first meaning related) {state : σ} {other : τ}
    (hrelated : related state other) (requests : List ι) :
    (first.log state requests).map (Prod.map id meaning) = second.log other requests := by
  induction requests generalizing state other with
  | nil => rfl
  | cons request requests ih =>
    obtain ⟨hanswer, hlater⟩ := h hrelated request
    simp only [Machine.log, List.map_cons, Prod.map_apply, id, hanswer, ih hlater]

end Machine

end LiveCounter
