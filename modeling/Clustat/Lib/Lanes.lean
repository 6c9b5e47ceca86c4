/-
# Machines with a lane for each party

A machine that serves many parties is given inputs, each by one of them, and what it puts
out goes back to the party of the input.  Its state has a lane for each party when an input
changes no other lane than its own (`others`), and what it does there, and what it puts out,
depends on nothing but that lane (`own`).  Then the parties do not notice each other: what
one of them gets in a run is what it gets in the run of its own inputs (`Separate.outputs_eq`).
-/

import Mathlib.Data.List.Basic
import Mathlib.Tactic.TypeStar

namespace Lanes

variable {σ ε κ ω τ : Type*}

/-- What a machine puts out for some inputs, with the party each output goes to. -/
def outputs (step : σ → ε → σ × List ω) (key : ε → κ) : σ → List ε → List (κ × ω)
  | _, [] => []
  | s, e :: es => (step s e).2.map (Prod.mk (key e)) ++ outputs step key (step s e).1 es

/-- The state has a lane for each party. -/
structure Separate (step : σ → ε → σ × List ω) (key : ε → κ) (lane : κ → σ → τ) : Prop where
  others : ∀ s e k, k ≠ key e → lane k (step s e).1 = lane k s
  own : ∀ s t e, lane (key e) s = lane (key e) t →
    lane (key e) (step s e).1 = lane (key e) (step t e).1 ∧ (step s e).2 = (step t e).2

section Run

variable {step : σ → ε → σ × List ω} {key : ε → κ} {lane : κ → σ → τ} [DecidableEq κ]

/-- **What a party gets** is what its own inputs get it: in a run with the
inputs of others in between, and from a state that others have changed, its
outputs are those of its own inputs alone. -/
theorem Separate.outputs_eq (h : Separate step key lane) {k : κ} {s t : σ}
    (hst : lane k s = lane k t) (es : List ε) :
    (outputs step key s es).filter (·.1 = k) =
      outputs step key t (es.filter (key · = k)) := by
  induction es generalizing s t with
  | nil => rfl
  | cons e es ih =>
    rw [outputs, List.filter_append, List.filter_map]
    by_cases hk : key e = k
    · subst hk
      obtain ⟨hlane, hout⟩ := h.own s t e hst
      rw [List.filter_cons_of_pos (by simp), outputs, ih hlane, hout,
        List.filter_eq_self.2 (by simp)]
    · have hnone : (step s e).2.filter ((fun p : κ × ω => decide (p.1 = k)) ∘ Prod.mk (key e)) =
          [] := List.filter_eq_nil_iff.2 (by simpa using fun _ _ => hk)
      rw [List.filter_cons_of_neg (by simpa using hk), hnone]
      exact ih ((h.others s e k (Ne.symm hk)).trans hst)

end Run

end Lanes
