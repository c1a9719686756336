import Mathlib.Algebra.BigOperators.Group.List.Basic
import Mathlib.Algebra.GroupWithZero.Nat
import TtdGdbserver.Transition.Core

/-!
# What a run costs

If every step pays for its cost out of its charge and a credit that the state
holds, then a run costs no more than its charges and the credit at its start.

The module names nothing of the program it is used for.
-/

namespace TtdGdbserver.Transition

universe u v

variable {σ : Type u} {α : Type v} {step : LStep σ α} {guard : σ → α → Prop}
  {start finish : σ} {labels : List α}

/-- The cost and the credit at the end are paid for by those at the start and
the charges of the steps. -/
theorem Run.amortised (inv : σ → Prop) (cost credit : σ → Nat) (charge : α → Nat)
    (kept : ∀ {state next : σ} {label : α}, inv state → guard state label →
      step state label = some next → inv next)
    (paid : ∀ {state next : σ} {label : α}, inv state → guard state label →
      step state label = some next →
      cost next + credit next ≤ cost state + credit state + charge label)
    (run : Run step guard start labels finish) (initial : inv start) :
    cost finish + credit finish ≤ cost start + credit start + (labels.map charge).sum := by
  have held : inv finish ∧
      cost finish + credit finish ≤ cost start + credit start + (labels.map charge).sum := by
    induction run with
    | nil => exact ⟨initial, by simp⟩
    | @snoc labels middle next label _ admitted stepEq ih =>
        refine ⟨kept ih.1 admitted stepEq, ?_⟩
        calc
          cost next + credit next ≤ cost middle + credit middle + charge label :=
            paid ih.1 admitted stepEq
          _ ≤ cost start + credit start + (labels.map charge).sum + charge label :=
            Nat.add_le_add_right ih.2 _
          _ = cost start + credit start + ((labels ++ [label]).map charge).sum := by
            simp [Nat.add_assoc]
  exact held.2

end TtdGdbserver.Transition
