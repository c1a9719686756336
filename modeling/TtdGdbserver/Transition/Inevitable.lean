import TtdGdbserver.Transition.Core

/-!
# What every schedule leads to

A goal is inevitable when it is reached however the steps of a given kind are
scheduled: no schedule goes on for ever before the goal, and none gets stuck.
Nothing is assumed about fairness.

The module names nothing of the program it is used for.
-/

namespace TtdGdbserver.Transition

universe u v

variable {σ : Type u} {α : Type v}

/-- Every schedule of the steps that are `going` reaches the goal. -/
inductive Inevitable (step : LStep σ α) (going : α → Prop) (goal : σ → Prop) : σ → Prop
  | reached {state : σ} : goal state → Inevitable step going goal state
  | goesOn {state : σ} :
      (∃ label next, going label ∧ step state label = some next) →
      (∀ label next, going label → step state label = some next →
        Inevitable step going goal next) →
      Inevitable step going goal state

variable {step : LStep σ α} {going : α → Prop} {goal : σ → Prop}

/-- Steps that count down and do not get stuck make the goal inevitable. -/
theorem inevitable_of_measure (inv : σ → Prop) (measure : σ → Nat)
    (kept : ∀ {state next : σ} {label : α}, inv state → going label →
      step state label = some next → inv next)
    (falls : ∀ {state next : σ} {label : α}, inv state → ¬ goal state → going label →
      step state label = some next → goal next ∨ measure next < measure state)
    (moves : ∀ {state : σ}, inv state → ¬ goal state →
      ∃ label next, going label ∧ step state label = some next)
    {state : σ} (initial : inv state) : Inevitable step going goal state := by
  classical
  induction counted : measure state using Nat.strongRecOn generalizing state with
  | ind count ih =>
      by_cases there : goal state
      · exact .reached there
      · refine .goesOn (moves initial there) ?_
        intro label next admitted stepEq
        rcases falls initial there admitted stepEq with arrived | smaller
        · exact .reached arrived
        · exact ih (measure next) (counted ▸ smaller) (kept initial admitted stepEq) rfl

theorem Inevitable.mono {weaker : σ → Prop} {state : σ}
    (inevitable : Inevitable step going goal state) (implies : ∀ state, goal state → weaker state) :
    Inevitable step going weaker state := by
  induction inevitable with
  | reached there => exact .reached (implies _ there)
  | goesOn enabled _ ih => exact .goesOn enabled ih

end TtdGdbserver.Transition
