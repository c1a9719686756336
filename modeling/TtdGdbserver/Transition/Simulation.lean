import TtdGdbserver.Transition.Core

/-!
# Forward simulation

One system simulates another when each step of the other is matched by some
steps of its own, possibly none.  The relation may look at the labels so far.

The module names nothing of the program it is used for.
-/

namespace TtdGdbserver.Transition

universe u v w x

variable {σ : Type u} {α : Type v} {τ : Type w} {β : Type x}

/-- What steps match, runs match. -/
theorem Run.simulated {step : LStep σ α} {guard : σ → α → Prop} {start finish : σ}
    {labels : List α} {simulating : LStep τ β} {first : τ}
    (related : List α → σ → List β → τ → Prop)
    (matched : ∀ {labels : List α} {middle next : σ} {label : α} {labels' : List β} {state : τ},
      related labels middle labels' state → guard middle label → step middle label = some next →
      ∃ more state', exec simulating state more = some state' ∧
        related (labels ++ [label]) next (labels' ++ more) state')
    (run : Run step guard start labels finish) (initial : related [] start [] first) :
    ∃ labels' last, Run simulating AnyStep first labels' last ∧
      related labels finish labels' last := by
  induction run with
  | nil => exact ⟨[], first, .nil, initial⟩
  | snoc _ admitted stepEq ih =>
      obtain ⟨labels', middle', run', relates⟩ := ih
      obtain ⟨more, last, executed, relates'⟩ := matched relates admitted stepEq
      exact ⟨labels' ++ more, last, run'.trans (run_of_exec executed), relates'⟩

end TtdGdbserver.Transition
