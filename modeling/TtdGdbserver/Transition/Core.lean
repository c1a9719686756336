import Mathlib.Data.List.Induction

/-!
# Labelled partial transitions and their runs

A component that takes steps is a function `State → Label → Option State`: the
label carries every choice the environment makes, and `none` means that the
label is not enabled.  A run is a finite sequence of enabled steps.  The second
argument of `Run` is a condition on each step taken, so that one relation
serves both for all runs and for the runs whose steps avoid a given branch.

The module names nothing of the program it is used for.
-/

namespace TtdGdbserver.Transition

universe u v

/-- A labelled partial transition. -/
abbrev LStep (σ : Type u) (α : Type v) := σ → α → Option σ

variable {σ : Type u} {α : Type v}

/-- The condition that every step meets. -/
def AnyStep : σ → α → Prop := fun _ _ => True

/-- Finite runs of `step` all of whose steps meet `guard` in the state they
are taken in.  The last step of the run is the last label of the list. -/
inductive Run (step : LStep σ α) (guard : σ → α → Prop) (start : σ) :
    List α → σ → Prop
  | nil : Run step guard start [] start
  | snoc {labels : List α} {middle finish : σ} {label : α} :
      Run step guard start labels middle →
      guard middle label →
      step middle label = some finish →
      Run step guard start (labels ++ [label]) finish

namespace Run

variable {step : LStep σ α} {guard : σ → α → Prop} {start finish : σ} {labels : List α}

/-- A predicate that holds at the start and is preserved by every admitted
step holds at the end of every run. -/
theorem invariant {inv : σ → Prop} (run : Run step guard start labels finish)
    (initial : inv start)
    (preserved : ∀ {middle next : σ} {label : α}, inv middle → guard middle label →
      step middle label = some next → inv next) :
    inv finish := by
  induction run with
  | nil => exact initial
  | snoc _ admitted stepEq ih => exact preserved ih admitted stepEq

/-- Weakening the condition on the steps. -/
theorem mono {weaker : σ → α → Prop} (run : Run step guard start labels finish)
    (implies : ∀ state label, guard state label → weaker state label) :
    Run step weaker start labels finish := by
  induction run with
  | nil => exact .nil
  | snoc _ admitted stepEq ih => exact .snoc ih (implies _ _ admitted) stepEq

/-- Runs compose. -/
theorem trans {middle : σ} {more : List α} (first : Run step guard start labels middle)
    (second : Run step guard middle more finish) :
    Run step guard start (labels ++ more) finish := by
  induction second with
  | nil => simpa using first
  | snoc _ admitted stepEq ih =>
      rw [← List.append_assoc]
      exact .snoc ih admitted stepEq

end Run

/-! ## Executing a list of labels -/

/-- Execute a list of labels, failing at the first one that is not enabled. -/
def exec (step : LStep σ α) : σ → List α → Option σ
  | state, [] => some state
  | state, label :: labels => (step state label).bind fun next => exec step next labels

@[simp]
theorem exec_nil (step : LStep σ α) (state : σ) : exec step state [] = some state :=
  rfl

theorem exec_cons (step : LStep σ α) (state : σ) (label : α) (labels : List α) :
    exec step state (label :: labels) =
      (step state label).bind fun next => exec step next labels :=
  rfl

/-- Execution splits at any point of the list of labels. -/
theorem exec_append (step : LStep σ α) (state : σ) (first second : List α) :
    exec step state (first ++ second) =
      (exec step state first).bind fun next => exec step next second := by
  induction first generalizing state with
  | nil => simp
  | cons label labels ih =>
      simp only [List.cons_append, exec_cons, Option.bind_assoc]
      congr 1
      funext next
      exact ih next

theorem exec_trans {step : LStep σ α} {start middle finish : σ} {first second : List α}
    (reached : exec step start first = some middle)
    (goesOn : exec step middle second = some finish) :
    exec step start (first ++ second) = some finish := by
  rw [exec_append, reached, Option.bind_some, goesOn]

/-- A successful execution is a run. -/
theorem run_of_exec {step : LStep σ α} {start finish : σ} {labels : List α}
    (executed : exec step start labels = some finish) :
    Run step AnyStep start labels finish := by
  induction labels using List.reverseRecOn generalizing finish with
  | nil =>
      have same : start = finish := Option.some.inj executed
      subst finish
      exact .nil
  | append_singleton labels label ih =>
      rw [exec_append, Option.bind_eq_some_iff] at executed
      obtain ⟨middle, first, last⟩ := executed
      rw [exec_cons, Option.bind_eq_some_iff] at last
      obtain ⟨next, stepEq, rest⟩ := last
      have same : next = finish := Option.some.inj rest
      subst finish
      exact .snoc (ih first) trivial stepEq

/-- The steps that meet a decidable condition. -/
def restrict (step : LStep σ α) (guard : σ → α → Prop)
    [∀ state label, Decidable (guard state label)] : LStep σ α :=
  fun state label => if guard state label then step state label else none

/-- A successful execution of the restricted steps is a run of admitted
steps. -/
theorem run_of_exec_restrict {step : LStep σ α} {guard : σ → α → Prop}
    [∀ state label, Decidable (guard state label)] {start finish : σ} {labels : List α}
    (executed : exec (restrict step guard) start labels = some finish) :
    Run step guard start labels finish := by
  have run := run_of_exec executed
  clear executed
  induction run with
  | nil => exact .nil
  | snoc _ _ stepEq ih =>
      unfold restrict at stepEq
      split at stepEq
      · rename_i admitted
        exact .snoc ih admitted stepEq
      · contradiction

/-! ## Loops over a worklist -/

/-- A loop over a worklist keeps any relation between the items still to come
and the state, provided that handling the next item keeps it. -/
theorem foldl_worklist {β : Type v} {handle : σ → β → σ} (inv : List β → σ → Prop)
    (preserved : ∀ {item : β} {rest : List β} {state : σ},
      inv (item :: rest) state → inv rest (handle state item))
    {work : List β} {state : σ} (initial : inv work state) :
    inv [] (work.foldl handle state) := by
  induction work generalizing state with
  | nil => exact initial
  | cons item rest ih => exact ih (preserved initial)

end TtdGdbserver.Transition
