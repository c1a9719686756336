import Mathlib.Logic.Function.Basic

/-!
# Dialogues with a stateful callback

A library call that invokes a callback of its caller is a `Dialogue`: it asks
finitely many questions, each answer may change what it does next, and it ends
with a result.  Nothing else is assumed of the call.  Running a dialogue threads
the state of the callback through the answers.

The module names nothing of the program it is used for.
-/

namespace TtdGdbserver.Transition

universe u v w x

/-- A call that asks questions in `α`, wants answers in `β` and ends in `ρ`. -/
inductive Dialogue (α : Type u) (β : Type v) (ρ : Type w) where
  | done (result : ρ)
  | ask (question : α) (next : β → Dialogue α β ρ)

namespace Dialogue

variable {α : Type u} {β : Type v} {ρ : Type w} {τ : Type x}

/-- Run a dialogue against a callback with state `τ`. -/
def run (answer : τ → α → β × τ) : Dialogue α β ρ → τ → ρ × τ
  | done result, state => (result, state)
  | ask question next, state =>
      let reply := answer state question
      run answer (next reply.1) reply.2

/-- A predicate on the callback's state that every answer keeps holds after the
call. -/
theorem run_invariant {answer : τ → α → β × τ} (inv : τ → Prop)
    (kept : ∀ state question, inv state → inv (answer state question).2)
    (dialogue : Dialogue α β ρ) {state : τ} (initial : inv state) :
    inv (run answer dialogue state).2 := by
  induction dialogue generalizing state with
  | done result => exact initial
  | ask question next ih => exact ih _ (kept state question initial)

/-- Two callbacks that always answer alike, one with more state than the other,
make the call end alike. -/
theorem run_project {τ' : Type x} {answer : τ → α → β × τ} {answer' : τ' → α → β × τ'}
    (project : τ → τ')
    (alike : ∀ state question, answer' (project state) question =
      ((answer state question).1, project (answer state question).2))
    (dialogue : Dialogue α β ρ) (state : τ) :
    run answer' dialogue (project state) =
      ((run answer dialogue state).1, project (run answer dialogue state).2) := by
  induction dialogue generalizing state with
  | done result => rfl
  | ask question next ih =>
      simp only [run, alike]
      exact ih _ _

/-- End with `f` of the result. -/
def map {ρ' : Type w} (f : ρ → ρ') : Dialogue α β ρ → Dialogue α β ρ'
  | done result => .done (f result)
  | ask question next => .ask question fun reply => map f (next reply)

theorem run_map {ρ' : Type w} (f : ρ → ρ') (answer : τ → α → β × τ)
    (dialogue : Dialogue α β ρ) (state : τ) :
    run answer (map f dialogue) state = Prod.map f id (run answer dialogue state) := by
  induction dialogue generalizing state with
  | done result => rfl
  | ask question next ih => exact ih _ _

end Dialogue

end TtdGdbserver.Transition
