import TtdGdbserver.Gdb.Runner.Progress
import TtdGdbserver.Gdb.Session.Core

/-!
# A session never hangs

A session drives its runner through the calls of the runner alone, so that what
holds of every run of a runner holds in every session.  Its closures take at
most three steps, one of which is the operation itself.
-/

namespace TtdGdbserver.Gdb

open TtdGdbserver.Transition
open TtdGdbserver.Ttd
open TtdGdbserver.Target

variable {β ε : Type} {target : DebugTarget β ε} {session next : Session β}

/-- How many steps of a closure are still to come after its next one. -/
def Job.cost : Job → Nat
  | .replay _ => 2
  | .reporting .. => 1
  | .mapping _ | .stopping _ | .exiting => 0

/-- The closures of the target end as long as the backend's operations return. -/
theorem bounded_workload
    (returns : ∀ op backend, ∃ env, (executeOp target env op backend).isSome) :
    (workload target).Bounded Job.cost (fun _ => 0) where
  runs closure shared := by
    cases closure with
    | replay op =>
        obtain ⟨env, executed⟩ := returns op shared.backend
        obtain ⟨⟨outcome, backend⟩, executed⟩ := Option.isSome_iff_exists.mp executed
        refine ⟨.environment env, ?_⟩
        cases outcome <;> simp [workload, Job.run, executed]
    | reporting | mapping | stopping | exiting =>
        obtain ⟨env, -⟩ := returns .continue shared.backend
        exact ⟨.environment env, rfl⟩
  falls := by
    intro choice closure shared next after notes ran
    cases choice with
    | environment env =>
        simp only [workload] at ran
        cases closure with
        | replay op =>
            simp only [Job.run] at ran
            split at ran
            · contradiction
            · cases ran
              simp [Job.cost]
            · simp at ran
        | reporting =>
            cases ran
            simp [Job.cost]
        | mapping | stopping | exiting => simp [Job.run] at ran
    | query | mapPanic | leaveEndState | clearEndState | note => simp [workload] at ran
  fires _ _ := rfl
  handleFalls := by simp [workload]

namespace Session

/-! ## The session's runner -/

/-- Calls of the runner that do not take the backend from it. -/
def Drives (target : DebugTarget β ε) (before after : TargetRunner β) : Prop :=
  ∃ labels : List (RunnerLabel Job (Choice β ε)),
    Run (Runner.step (workload target)) (fun _ label => label ≠ .loop .intoBackend) before labels
      after

theorem Drives.refl (runner : TargetRunner β) : Drives target runner runner :=
  ⟨[], .nil⟩

theorem drives_of_advance {actions : List (LoopAction Job (Choice β ε))} {stage : SessionStage}
    (stays : ∀ action ∈ actions, action ≠ .intoBackend)
    (stepEq : session.advance target actions stage = some next) :
    Drives target session.runner next.runner := by
  obtain ⟨runner, executed, rfl⟩ := Option.map_eq_some_iff.mp stepEq
  refine ⟨actions.map .loop, ?_⟩
  clear stepEq
  generalize session.runner = start at executed
  induction actions using List.reverseRecOn generalizing runner with
  | nil =>
      cases executed
      exact .nil
  | append_singleton actions action ih =>
      rw [List.map_append, exec_append, Option.bind_eq_some_iff] at executed
      obtain ⟨middle, first, last⟩ := executed
      rw [List.map_singleton, exec_cons, Option.bind_eq_some_iff] at last
      obtain ⟨finish, stepEq, rest⟩ := last
      cases rest
      rw [List.map_append]
      refine .snoc (ih (fun action mem => stays action (List.mem_append_left _ mem)) _ first) ?_
        stepEq
      rintro ⟨⟩
      exact stays _ (List.mem_append_right _ (List.mem_singleton_self _)) rfl

theorem runner_handle (session : Session β) (command : Command) :
    (session.handle command).runner = session.runner := by
  cases command <;> simp only [handle, spawnReplay]
  all_goals split
  all_goals try split
  all_goals rfl

theorem drives_handle (command : Command) :
    Drives target session.runner (session.handle command).runner := by
  rw [runner_handle]
  exact .refl _

theorem drives_proceed (stepEq : session.proceed target = some next) :
    Drives target session.runner next.runner := by
  unfold proceed at stepEq
  split at stepEq
  · split at stepEq
    · split at stepEq <;> exact drives_of_advance (by simp) stepEq
    · exact drives_of_advance (by simp) stepEq
  · exact drives_of_advance (by simp) stepEq
  · rename_i job onInterrupt _
    split at stepEq
    · exact drives_of_advance (by simp) stepEq
    · refine drives_of_advance ?_ stepEq
      cases job with
      | replay op => cases backward : op.isForward <;> simp [Job.startNotes, backward]
      | reporting | mapping | stopping | exiting => simp [Job.startNotes]
  · exact drives_of_advance (by simp) stepEq
  · exact drives_of_advance (by simp) stepEq
  · unfold jump at stepEq
    split at stepEq <;> exact drives_of_advance (by simp) stepEq
  · exact drives_of_advance (by simp) stepEq
  · have driven := drives_of_advance (by simp) stepEq
    exact driven
  all_goals contradiction

/-- A step of a session is a few steps of its runner. -/
theorem drives_step {label : SessionLabel β ε} (stepEq : step target session label = some next) :
    Drives target session.runner next.runner := by
  cases label with
  | worker number env =>
      obtain ⟨runner, stepped, rfl⟩ := Option.map_eq_some_iff.mp stepEq
      exact ⟨_, .snoc .nil (by simp) stepped⟩
  | call action =>
      simp only [step] at stepEq
      split at stepEq
      · simp only [Option.ite_none_right_eq_some] at stepEq
        obtain ⟨between, stepEq⟩ := stepEq
        refine drives_of_advance ?_ stepEq
        intro other mem
        rw [List.mem_singleton.mp mem]
        rintro rfl
        cases between
      · contradiction
  | command command =>
      simp only [step] at stepEq
      split at stepEq
      · cases stepEq
        exact drives_handle command
      · contradiction
  | proceed => exact drives_proceed stepEq

/-- Whatever a runner keeps until its backend is recovered, a session keeps. -/
theorem drives_of_run {backend : β} {labels : List (SessionLabel β ε)}
    (run : Run (step target) AnyStep (.new backend) labels session) :
    Drives target (.new ⟨backend, false⟩) session.runner := by
  induction run with
  | nil => exact Drives.refl _
  | snoc _ _ stepEq ih =>
      obtain ⟨before, driven⟩ := ih
      obtain ⟨after, goesOn⟩ := drives_step stepEq
      exact ⟨before ++ after, driven.trans goesOn⟩

/-- In every session, at every moment, the call in progress returns and a job in
flight publishes its outcome, whatever the threads' schedule is from then on. -/
theorem neverHangs_of_run {backend : β} {labels : List (SessionLabel β ε)}
    (returns : ∀ op backend, ∃ env, (executeOp target env op backend).isSome)
    (run : Run (step target) AnyStep (.new backend) labels session) :
    Runner.NeverHangs (workload target) session.runner := by
  obtain ⟨driven, driving⟩ := drives_of_run run
  exact (Runner.serving_of_run driving).neverHangs (bounded_workload returns)

/-- A backend that completes every operation where it stands. -/
def standing : DebugTarget TtdPosition Unit where
  step _ position := some (.returned (.ok .stepComplete), position)
  stepBack _ position := some (.returned (.ok .stepComplete), position)
  stepRange _ position _ _ _ := some (.returned (.ok .stepComplete), position)
  continueForward _ position := some (.returned (.ok .traceEnd), position)
  continueBackward _ position := some (.returned (.ok .traceStart), position)
  goto position _ := (.ok .positionReached, position)
  activeThreadIds position := ([100], position)
  currentThreadId _ := some 100
  setCurrentThread position _ := position
  position := id
  lifetime position := (position, position)
  beginResume := id
  position_activeThreadIds _ := rfl
  position_beginResume _ := rfl
  position_of_goto_error _ _ _ failed := by contradiction

/-- A resume is launched, and the client's interrupt waits for its stop. -/
def interruptedResume : List (SessionLabel TtdPosition Unit) :=
  [.command .resume, .proceed, .proceed] ++ List.replicate 7 (.call .proceed) ++
    [.call .onInterrupt, .call .proceed, .call .proceed, .call .proceed, .call .proceed]

theorem interruptedResume_neverHangs :
    ∃ session, exec (step standing) (.new ⟨1, 0⟩) interruptedResume = some session ∧
      session.runner.inFlight = true ∧ session.runner.loop = .waiting ∧
      Runner.NeverHangs (workload standing) session.runner := by
  have ends : (exec (step standing) (.new ⟨1, 0⟩) interruptedResume).map
      (fun session => (session.runner.inFlight, session.runner.loop)) =
      some (true, .waiting) := rfl
  obtain ⟨session, executed, final⟩ := Option.map_eq_some_iff.mp ends
  rw [Prod.mk.injEq] at final
  refine ⟨session, executed, final.1, final.2, neverHangs_of_run ?_ (run_of_exec executed)⟩
  intro op backend
  exact ⟨(), by cases op <;> rfl⟩

end Session

end TtdGdbserver.Gdb
