import TtdGdbserver.Gdb.Runner.Channel
import TtdGdbserver.Gdb.Session.Core

/-!
# The exit stop and the exit reply on their way

A worker carries the exit stop from the moment it has set the end state until
its outcome is delivered, unless an interrupt request replaces the stop.  The
exit reply never comes from another job than the one started for it.
-/

namespace TtdGdbserver.Gdb

open TtdGdbserver.Transition
open TtdGdbserver.Target

variable {β ε : Type} {target : DebugTarget β ε}

/-! ## Stages of a worker -/

/-- The rewindable stop of the process exit, or of the end of the trace. -/
def MultiThreadStopReason.isKill : MultiThreadStopReason → Bool
  | .signalWithThread _ .sigKill => true
  | _ => false

/-- The stop is that of the real exit. -/
def MultiThreadStopReason.isExited : MultiThreadStopReason → Bool
  | .exited _ => true
  | _ => false

namespace WorkerStage

/-- The result that a worker is about to hand on. -/
def carries {J R : Type} : WorkerStage J R → Option R
  | .swapping result | .unlocking (.ok result) | .dropping (.ok result)
  | .clearing (.ok result) | .sending (.ok result) => some result
  | _ => none

/-- The worker is about to deliver the stop of the exit. -/
def exitStop : WorkerStage Job MultiThreadStopReason → Bool
  | .job (.mapping (.ok .processExit)) => true
  | stage => stage.carries.any MultiThreadStopReason.isKill

/-- The worker is about to deliver the real exit. -/
def exitReply : WorkerStage Job MultiThreadStopReason → Bool
  | .locking .exiting | .job .exiting | .onInterrupt .exiting => true
  | stage => stage.carries.any MultiThreadStopReason.isExited

end WorkerStage

namespace Job

/-- A job that `spawn_replay` starts. -/
def isStart : Job → Bool
  | .replay _ | .stopping _ | .exiting => true
  | _ => false

/-- What an interrupted job runs instead. -/
def isHandler : Job → Bool
  | .stopping _ | .exiting => true
  | _ => false

end Job

/-- What a worker's stage says about its job. -/
structure WorkerLaw (number : Nat) (history : List SessionEvent)
    (worker : Worker Job MultiThreadStopReason) : Prop where
  start : ∀ job, worker.stage = .locking job → job.isStart = true
  reporting : ∀ op reason, worker.stage = .job (.reporting op reason) →
    .jobNote number (.executed op (.returned reason)) ∈ history
  handler : worker.onInterrupt.isHandler = true
  interrupting : ∀ closure, worker.stage = .onInterrupt closure → closure = worker.onInterrupt
  /-- Only an exit reply is answered with an exit reply. -/
  replying : worker.onInterrupt = .exiting →
    worker.stage.exitReply = true ∨ worker.stage = .done

/-- What a worker's step means for the exit. -/
structure Worked (runner next : TargetRunner β) (number : Nat)
    (worker : Worker Job MultiThreadStopReason)
    (stage : WorkerStage Job MultiThreadStopReason) : Prop where
  law : WorkerLaw number next.history { worker with stage := stage }
  /-- A reply of the exit does not come from nowhere. -/
  reply : stage.exitReply = true → worker.stage.exitReply = true
  /-- An exit stop goes on to the client, unless a request replaces it. -/
  stop : worker.stage.exitStop = true →
    (∃ result : MultiThreadStopReason, worker.stage = .swapping result ∧
      runner.interrupted = true) ∨ stage.exitStop = true ∨ stage = .done
  kept : runner.shared.endState = true → next.shared.endState = true
  /-- Only a replay that reached the exit sets the end state. -/
  raised : next.shared.endState = true → runner.shared.endState = true ∨
    worker.stage.inFlight = true ∧ stage.exitStop = true ∧ ReportedExit number next.history

theorem WorkerLaw.mono {number : Nat} {history more : List SessionEvent}
    {worker : Worker Job MultiThreadStopReason} (law : WorkerLaw number history worker) :
    WorkerLaw number (history ++ more) worker := by
  refine ⟨law.start, ?_, law.handler, law.interrupting, law.replying⟩
  intro op reason at_
  exact List.mem_append_left more (law.reporting op reason at_)

theorem ReportedExit.mono {number : Nat} {history more : List SessionEvent}
    (reported : ReportedExit number history) : ReportedExit number (history ++ more) := by
  obtain ⟨op, forward, present⟩ := reported
  exact ⟨op, forward, List.mem_append_left more present⟩

/-- The stage that a step of a worker leads to is the one it writes. -/
theorem stage_eq_of_acted {runner next : TargetRunner β} {number : Nat}
    {worker : Worker Job MultiThreadStopReason}
    {stage other : WorkerStage Job MultiThreadStopReason} {events : List SessionEvent}
    (inside : number < runner.workers.length)
    (acted : Runner.Acted runner next number worker stage events)
    (written : next.workers = runner.workers.set number { worker with stage := other }) :
    stage = other := by
  have lookup := congrArg (fun workers => workers[number]?) (acted.workers.symm.trans written)
  simp only [List.getElem?_set_self inside, Option.some.injEq, Worker.mk.injEq, true_and] at lookup
  exact lookup

variable {runner next : TargetRunner β} {number : Nat} {env : ε}
variable {worker : Worker Job MultiThreadStopReason}

section Stages

attribute [local simp] WorkerStage.exitStop WorkerStage.exitReply WorkerStage.carries
  WorkerStage.inFlight WorkerStage.holdsBackend WorkerStage.holdsGuard
  MultiThreadStopReason.isKill MultiThreadStopReason.isExited Job.isStart Job.isHandler

/-- A stage that is no reply belongs to a worker that has none to give. -/
theorem WorkerLaw.not_exiting {history : List SessionEvent} (law : WorkerLaw number history worker)
    (other : worker.stage.exitReply = false) (moving : worker.stage ≠ .done) :
    worker.onInterrupt ≠ .exiting := by
  intro exiting
  rcases law.replying exiting with reply | done
  · rw [other] at reply
    contradiction
  · exact moving done

theorem isExited_stopReply (tid : Tid) (reason : Except DebugError StopReason) :
    (stopReply tid reason).isExited = false := by
  cases reply : stopReply tid reason with
  | exited code => exact absurd reply (stopReply_ne_exited tid reason code)
  | _ => rfl

/-- A step that has nothing to do with the exit. -/
theorem worked_of_plain {stage : WorkerStage Job MultiThreadStopReason}
    (law : WorkerLaw number runner.history worker) (moving : worker.stage ≠ .done)
    (noReply : worker.stage.exitReply = false) (noStop : worker.stage.exitStop = false)
    (reply : stage.exitReply = false) (outside : ∀ job, stage ≠ .locking job)
    (interrupting : ∀ closure, stage = .onInterrupt closure → closure = worker.onInterrupt)
    (reporting : ∀ op reason, stage = .job (.reporting op reason) →
      .jobNote number (.executed op (.returned reason)) ∈ next.history)
    (same : next.shared.endState = runner.shared.endState) :
    Worked runner next number worker stage := by
  constructor
  · refine ⟨?_, reporting, law.handler, interrupting, ?_⟩
    · intro job at_
      exact absurd at_ (outside job)
    · intro exiting
      exact absurd exiting (law.not_exiting noReply moving)
  · simp only [reply, Bool.false_eq_true, false_implies]
  · simp only [noStop, Bool.false_eq_true, false_implies]
  · exact fun up => same.trans up
  · exact fun up => Or.inl (same.symm.trans up)

/-- A closure that stops where the target stands. -/
theorem worked_stopping (which : Closure) {signal : Signal}
    (law : WorkerLaw number runner.history worker)
    (at_ : worker.stage = Runner.insideClosure which (.stopping signal))
    (stepEq : runner.closureStep (workload target) number worker which (.stopping signal)
      (.environment env) = some next) :
    ∃ stage, next.workers = runner.workers.set number { worker with stage := stage } ∧
      Worked runner next number worker stage := by
  simp only [Runner.closureStep, workload, Job.run, Option.some.injEq] at stepEq
  subst stepEq
  refine ⟨_, rfl, ?_⟩
  cases which with
  | job | onInterrupt =>
      all_goals
        apply worked_of_plain law <;>
          simp [at_, Runner.insideClosure, Runner.afterClosure, stopHere]

/-- A closure that answers with the exit. -/
theorem worked_exiting (which : Closure) (law : WorkerLaw number runner.history worker)
    (at_ : worker.stage = Runner.insideClosure which .exiting)
    (stepEq : runner.closureStep (workload target) number worker which .exiting
      (.environment env) = some next) :
    ∃ stage, next.workers = runner.workers.set number { worker with stage := stage } ∧
      Worked runner next number worker stage := by
  simp only [Runner.closureStep, workload, Job.run, Option.some.injEq] at stepEq
  subst stepEq
  refine ⟨_, rfl, ?_⟩
  cases which with
  | job | onInterrupt =>
      all_goals
        refine ⟨⟨by simp [Runner.afterClosure], by simp [Runner.afterClosure], law.handler,
          by simp [Runner.afterClosure], fun _ => Or.inl (by simp [Runner.afterClosure])⟩,
          ?_, ?_, ?_, ?_⟩
        · simp [at_, Runner.insideClosure]
        · simp [at_, Runner.insideClosure]
        · exact fun up => up
        · exact fun up => Or.inl up

/-- The replay returns, or panics. -/
theorem worked_replay {op : ReplayOp} (law : WorkerLaw number runner.history worker)
    (at_ : worker.stage = .job (.replay op))
    (stepEq : runner.closureStep (workload target) number worker .job (.replay op)
      (.environment env) = some next) :
    ∃ stage, next.workers = runner.workers.set number { worker with stage := stage } ∧
      Worked runner next number worker stage := by
  cases executed : executeOp target env op runner.shared.backend with
  | none => simp [Runner.closureStep, workload, Job.run, executed] at stepEq
  | some result =>
      rcases result with ⟨outcome, backend⟩
      simp only [Runner.closureStep, workload, Job.run, executed] at stepEq
      cases outcome with
      | returned reason =>
          cases stepEq
          refine ⟨_, rfl, worked_of_plain law (by simp [at_]) (by simp [at_]) (by simp [at_])
            (by simp [Runner.insideClosure]) (by simp [Runner.insideClosure])
            (by simp [Runner.insideClosure]) ?_ rfl⟩
          rintro op' reason' same
          cases same
          simp
      | panicked payload =>
          cases stepEq
          exact ⟨_, rfl, worked_of_plain law (by simp [at_]) (by simp [at_]) (by simp [at_])
            (by simp [Runner.afterClosure]) (by simp [Runner.afterClosure])
            (by simp [Runner.afterClosure]) (by simp [Runner.afterClosure]) rfl⟩

/-- The job leaves the end state up when its replay reached the exit. -/
theorem worked_reporting {op : ReplayOp} {reason : Except DebugError StopReason}
    (law : WorkerLaw number runner.history worker)
    (at_ : worker.stage = .job (.reporting op reason))
    (stepEq : runner.closureStep (workload target) number worker .job (.reporting op reason)
      (.environment env) = some next) :
    ∃ stage, next.workers = runner.workers.set number { worker with stage := stage } ∧
      Worked runner next number worker stage := by
  have quiet := law.not_exiting (by simp [at_]) (by simp [at_])
  have ran := law.reporting op reason at_
  simp only [Runner.closureStep, workload, Job.run, Option.some.injEq] at stepEq
  subst stepEq
  refine ⟨_, rfl, ⟨by simp [Runner.insideClosure], by simp [Runner.insideClosure], law.handler,
    by simp [Runner.insideClosure], fun exiting => absurd exiting quiet⟩, ?_, ?_, ?_, ?_⟩
  · simp [Runner.insideClosure]
  · simp [at_]
  · intro up
    simp only [Runner.record_shared, Runner.setStage_shared]
    split
    · rfl
    · exact up
  · intro up
    simp only [Runner.record_shared, Runner.setStage_shared] at up
    split at up
    · rename_i reached
      obtain ⟨forward, rfl⟩ := reachesExit_iff.mp reached
      right
      exact ⟨by simp [at_], by simp [Runner.insideClosure], op, forward, by simp [ran]⟩
    · exact Or.inl up

/-- The stop is mapped to the reply. -/
theorem worked_mapping {reason : Except DebugError StopReason}
    (law : WorkerLaw number runner.history worker) (at_ : worker.stage = .job (.mapping reason))
    (stepEq : runner.closureStep (workload target) number worker .job (.mapping reason)
      (.environment env) = some next) :
    ∃ stage, next.workers = runner.workers.set number { worker with stage := stage } ∧
      Worked runner next number worker stage := by
  have quiet := law.not_exiting (by simp [at_]) (by simp [at_])
  simp only [Runner.closureStep, workload, Job.run, Option.some.injEq] at stepEq
  subst stepEq
  have noReply := isExited_stopReply (stopTid target runner.shared.backend).1 reason
  refine ⟨_, rfl, ⟨by simp [Runner.afterClosure], by simp [Runner.afterClosure], law.handler,
    by simp [Runner.afterClosure], fun exiting => absurd exiting quiet⟩, ?_, ?_, ?_, ?_⟩
  · intro reply
    have exited : (stopReply (stopTid target runner.shared.backend).1 reason).isExited = true :=
      reply
    rw [noReply] at exited
    contradiction
  · intro stop
    right
    left
    rw [at_] at stop
    rcases reason with error | reason
    · simp at stop
    · cases reason <;> simp_all [Runner.afterClosure, mapStopReason, stopReply]
  · exact fun up => up
  · exact fun up => Or.inl up

/-- A step of a job. -/
theorem worked_job {job : Job} (law : WorkerLaw number runner.history worker)
    (at_ : worker.stage = .job job)
    (stepEq : runner.closureStep (workload target) number worker .job job (.environment env) =
      some next) :
    ∃ stage, next.workers = runner.workers.set number { worker with stage := stage } ∧
      Worked runner next number worker stage := by
  cases job with
  | replay op => exact worked_replay law at_ stepEq
  | reporting op reason => exact worked_reporting law at_ stepEq
  | mapping reason => exact worked_mapping law at_ stepEq
  | stopping signal => exact worked_stopping .job law at_ stepEq
  | exiting => exact worked_exiting .job law at_ stepEq

/-- A step of the handler of an interrupted job. -/
theorem worked_onInterrupt {closure : Job} (law : WorkerLaw number runner.history worker)
    (at_ : worker.stage = .onInterrupt closure)
    (stepEq : runner.closureStep (workload target) number worker .onInterrupt closure
      (.environment env) = some next) :
    ∃ stage, next.workers = runner.workers.set number { worker with stage := stage } ∧
      Worked runner next number worker stage := by
  have own := law.interrupting closure at_
  have handler := law.handler
  rw [← own] at handler
  cases closure with
  | stopping signal => exact worked_stopping .onInterrupt law at_ stepEq
  | exiting => exact worked_exiting .onInterrupt law at_ stepEq
  | _ => simp at handler

/-- A step that hands the result on, or drops it at the end. -/
theorem worked_of_carried {stage : WorkerStage Job MultiThreadStopReason}
    (law : WorkerLaw number runner.history worker)
    (before : worker.stage.exitReply = worker.stage.carries.any MultiThreadStopReason.isExited)
    (stopBefore : worker.stage.exitStop = worker.stage.carries.any MultiThreadStopReason.isKill)
    (after : stage.exitReply = stage.carries.any MultiThreadStopReason.isExited)
    (stopAfter : stage.exitStop = stage.carries.any MultiThreadStopReason.isKill)
    (moving : worker.stage ≠ .done)
    (handed : stage.carries = worker.stage.carries ∨ stage = .done)
    (outside : ∀ job, stage ≠ .locking job) (inside : ∀ job, stage ≠ .job job)
    (interrupting : ∀ closure, stage ≠ .onInterrupt closure)
    (same : next.shared.endState = runner.shared.endState) :
    Worked runner next number worker stage := by
  constructor
  · refine ⟨fun job at_ => absurd at_ (outside job), fun op reason at_ => absurd at_ (inside _),
      law.handler, fun closure at_ => absurd at_ (interrupting closure), ?_⟩
    intro exiting
    rcases handed with same | done
    · rcases law.replying exiting with reply | done
      · left
        rw [after, same, ← before]
        exact reply
      · exact absurd done moving
    · exact Or.inr done
  · intro reply
    rcases handed with same | rfl
    · rw [before, ← same, ← after]
      exact reply
    · simp at reply
  · intro stop
    rcases handed with same | done
    · right
      left
      rw [stopAfter, same, ← stopBefore]
      exact stop
    · exact Or.inr (Or.inr done)
  · exact fun up => same.trans up
  · exact fun up => Or.inl (same.symm.trans up)

/-- An interrupted worker goes on to its handler. -/
theorem worked_interrupted {result : MultiThreadStopReason}
    (law : WorkerLaw number runner.history worker) (at_ : worker.stage = .swapping result)
    (flag : runner.interrupted = true) :
    Worked runner (({ runner with interrupted := false }.setStage number worker
      (.onInterrupt worker.onInterrupt)).record [.swapped number]) number worker
      (.onInterrupt worker.onInterrupt) := by
  refine ⟨⟨by simp, by simp, law.handler, by simp, ?_⟩, ?_, ?_, ?_, ?_⟩
  · intro exiting
    left
    change worker.onInterrupt = .exiting at exiting
    change (WorkerStage.onInterrupt worker.onInterrupt).exitReply = true
    rw [exiting]
    rfl
  · intro reply
    have exiting : worker.onInterrupt = .exiting := by
      cases closure : worker.onInterrupt <;> simp_all
    rcases law.replying exiting with before | done
    · exact before
    · rw [at_] at done
      contradiction
  · intro stop
    exact Or.inl ⟨result, at_, flag⟩
  · exact fun up => up
  · exact fun up => Or.inl up

/-- Every step of a worker. -/
theorem worked_workerStep (law : WorkerLaw number runner.history worker)
    (stepEq : runner.workerStep (workload target) number worker (.environment env) =
      some next) :
    ∃ stage, next.workers = runner.workers.set number { worker with stage := stage } ∧
      Worked runner next number worker stage := by
  cases at_ : worker.stage with
  | locking job =>
      simp only [Runner.workerStep, at_] at stepEq
      split at stepEq
      · cases stepEq
        have start := law.start job at_
        refine ⟨_, rfl, ⟨by simp, ?_, law.handler, by simp, ?_⟩, ?_, ?_, ?_, ?_⟩
        · rintro op reason same
          cases same
          simp at start
        · intro exiting
          have before := law.replying exiting
          rw [at_] at before
          cases job <;> simp_all
        · rw [at_]
          cases job <;> simp_all
        · simp [at_]
        · exact fun up => up
        · exact fun up => Or.inl up
      · contradiction
  | job job =>
      simp only [Runner.workerStep, at_] at stepEq
      exact worked_job law at_ stepEq
  | onInterrupt closure =>
      simp only [Runner.workerStep, at_] at stepEq
      exact worked_onInterrupt law at_ stepEq
  | swapping result =>
      simp only [Runner.workerStep, at_, Option.some.injEq] at stepEq
      subst stepEq
      refine ⟨_, rfl, ?_⟩
      cases flag : runner.interrupted with
      | false =>
          simp only [Bool.false_eq_true, if_false]
          apply worked_of_carried law <;> simp [at_]
      | true => exact worked_interrupted law at_ flag
  | unlocking outcome =>
      simp only [Runner.workerStep, at_, Option.some.injEq] at stepEq
      subst stepEq
      refine ⟨_, rfl, ?_⟩
      cases outcome <;> apply worked_of_carried law <;> simp [at_]
  | dropping outcome =>
      simp only [Runner.workerStep, at_, Option.some.injEq] at stepEq
      subst stepEq
      refine ⟨_, rfl, ?_⟩
      cases outcome <;> apply worked_of_carried law <;> simp [at_]
  | clearing outcome =>
      simp only [Runner.workerStep, at_, Option.some.injEq] at stepEq
      subst stepEq
      refine ⟨_, rfl, ?_⟩
      cases outcome <;> apply worked_of_carried law <;> simp [at_]
  | sending outcome =>
      simp only [Runner.workerStep, at_, Option.some.injEq] at stepEq
      subst stepEq
      refine ⟨_, rfl, ?_⟩
      cases outcome <;> apply worked_of_carried law <;> simp [at_]
  | done => simp [Runner.workerStep, at_] at stepEq

end Stages

end TtdGdbserver.Gdb
