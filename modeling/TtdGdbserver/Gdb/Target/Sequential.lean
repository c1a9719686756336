import TtdGdbserver.Gdb.Runner.Serial
import TtdGdbserver.Gdb.Target.Dispatch

/-!
# The sequential target

What a client is meant to see: commands are answered one after the other, each
by code that nobody else runs beside.  An interrupt is a wish of the client, and
the answer to the command in progress may be that of `on_interrupt`.
-/

namespace TtdGdbserver.Gdb

open TtdGdbserver.Transition
open TtdGdbserver.Ttd
open TtdGdbserver.Target

variable {β ε : Type}

/-- The `on_interrupt` closure that a job is started with. -/
def Job.onInterrupt : Job → Job
  | .replay _ => .stopping .sigInt
  | job => job

namespace GdbTarget

/-- Run a job to its end, and `on_interrupt` after it if the job was interrupted. -/
def settle (target : DebugTarget β ε) (gdb : GdbTarget β) (job onInterrupt : Job)
    (environment : List ε) (interrupted : Option (List ε)) :
    Option (GdbTarget β × Option (Outcome MultiThreadStopReason)) :=
  match (workload target).complete (environment.map .environment) job
      ((workload target).beginResume gdb.shared), interrupted with
  | some (ending, shared, _), none =>
      some ({ gdb with shared := shared }, some (Runner.outcomeOf ending))
  | some (.returned _, shared, _), some more =>
      ((workload target).complete (more.map .environment) onInterrupt shared).map
        fun (ending, shared, _) =>
          ({ gdb with shared := shared }, some (Runner.outcomeOf ending))
  | _, _ => none

/-- The job that a resume starts. -/
def launch (gdb : GdbTarget β) : Command → Option (Job × GdbTarget β)
  | .resume =>
      let (op, resume) := gdb.resume.take
      some ({ gdb with resume := resume }.spawnReplay op)
  | .reverseCont => some (gdb.spawnReplay .backwardContinue)
  | .reverseStep tid => some (gdb.spawnReplay (.backwardStep tid))
  | _ => none

/-- The stop that a client is told, once a panic is mapped. -/
def reply (target : DebugTarget β ε) (gdb : GdbTarget β) :
    Option (Outcome MultiThreadStopReason) → GdbTarget β × Option MultiThreadStopReason
  | none => (gdb, none)
  | some (.ok stop) => (gdb, some stop)
  | some (.panic _) =>
      let (stop, backend) := stopHere target .sigTrap gdb.shared.backend
      ({ gdb with shared := { gdb.shared with backend := backend } }, some stop)

/-- Answer a command: a resume with the outcome of its job, any other with no
stop at all. -/
def answer (target : DebugTarget β ε) (gdb : GdbTarget β) (command : Command)
    (environment : List ε) (interrupted : Option (List ε)) :
    Option (GdbTarget β × Option (Outcome MultiThreadStopReason)) :=
  match gdb.launch command with
  | some (job, gdb) => gdb.settle target job job.onInterrupt environment interrupted
  | none => (gdb.perform target command []).map fun (gdb, _) => (gdb, none)

end GdbTarget

/-- A `GdbTarget` and its client. -/
structure Sequential (β : Type) where
  gdb : GdbTarget β
  /-- The command that has not been answered. -/
  pending : Option Command
  /-- The client asked for an interrupt since that command. -/
  asked : Bool
  /-- The outcomes that the client was told, in order. -/
  told : List (Outcome MultiThreadStopReason)

/-- The steps of the sequential target. -/
inductive SequentialLabel (β ε : Type) where
  | command (command : Command)
  | interrupt
  | query (use : β → β)
  /-- A panic becomes a stop at the current position. -/
  | mapPanic
  | answer (environment : List ε) (interrupted : Option (List ε))

namespace Sequential

/-- The sequential target before the first command. -/
def new (backend : β) : Sequential β :=
  ⟨.new backend, none, false, []⟩

/-- The backend is used between two commands. -/
def useBackend (state : Sequential β) (use : β → β) : Sequential β :=
  { state with gdb := { state.gdb with
      shared := { state.gdb.shared with backend := use state.gdb.shared.backend } } }

/-- Commands are answered before the next one, and only what was asked for is
interrupted. -/
def step (target : DebugTarget β ε) : LStep (Sequential β) (SequentialLabel β ε) :=
  fun state label =>
    match label, state.pending with
    | .command command, none => some { state with pending := some command, asked := false }
    | .interrupt, _ => some { state with asked := true }
    | .query use, none => some (state.useBackend use)
    | .mapPanic, none =>
        some (state.useBackend fun backend => (stopHere target .sigTrap backend).2)
    | .answer environment interrupted, some command =>
        if interrupted.isSome && !state.asked then none
        else (state.gdb.answer target command environment interrupted).map fun (gdb, outcome) =>
          { state with gdb := gdb, pending := none, told := state.told ++ outcome.toList }
    | _, _ => none

end Sequential

/-! ## Answers -/

section Answers

variable {target : DebugTarget β ε} {gdb : GdbTarget β} {job onInterrupt : Job}

/-- The closures of the target take no other choices. -/
theorem environment_of_complete {choices : List (Choice β ε)} {shared final : Shared β}
    {ending : Ending MultiThreadStopReason} {notes : List Note}
    (done : (workload target).complete choices job shared = some (ending, final, notes)) :
    ∃ environment : List ε, choices = environment.map .environment := by
  induction choices generalizing job shared notes with
  | nil => exact ⟨[], rfl⟩
  | cons choice choices ih =>
      cases ran : (workload target).run choice job shared with
      | none => simp [Workload.complete, ran] at done
      | some result =>
          obtain ⟨progress, middle, made⟩ := result
          obtain ⟨env, rfl⟩ : ∃ env, choice = .environment env := by
            cases choice with
            | environment env => exact ⟨env, rfl⟩
            | query | mapPanic | leaveEndState | clearEndState | note => cases ran
          cases progress with
          | ended ended =>
              have last : choices = [] := by
                by_contra more
                simp [Workload.complete, ran, more] at done
              exact ⟨[env], by rw [last]; rfl⟩
          | running next =>
              obtain ⟨more, goesOn, -⟩ := Workload.complete_running ran done
              obtain ⟨environment, rfl⟩ := ih goesOn
              exact ⟨env :: environment, rfl⟩

/-- Whatever a job yields is an answer. -/
theorem settle_of_yields {asked : Prop} {outcome : Outcome MultiThreadStopReason}
    {final : Shared β}
    (yields : (workload target).Yields asked job onInterrupt
      ((workload target).beginResume gdb.shared) outcome final) :
    ∃ environment interrupted, (interrupted.isSome = true → asked) ∧
      gdb.settle target job onInterrupt environment interrupted =
        some ({ gdb with shared := final }, some outcome) := by
  cases yields with
  | uninterrupted done =>
      obtain ⟨environment, rfl⟩ := environment_of_complete done
      refine ⟨environment, none, by simp, ?_⟩
      simp only [GdbTarget.settle, done]
  | interrupted called done interrupted =>
      obtain ⟨environment, rfl⟩ := environment_of_complete done
      obtain ⟨more, rfl⟩ := environment_of_complete interrupted
      refine ⟨environment, some more, fun _ => called, ?_⟩
      simp only [GdbTarget.settle, done, interrupted, Option.map_some]

theorem drain_of_settle {environment : List ε} {after : GdbTarget β}
    {outcome : Option (Outcome MultiThreadStopReason)}
    (settled : gdb.settle target job onInterrupt environment none = some (after, outcome)) :
    ∃ notes stop, gdb.drain target environment job =
        some (notes, stop, (after.reply target outcome).1) ∧
      some stop = (after.reply target outcome).2 := by
  unfold GdbTarget.settle at settled
  cases ran : (workload target).complete (environment.map .environment) job
      ((workload target).beginResume gdb.shared) with
  | none => simp [ran] at settled
  | some ended =>
      obtain ⟨ending, shared, notes⟩ := ended
      rw [ran] at settled
      cases settled
      refine ⟨notes, (GdbTarget.mapWorkerResult target ending shared.backend).1, ?_, ?_⟩
      · simp only [GdbTarget.drain, ran]
        cases ending <;> rfl
      · cases ending <;> rfl

theorem stop_restartAt (command : Command) (destination : TtdPosition) :
    (gdb.restartAt target command destination).2.stop = none := by
  unfold GdbTarget.restartAt
  split <;> rfl

/-- An answer that nobody interrupted is what the target makes of the command. -/
theorem perform_of_answer {command : Command} {environment : List ε} {after : GdbTarget β}
    {outcome : Option (Outcome MultiThreadStopReason)}
    (answered : gdb.answer target command environment none = some (after, outcome)) :
    ∃ exchange, gdb.perform target command environment =
        some ((after.reply target outcome).1, exchange) ∧
      exchange.stop = (after.reply target outcome).2 := by
  cases command with
  | resume | reverseCont | reverseStep =>
      obtain ⟨notes, stop, drained, same⟩ := drain_of_settle answered
      exact ⟨_, Option.map_eq_some_iff.mpr ⟨_, drained, rfl⟩, same⟩
  | clearResumeActions | setResumeActionContinue | setResumeActionStep
  | setResumeActionRangeStep =>
      cases answered
      exact ⟨_, rfl, rfl⟩
  | run destination =>
      cases destination with
      | error =>
          cases answered
          exact ⟨_, rfl, rfl⟩
      | ok destination =>
          cases answered
          exact ⟨_, rfl, stop_restartAt _ _⟩
  | restart =>
      cases answered
      exact ⟨_, rfl, stop_restartAt _ _⟩

end Answers

end TtdGdbserver.Gdb
