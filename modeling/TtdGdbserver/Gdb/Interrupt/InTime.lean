import TtdGdbserver.Gdb.Interrupt.Core

/-!
# An interrupt cancels a continue if it comes in time

Neither the flag of the runner nor the epoch is read by the loop of a continue.
All that reaches it is the interrupt of the cursor, and that is lost unless it
meets a replay call.  The runner with its worker and its handle is a loop of
calls with one request, so that the request cancels the continue exactly if it
looks in time.
-/

namespace TtdGdbserver.Gdb

open TtdGdbserver.Target TtdGdbserver.Transition TtdGdbserver.Ttd

/-! ## The phases of a run -/

/-- The worker issues no replay call any more. -/
def isPastLoop : WorkerStage ContinueJob ContinueReport → Bool
  | .locking _ => false
  | .job closure => closure.isPastLoop
  | .onInterrupt closure => closure == .interrupted
  | _ => true

/-- The phase of the loop, by the stage of its worker. -/
inductive InPhase (channel : ReplayChannel) :
    WorkerStage ContinueJob ContinueReport → CallPhase → Prop where
  | locking (quiet : channel.inFlight = none) : InPhase channel (.locking .beginning) .between
  | beginning (quiet : channel.inFlight = none) : InPhase channel (.job .beginning) .between
  | turning {previous : Option TtdPosition} (quiet : channel.inFlight = none)
      (published : channel.published = true) : InPhase channel (.job (.turning previous)) .between
  | calling {previous : Option TtdPosition} {call : EngineCall}
      (inFlight : channel.inFlight = some call) (published : channel.published = true) :
      InPhase channel (.job (.calling previous)) (.calling call.number call.told)
  | past {stage : WorkerStage ContinueJob ContinueReport} (quiet : channel.inFlight = none)
      (past : isPastLoop stage = true) : InPhase channel stage .finished

/-- The only worker, if it is there yet, and the phase of its loop. -/
inductive Manned (runner : ContinueRunner) : CallPhase → Prop where
  | unmanned (none_ : runner.workers = []) (quiet : runner.shared.inFlight = none) :
      Manned runner .between
  | manned {phase : CallPhase} (worker : Worker ContinueJob ContinueReport)
      (alone : runner.workers = [worker]) (reports : worker.onInterrupt = .interrupted)
      (inPhase : InPhase runner.shared worker.stage phase) : Manned runner phase

/-- The run of one continue with one request, as a loop of calls. -/
structure Racing (runner : ContinueRunner) (phase : CallPhase) (request : RequestPhase) :
    Prop where
  loop : CallLoop (callEvents runner.history) phase runner.shared.issued request
  firing : (∃ handle requester, runner.loop = .firing handle requester) ↔ request = .pending
  manned : Manned runner phase
  closures : ∀ closures, runner.loop.closures = some closures →
    closures = (.beginning, .interrupted) ∧ runner.workers = []

theorem racing_new : Racing (.new .new) .between .idle where
  loop := .start
  firing := by simp [Runner.new]
  manned := .unmanned rfl rfl
  closures := by simp [Runner.new, LoopStage.closures]

@[simp]
theorem callEvents_append (history more : List (Event ContinueReport CallEvent)) :
    callEvents (history ++ more) = callEvents history ++ callEvents more :=
  List.filterMap_append

@[simp]
theorem callEvents_notes (number : Nat) (notes : List CallEvent) :
    callEvents (notes.map (Event.jobNote number)) = notes := by
  rw [callEvents, List.filterMap_map]
  exact List.filterMap_some

@[simp]
theorem callEvents_loopNotes (notes : List CallEvent) :
    callEvents (notes.map Event.loopNote) = notes := by
  rw [callEvents, List.filterMap_map]
  exact List.filterMap_some

theorem callEvents_append_notes (history : List (Event ContinueReport CallEvent)) (number : Nat)
    (notes : List CallEvent) :
    callEvents (history ++ notes.map (Event.jobNote number)) = callEvents history ++ notes := by
  rw [callEvents_append, callEvents_notes]

/-- With a quiet engine no call is in flight. -/
theorem Manned.not_calling {runner : ContinueRunner} {phase : CallPhase}
    (manned : Manned runner phase) (quiet : runner.shared.inFlight = none) (call : Nat)
    (told : Bool) : phase ≠ .calling call told := by
  rintro rfl
  cases manned with
  | manned worker alone reports inPhase =>
      generalize worker.stage = stage at inPhase
      cases inPhase with
      | calling inFlight published => simp [quiet] at inFlight

/-- Without a published cursor neither. -/
theorem Manned.not_calling_of_unpublished {runner : ContinueRunner} {phase : CallPhase}
    (manned : Manned runner phase) (unpublished : runner.shared.published = false) (call : Nat)
    (told : Bool) : phase ≠ .calling call told := by
  rintro rfl
  cases manned with
  | manned worker alone reports inPhase =>
      generalize worker.stage = stage at inPhase
      cases inPhase with
      | calling inFlight published => simp [unpublished] at published

/-- The call in flight is the one the loop is in, and telling it says so. -/
theorem Manned.told {runner : ContinueRunner} {phase : CallPhase} (manned : Manned runner phase)
    {call : EngineCall} (inFlight : runner.shared.inFlight = some call) :
    phase = .calling call.number call.told ∧
      Manned { runner with
        shared := { runner.shared with inFlight := some { call with told := true } } }
        (.calling call.number true) := by
  cases manned with
  | unmanned none_ quiet => simp [quiet] at inFlight
  | manned worker alone reports inPhase =>
      generalize at_ : worker.stage = stage at inPhase
      cases inPhase with
      | locking quiet | beginning quiet | past quiet => simp [quiet] at inFlight
      | turning quiet => simp [quiet] at inFlight
      | @calling previous current found published =>
          cases found.symm.trans inFlight
          refine ⟨rfl, .manned worker alone reports ?_⟩
          rw [at_]
          exact .calling (show _ = some (EngineCall.mk call.number true) from rfl) published

/-! ## Steps of the worker -/

section Worker

variable {metadata : TraceMetadata} {runner next : ContinueRunner} {phase : CallPhase}
  {request : RequestPhase} {worker : Worker ContinueJob ContinueReport}

/-- The worker has moved to another stage, and left these events. -/
theorem Racing.moved (racing : Racing runner phase request) (alone : runner.workers = [worker])
    (reports : worker.onInterrupt = .interrupted)
    {stage : WorkerStage ContinueJob ContinueReport} {after : CallPhase} {events : List CallEvent}
    (workers : next.workers = runner.workers.set 0 { worker with stage := stage })
    (sameLoop : next.loop = runner.loop)
    (history : callEvents next.history = callEvents runner.history ++ events)
    (loop : CallLoop (callEvents runner.history ++ events) after next.shared.issued request)
    (inPhase : InPhase next.shared stage after) : Racing next after request := by
  refine ⟨history ▸ loop, sameLoop ▸ racing.firing, ?_, ?_⟩
  · refine .manned { worker with stage := stage } ?_ reports inPhase
    rw [workers, alone]
    rfl
  · rw [sameLoop]
    intro closures held
    have empty := (racing.closures closures held).2
    simp [alone] at empty

/-- A cancelled call is the last one. -/
theorem isPastLoop_afterCall_of_cancelled (metadata : TraceMetadata)
    (previous : Option TtdPosition) {call : EngineReturn} (cancelled : call.isCancelled = true) :
    (ContinueJob.afterCall metadata previous call.outcome call.position).isPastLoop = true := by
  rcases call with ⟨outcome, position⟩
  cases outcome with
  | panicked payload => rfl
  | returned returned =>
      cases returned with
      | error error => rfl
      | ok result =>
          have interrupted : result.stopReason = .interrupted := beq_iff_eq.mp cancelled
          have ends : ¬PassesException metadata previous result position := fun passes =>
            absurd (interrupted.symm.trans passes.1) (by decide)
          rw [ContinueJob.afterCall, if_neg ends]
          rfl

theorem afterCall_cases (metadata : TraceMetadata) (previous : Option TtdPosition)
    (outcome : Unwind (Except TtdError TtdReplayResult)) (position : TtdPosition) :
    (∃ next, ContinueJob.afterCall metadata previous outcome position = .turning next) ∨
      (ContinueJob.afterCall metadata previous outcome position).isPastLoop = true := by
  cases outcome with
  | panicked payload => exact .inr rfl
  | returned returned =>
      cases returned with
      | error error => exact .inr rfl
      | ok result =>
          rw [ContinueJob.afterCall]
          split
          · exact .inl ⟨_, rfl⟩
          · exact .inr rfl

/-- A step outside of the loop leaves no event of it. -/
theorem Racing.passed (racing : Racing runner phase request) (alone : runner.workers = [worker])
    (reports : worker.onInterrupt = .interrupted)
    {stage : WorkerStage ContinueJob ContinueReport}
    (workers : next.workers = runner.workers.set 0 { worker with stage := stage })
    (sameLoop : next.loop = runner.loop)
    (history : callEvents next.history = callEvents runner.history)
    (issued : next.shared.issued = runner.shared.issued)
    (inPhase : InPhase next.shared stage phase) : Racing next phase request := by
  refine racing.moved alone reports workers sameLoop (history.trans (List.append_nil _).symm) ?_
    inPhase
  rw [List.append_nil, issued]
  exact racing.loop

/-- A step of the job. -/
theorem Racing.job (racing : Racing runner phase request) (alone : runner.workers = [worker])
    (reports : worker.onInterrupt = .interrupted) {closure : ContinueJob}
    (inside : worker.stage = .job closure) (inPhase : InPhase runner.shared worker.stage phase)
    {choice : EngineReturn}
    (stepEq : runner.closureStep (continueLoad metadata) 0 worker .job closure choice =
      some next) : ∃ after, Racing next after request := by
  rw [inside] at inPhase
  cases inPhase with
  | beginning quiet =>
      cases stepEq
      exact ⟨.between, racing.passed alone reports rfl rfl (by simp [Runner.record]) rfl
        (.turning quiet rfl)⟩
  | turning quiet published =>
      cases stepEq
      refine ⟨.calling runner.shared.issued false, racing.moved alone reports rfl rfl
        (callEvents_append_notes _ 0 _) racing.loop.issue ?_⟩
      exact .calling (show _ = some (EngineCall.mk runner.shared.issued false) from rfl) published
  | @calling previous call inFlight published =>
      have goesOn := afterCall_cases metadata previous choice.outcome choice.position
      have stops (cancelled : choice.isCancelled = true) :=
        isPastLoop_afterCall_of_cancelled metadata previous cancelled
      have ran : ContinueJob.run metadata choice (.calling previous) runner.shared =
          if call.told ∧ ¬choice.isCancelled then none
          else some (.running (.afterCall metadata previous choice.outcome choice.position),
            { runner.shared with inFlight := none },
            [.returned call.number (ContinueJob.afterCall metadata previous choice.outcome
              choice.position).isPastLoop]) := by
        simp only [ContinueJob.run, inFlight]
      generalize ContinueJob.afterCall metadata previous choice.outcome choice.position = following
        at goesOn stops ran
      by_cases refused : call.told ∧ ¬choice.isCancelled
      · simp [Runner.closureStep, continueLoad, ran, refused] at stepEq
      · simp only [Runner.closureStep, continueLoad, ran, if_neg refused] at stepEq
        cases stepEq
        rcases goesOn with ⟨position, rfl⟩ | finished
        · have untold : call.told = false := by
            rw [← Bool.not_eq_true]
            intro told
            have cancelled := not_not.mp (not_and.mp refused told)
            cases stops cancelled
          have ended := racing.loop
          rw [untold] at ended
          exact ⟨.between, racing.moved alone reports rfl rfl (callEvents_append_notes _ 0 _)
            ended.goOn (.turning rfl published)⟩
        · have ended := racing.loop.finish
          refine ⟨.finished, racing.moved alone reports rfl rfl (callEvents_append_notes _ 0 _) ?_
            (.past rfl finished)⟩
          rw [finished]
          exact ended
  | past quiet past =>
      cases closure with
      | beginning => cases past
      | turning => cases past
      | calling => cases past
      | unpublishing outcome =>
          cases stepEq
          exact ⟨.finished, racing.passed alone reports rfl rfl (by simp [Runner.record]) rfl
            (.past quiet rfl)⟩
      | resolving outcome =>
          have after :
              isPastLoop (Runner.afterClosure .job (ContinueJob.ending outcome)) = true := by
            rcases outcome with (result | error) | payload <;> rfl
          cases stepEq
          exact ⟨.finished, racing.passed alone reports rfl rfl
            (by simp [Runner.record, callEvents, callEvent]) rfl (.past quiet after)⟩
      | interrupted =>
          cases stepEq
          exact ⟨.finished, racing.passed alone reports rfl rfl
            (by simp [Runner.record, callEvents, callEvent]) rfl (.past quiet rfl)⟩

/-- A step of the worker. -/
theorem Racing.workerStep (racing : Racing runner phase request) {number : Nat}
    {choice : EngineReturn}
    (stepEq : Runner.step (continueLoad metadata) runner (.worker number choice) = some next) :
    ∃ after, Racing next after request := by
  cases found : runner.workers[number]? with
  | none => simp [Runner.step, found] at stepEq
  | some worker =>
      simp only [Runner.step, found] at stepEq
      cases racing.manned with
      | unmanned none_ quiet => simp [none_] at found
      | manned only alone reports inPhase =>
          rw [alone, List.getElem?_singleton] at found
          split at found
          case isFalse => cases found
          case isTrue first =>
            subst first
            cases found
            rcases worker with ⟨onInterrupt, stage⟩
            cases stage with
            | locking job =>
                dsimp only at inPhase
                cases inPhase with
                | past quiet past => cases past
                | locking quiet =>
                    unfold Runner.workerStep at stepEq
                    dsimp only at stepEq
                    split at stepEq
                    case isFalse => cases stepEq
                    case isTrue =>
                      cases stepEq
                      exact ⟨.between, racing.passed alone reports rfl rfl rfl rfl
                        (.beginning quiet)⟩
            | job closure => exact racing.job alone reports rfl inPhase stepEq
            | swapping result =>
                dsimp only at inPhase
                cases inPhase with
                | past quiet past =>
                    cases stepEq
                    refine ⟨.finished, racing.passed alone reports rfl rfl
                      (by simp [Runner.record, callEvents, callEvent]) rfl (.past quiet ?_)⟩
                    cases runner.interrupted with
                    | false => rfl
                    | true => simpa [isPastLoop] using reports
            | onInterrupt closure =>
                dsimp only at inPhase
                cases inPhase with
                | past quiet past =>
                    cases beq_iff_eq.mp past
                    cases stepEq
                    exact ⟨.finished, racing.passed alone reports rfl rfl
                      (by simp [Runner.record, callEvents, callEvent]) rfl (.past quiet rfl)⟩
            | unlocking | dropping | clearing | sending =>
                all_goals
                  dsimp only at inPhase
                  cases inPhase with
                  | past quiet past =>
                      cases stepEq
                      exact ⟨.finished, racing.passed alone reports rfl rfl rfl rfl
                        (.past quiet rfl)⟩
            | done => cases stepEq

end Worker

/-! ## Steps of the event loop -/

section Loop

variable {metadata : TraceMetadata} {runner next : ContinueRunner} {phase : CallPhase}
  {request : RequestPhase}

/-- Receiving an outcome leads past the handle. -/
theorem not_firing_receive {handle : InterruptStep} {requester : Requester}
    (received : runner.receive = some next) : next.loop ≠ .firing handle requester := by
  unfold Runner.receive at received
  split at received
  case h_1 => cases received
  case h_2 number outcome rest _ =>
    cases received
    cases outcome <;> simp [Runner.mapWorkerResult]

/-- So does the check of `request_interrupt`. -/
theorem not_firing_requestInterrupt {handle : InterruptStep} {requester asking : Requester} :
    (runner.requestInterrupt asking).loop ≠ .firing handle requester := by
  unfold Runner.requestInterrupt
  cases runner.replayRunning <;> cases asking <;> simp [Requester.resumeAt]

/-- Only a store of the flag leads into the handle. -/
theorem not_firing_loopStep {action : LoopAction ContinueJob EngineReturn}
    (stepEq : runner.loopStep (continueLoad metadata) action = some next)
    (unstored : ∀ requester, runner.loop ≠ .storing requester)
    (outside : ∀ handle requester, runner.loop ≠ .firing handle requester)
    (handle : InterruptStep) (requester : Requester) : next.loop ≠ .firing handle requester := by
  cases Runner.loopTurn_loopStep stepEq with
  | stored requester at_ => exact absurd at_ (unstored requester)
  | fired handle requester _ _ _ at_ => exact absurd at_ (outside handle requester)
  | received _ received => exact not_firing_receive received
  | asked _ next_eq | requested _ _ next_eq =>
      subst next_eq
      exact not_firing_requestInterrupt
  | triedLock _ next_eq | leaving _ next_eq | polled _ next_eq =>
      subst next_eq
      simp only [Runner.goTo_loop]
      split <;> simp
  | nothing at_ _ next_eq | refused _ _ at_ _ next_eq | served _ _ at_ next_eq
  | accessed _ at_ next_eq =>
      subst next_eq
      simp [at_]
  | accepted _ _ _ _ next_eq | reset _ _ _ next_eq | lockedResume _ _ _ _ next_eq
  | resumed _ _ _ next_eq | released _ _ _ next_eq | swapped _ _ _ next_eq
  | cloned _ _ _ next_eq | spawned _ _ _ next_eq | noStop _ next_eq | interrupting _ next_eq
  | waits _ _ next_eq | wantsLock _ next_eq | locked _ _ _ next_eq | unlocked _ _ next_eq
  | gaveUp _ next_eq | closed _ next_eq =>
      subst next_eq
      simp

/-- The part of the channel that a replay call is about. -/
structure SameEngine (before after : ReplayChannel) : Prop where
  published : after.published = before.published
  inFlight : after.inFlight = before.inFlight
  issued : after.issued = before.issued

theorem InPhase.congr {before after : ReplayChannel} (same : SameEngine before after)
    {stage : WorkerStage ContinueJob ContinueReport} (inPhase : InPhase before stage phase) :
    InPhase after stage phase := by
  cases inPhase with
  | locking quiet => exact .locking (same.inFlight.trans quiet)
  | beginning quiet => exact .beginning (same.inFlight.trans quiet)
  | turning quiet published =>
      exact .turning (same.inFlight.trans quiet) (same.published.trans published)
  | calling inFlight published =>
      exact .calling (same.inFlight.trans inFlight) (same.published.trans published)
  | past quiet past => exact .past (same.inFlight.trans quiet) past

theorem Manned.congr (manned : Manned runner phase) (same : SameEngine runner.shared next.shared)
    (workers : next.workers = runner.workers) : Manned next phase := by
  cases manned with
  | unmanned none_ quiet => exact .unmanned (workers.trans none_) (same.inFlight.trans quiet)
  | manned worker alone reports inPhase =>
      exact .manned worker (workers.trans alone) reports (inPhase.congr same)

/-- A step that has nothing to do with the engine and the request. -/
theorem Racing.kept (racing : Racing runner phase request)
    (same : SameEngine runner.shared next.shared) (workers : next.workers = runner.workers)
    (history : callEvents next.history = callEvents runner.history)
    (outside : ∀ handle requester, runner.loop ≠ .firing handle requester)
    (still : ∀ handle requester, next.loop ≠ .firing handle requester)
    (closures : ∀ closures, next.loop.closures = some closures →
      closures = (.beginning, .interrupted) ∧ runner.workers = []) :
    Racing next phase request := by
  refine ⟨?_, ?_, racing.manned.congr same workers, workers ▸ closures⟩
  · rw [history, same.issued]
    exact racing.loop
  · have elsewhere : ¬∃ handle requester, runner.loop = .firing handle requester :=
      fun ⟨handle, requester, at_⟩ => outside handle requester at_
    have neither : ¬∃ handle requester, next.loop = .firing handle requester :=
      fun ⟨handle, requester, at_⟩ => still handle requester at_
    rw [← racing.firing, iff_false_intro elsewhere, iff_false_intro neither]

/-- The store of the flag makes the request. -/
theorem Racing.store (racing : Racing runner phase request) {requester : Requester}
    (at_ : runner.loop = .storing requester) (unmade : .requested ∉ callEvents runner.history)
    (stepEq : runner.loopStep (continueLoad metadata) .proceed = some next) :
    Racing next phase .pending := by
  simp only [Runner.loopStep, at_, continueLoad] at stepEq
  cases stepEq
  have idle : request = .idle := not_not.mp fun made => unmade (racing.loop.requested_mem made)
  have loop := racing.loop
  rw [idle] at loop
  refine ⟨?_, by simp, racing.manned.congr ⟨rfl, rfl, rfl⟩ rfl, by simp [LoopStage.closures]⟩
  rw [Runner.record_history, callEvents_append]
  exact loop.request

/-- The handle has looked for a call in flight and is through. -/
theorem racing_look {requester : Requester} {channel : ReplayChannel} {told : Option Nat}
    {after : CallPhase}
    (loop : CallLoop (callEvents runner.history ++ [CallEvent.looked told]) after
      channel.issued .done)
    (manned : Manned ({ runner with shared := channel } : ContinueRunner) after) :
    Racing (({ runner with shared := channel }.goTo requester.resumeAt).record
      ([CallEvent.looked told].map Event.loopNote)) after .done := by
  have outside (handle : InterruptStep) (requester' : Requester) :
      (requester.resumeAt : LoopStage ContinueJob InterruptStep) ≠ .firing handle requester' := by
    cases requester <;> simp [Requester.resumeAt]
  have closed : (requester.resumeAt : LoopStage ContinueJob InterruptStep).closures = none := by
    cases requester <;> rfl
  refine ⟨?_, ?_, ?_, ?_⟩
  · rw [Runner.record_history, callEvents_append, callEvents_loopNotes]
    exact loop
  · simpa using outside
  · cases manned with
    | unmanned none_ quiet => exact .unmanned none_ quiet
    | manned worker alone reports inPhase => exact .manned worker alone reports inPhase
  · simp [closed]

/-- A step of the handle. -/
theorem Racing.fire (racing : Racing runner phase request) {handle : InterruptStep}
    {requester : Requester} (at_ : runner.loop = .firing handle requester)
    (stepEq : runner.loopStep (continueLoad metadata) .proceed = some next) :
    ∃ phase request, Racing next phase request := by
  cases racing.firing.mp ⟨handle, requester, at_⟩
  have goesOn {rest : InterruptStep} {channel : ReplayChannel}
      (same : SameEngine runner.shared channel) :
      Racing (({ runner with shared := channel }.goTo (.firing rest requester)).record
        (([] : List CallEvent).map Event.loopNote)) phase .pending := by
    refine ⟨?_, by simp, racing.manned.congr same rfl, by simp [LoopStage.closures]⟩
    rw [Runner.record_history, callEvents_append, callEvents_loopNotes, List.append_nil]
    exact same.issued ▸ racing.loop
  simp only [Runner.loopStep, at_, continueLoad] at stepEq
  cases handle with
  | counting =>
      cases stepEq
      exact ⟨phase, .pending, goesOn ⟨rfl, rfl, rfl⟩⟩
  | loading =>
      cases published : runner.shared.published with
      | true =>
          simp only [InterruptStep.fire, published, if_true] at stepEq
          cases stepEq
          exact ⟨phase, .pending, goesOn ⟨rfl, rfl, rfl⟩⟩
      | false =>
          simp only [InterruptStep.fire, published, Bool.false_eq_true, if_false] at stepEq
          cases stepEq
          have quiet := racing.manned.not_calling_of_unpublished published
          exact ⟨phase, .done, racing_look (racing.loop.miss quiet) racing.manned⟩
  | interrupting =>
      cases inFlight : runner.shared.inFlight with
      | none =>
          simp only [InterruptStep.fire, inFlight] at stepEq
          cases stepEq
          have quiet := racing.manned.not_calling inFlight
          exact ⟨phase, .done, racing_look (racing.loop.miss quiet) racing.manned⟩
      | some call =>
          simp only [InterruptStep.fire, inFlight] at stepEq
          cases stepEq
          obtain ⟨rfl, told⟩ := racing.manned.told inFlight
          exact ⟨.calling call.number true, .done, racing_look racing.loop.tell told⟩

/-- The worker of the continue is spawned. -/
theorem Racing.spawned (racing : Racing runner phase request) {job onInterrupt : ContinueJob}
    (at_ : runner.loop = .spawning job onInterrupt) :
    Racing ({ runner with
      workers := runner.workers ++ [Worker.mk onInterrupt (.locking job)] }.goTo .ready)
      phase request := by
  obtain ⟨same, unmanned⟩ := racing.closures (job, onInterrupt) (by rw [at_]; rfl)
  cases same
  have gone : ¬∃ handle requester, runner.loop = .firing handle requester := by
    rintro ⟨handle, requester, firing⟩
    rw [at_] at firing
    contradiction
  refine ⟨racing.loop, ?_, ?_, by simp [LoopStage.closures]⟩
  · rw [← racing.firing, iff_false_intro gone]
    simp
  · cases racing.manned with
    | unmanned none_ quiet =>
        exact .manned ⟨.interrupted, .locking .beginning⟩ (by simp [none_]) rfl (.locking quiet)
    | manned worker alone reports inPhase => simp [alone] at unmanned

/-- The outcome of the continue is received. -/
theorem Racing.received (racing : Racing runner phase request)
    (outside : ∀ handle requester, runner.loop ≠ .firing handle requester)
    (still : ∀ handle requester, next.loop ≠ .firing handle requester)
    (received : runner.receive = some next) : Racing next phase request := by
  unfold Runner.receive at received
  split at received
  case h_1 => cases received
  case h_2 number outcome rest _ =>
    cases received
    refine racing.kept ⟨rfl, rfl, rfl⟩ rfl ?_ outside still ?_
    · simp [callEvents, callEvent]
    · cases outcome <;> simp [Runner.mapWorkerResult, LoopStage.closures]

/-- A step of the event loop in a run of one continue with one request. -/
theorem Racing.loopStep (racing : Racing runner phase request)
    {action : LoopAction ContinueJob EngineReturn} (admitted : OneContinue runner (.loop action))
    (stepEq : runner.loopStep (continueLoad metadata) action = some next) :
    ∃ phase request, Racing next phase request := by
  by_cases stores : ∃ requester, runner.loop = .storing requester
  · obtain ⟨requester, at_⟩ := stores
    cases action <;> simp only [Runner.loopStep, at_, reduceCtorEq] at stepEq
    have unmade : .requested ∉ callEvents runner.history := by
      simpa [OneContinue, admitsContinue, at_] using admitted
    have stored : runner.loopStep (continueLoad metadata) .proceed = some next := by
      simpa only [Runner.loopStep, at_] using stepEq
    exact ⟨phase, .pending, racing.store at_ unmade stored⟩
  by_cases fires : ∃ handle requester, runner.loop = .firing handle requester
  · obtain ⟨handle, requester, at_⟩ := fires
    cases action <;> simp only [Runner.loopStep, at_, reduceCtorEq] at stepEq
    exact racing.fire at_ (by simpa only [Runner.loopStep, at_] using stepEq)
  have outside : ∀ handle requester, runner.loop ≠ .firing handle requester :=
    fun handle requester at_ => fires ⟨handle, requester, at_⟩
  have still := not_firing_loopStep stepEq (fun requester at_ => stores ⟨requester, at_⟩) outside
  refine ⟨phase, request, ?_⟩
  cases Runner.turned_loopStep stepEq with
  | passed events open_ passed touched quiet leaving =>
      refine racing.kept ?_ passed.workers ?_ outside still (passed.closures ▸ racing.closures)
      · cases touched with
        | same kept => rw [kept]; exact ⟨rfl, rfl, rfl⟩
        | resumed began => rw [began]; exact ⟨rfl, rfl, rfl⟩
        | served choice use => rw [use]; exact ⟨rfl, rfl, rfl⟩
      · rw [passed.history, callEvents_append]
        rcases quiet with rfl | rfl | rfl <;> simp [callEvents, callEvent]
  | fired handle requester rest shared notes at_ => exact absurd at_ (outside handle requester)
  | accessed choice at_ next_eq =>
      subst next_eq
      refine racing.kept ⟨rfl, rfl, rfl⟩ rfl ?_ outside still racing.closures
      simp [continueLoad]
  | accepted job onInterrupt at_ idle next_eq =>
      subst next_eq
      simp only [OneContinue, admitsContinue, Bool.and_eq_true, List.isEmpty_iff,
        beq_iff_eq] at admitted
      obtain ⟨⟨unmanned, rfl⟩, rfl⟩ := admitted
      refine racing.kept ⟨rfl, rfl, rfl⟩ rfl ?_ outside still ?_
      · simp [callEvents, callEvent]
      · rintro closures held
        cases held
        exact ⟨rfl, unmanned⟩
  | reset job onInterrupt at_ next_eq =>
      subst next_eq
      refine racing.kept ⟨rfl, rfl, rfl⟩ rfl ?_ outside still ?_
      · simp [callEvents, callEvent]
      · exact fun closures held => racing.closures closures (by rw [at_]; exact held)
  | swapped job onInterrupt at_ next_eq =>
      subst next_eq
      refine racing.kept ⟨rfl, rfl, rfl⟩ rfl rfl outside still ?_
      exact fun closures held => racing.closures closures (by rw [at_]; exact held)
  | spawned job onInterrupt at_ next_eq =>
      subst next_eq
      exact racing.spawned at_
  | stored requester stage at_ => exact absurd ⟨requester, at_⟩ stores
  | received calm single open_ received => exact racing.received outside still received
  | closed at_ next_eq =>
      subst next_eq
      exact racing.kept ⟨rfl, rfl, rfl⟩ rfl rfl outside still (by simp [LoopStage.closures])

end Loop

/-! ## Whole runs -/

theorem racing_of_run {metadata : TraceMetadata}
    {labels : List (RunnerLabel ContinueJob EngineReturn)} {runner : ContinueRunner}
    (run : Run (Runner.step (continueLoad metadata)) OneContinue (.new .new) labels runner) :
    ∃ phase request, Racing runner phase request := by
  induction run with
  | nil => exact ⟨.between, .idle, racing_new⟩
  | @snoc labels middle next label run admitted stepEq ih =>
      obtain ⟨phase, request, racing⟩ := ih
      cases label with
      | worker number choice =>
          obtain ⟨after, racing⟩ := racing.workerStep stepEq
          exact ⟨after, request, racing⟩
      | loop action => exact racing.loopStep admitted stepEq

/-- An interrupt that has run its course cancels the continue if it was in
time, and once the loop of the continue has ended, only then. -/
theorem interrupt_cancels_iff (metadata : TraceMetadata)
    {labels : List (RunnerLabel ContinueJob EngineReturn)} {runner : ContinueRunner}
    (run : Run (Runner.step (continueLoad metadata)) OneContinue (.new .new) labels runner)
    {told : Option Nat} (looked : .looked told ∈ callEvents runner.history) :
    (InTime (callEvents runner.history) → Cancelled (callEvents runner.history)) ∧
      ((∃ call, .returned call true ∈ callEvents runner.history) →
        (Cancelled (callEvents runner.history) ↔ InTime (callEvents runner.history))) := by
  obtain ⟨phase, request, racing⟩ := racing_of_run run
  have loop := racing.loop
  have done : request = .done := not_not.mp fun waiting => loop.unlooked waiting told looked
  subst done
  refine ⟨loop.cancelled_of_inTime, fun ended => ?_⟩
  have finished := loop.finished_iff.mpr ended
  subst finished
  exact ⟨loop.inTime_of_cancelled, loop.cancelled_of_inTime⟩

/-! ## An interrupt in the gap -/

/-- A trace without exceptions. -/
def eventlessTrace : TraceMetadata :=
  .new [] [] ⟨1, 0⟩ ⟨9, 0⟩

/-- A replay call that stops for the given reason. -/
def stoppedBy (reason : EventType) : EngineReturn :=
  ⟨.returned (.ok ⟨reason, 0, 0, 0, 0, .read⟩), ⟨9, 0⟩⟩

/-- The interrupt runs its course before the worker has published its cursor,
and the worker then replays to the end of the trace. -/
def earlyInterrupt : List (RunnerLabel ContinueJob EngineReturn) :=
  .loop (.start .beginning .interrupted) :: List.replicate 7 (.loop .proceed) ++
    .loop .requestInterrupt :: List.replicate 3 (.loop .proceed) ++
    List.replicate 12 (.worker 0 (stoppedBy .position))

theorem earlyInterrupt_lost :
    ∃ runner, Run (Runner.step (continueLoad eventlessTrace)) OneContinue (.new .new)
        earlyInterrupt runner ∧
      List.Sublist [.reset 0, .stored, .swapped 0] runner.history ∧
      .looked none ∈ callEvents runner.history ∧ ¬Cancelled (callEvents runner.history) := by
  have events : (exec (restrict (Runner.step (continueLoad eventlessTrace)) OneContinue)
      (.new .new) earlyInterrupt).map Runner.history =
        some [.accepted 0, .reset 0, .stored, .loopNote (.looked none), .jobNote 0 (.issued 0),
          .jobNote 0 (.returned 0 true),
          .ended 0 .job (.returned (.replayed ⟨.position, 0, 0, 0, 0, .read⟩)), .swapped 0,
          .ended 0 .onInterrupt (.returned .interrupted)] := by
    decide +kernel
  obtain ⟨runner, executed, history⟩ := Option.map_eq_some_iff.mp events
  refine ⟨runner, run_of_exec_restrict executed, ?_⟩
  rw [history]
  refine ⟨by decide, by decide, fun cancelled => ?_⟩
  exact absurd (cancelled 0 (by decide)) (by decide)

/-- The flag is stored before the worker has published its cursor, but the
handle looks only when the replay call is in flight. -/
def lateLook : List (RunnerLabel ContinueJob EngineReturn) :=
  .loop (.start .beginning .interrupted) :: List.replicate 7 (.loop .proceed) ++
    [.loop .requestInterrupt, .loop .proceed] ++
    List.replicate 3 (.worker 0 (stoppedBy .position)) ++ List.replicate 3 (.loop .proceed) ++
    List.replicate 9 (.worker 0 (stoppedBy .interrupted))

theorem lateLook_cancels :
    ∃ runner, exec (restrict (Runner.step (continueLoad eventlessTrace)) OneContinue)
        (.new .new) lateLook = some runner ∧
      callEvents runner.history =
        [.requested, .issued 0, .looked (some 0), .returned 0 true] ∧
      Cancelled (callEvents runner.history) := by
  have events : (exec (restrict (Runner.step (continueLoad eventlessTrace)) OneContinue)
      (.new .new) lateLook).map (fun runner => callEvents runner.history) =
        some [.requested, .issued 0, .looked (some 0), .returned 0 true] := by
    decide +kernel
  obtain ⟨runner, executed, history⟩ := Option.map_eq_some_iff.mp events
  refine ⟨runner, executed, history, ?_⟩
  have looked : CallEvent.looked (some 0) ∈ callEvents runner.history := by
    rw [history]
    decide
  refine (interrupt_cancels_iff eventlessTrace (run_of_exec_restrict executed) looked).1 ⟨?_, ?_⟩
  · exact .inl ⟨0, looked⟩
  · rw [history]
    simp [List.sublist_cons_iff]

end TtdGdbserver.Gdb
