import TtdGdbserver.Target.Process.Frame
import TtdGdbserver.Target.Process.Lockstep

/-!
# Stepping and queries do not see breakpoints

Two runs whose steps, jumps and queries are the same and whose breakpoint calls
are any at all observe the same: the breakpoint calls touch the persistent
cursor alone, and what a step or a query sees of that cursor is its position.
-/

namespace TtdGdbserver.Target

open TtdGdbserver.Ttd TtdGdbserver.Transition

/-! ## Observations -/

/-- A continue stops at breakpoints, and is the only operation that does. -/
def Op.isContinue : Op → Bool
  | .exec op _ => !op.isStep
  | _ => false

/-- What the caller of an operation gets. -/
inductive Response where
  | executed (outcome : Unwind (Except DebugError StopReason))
  | moved (outcome : Except DebugError StopReason)
  | selected
  | called (reply : BreakpointState.Reply)
  | answered (answer : Answer)

/-- A response, and the position and the thread after it. -/
structure Observation where
  response : Response
  position : TtdPosition
  currentThreadId : Option UInt64

namespace TtdProcess

variable {σ : Type} [SdkCursor σ]

/-- One operation with its response. -/
def respond (process : TtdProcess σ) : Op → Option (Response × TtdProcess σ)
  | .exec op fuel => (process.execute fuel op).map (Prod.map .executed id)
  | .goto position => some ((process.goto position).map .moved id)
  | .setCurrentThread id => some (.selected, process.setCurrentThread id)
  | .breakpoint call => some ((process.breakpointCall call).map .called id)
  | .query query => some ((process.ask query).map .answered id)

theorem map_snd_respond (process : TtdProcess σ) (op : Op) :
    (process.respond op).map Prod.snd = process.perform op := by
  cases op with
  | exec op fuel =>
      rw [respond, Option.map_map]
      rfl
  | goto position => rfl
  | setCurrentThread id => rfl
  | breakpoint call => rfl
  | query query => rfl

/-- What a run of operations observes apart from its breakpoint calls. -/
def observations (process : TtdProcess σ) :
    List Op → Option (List Observation × TtdProcess σ)
  | [] => some ([], process)
  | op :: ops => do
      let (response, next) ← process.respond op
      let (later, last) ← observations next ops
      some (if op.isBreakpoint then later
        else ⟨response, next.position, next.currentThreadId⟩ :: later, last)

/-- The observation that a response makes. -/
def observation (response : Response) (process : TtdProcess σ) : Observation :=
  ⟨response, process.position, process.currentThreadId⟩

theorem observations_breakpoint (process : TtdProcess σ) (call : BreakpointState.Call)
    (ops : List Op) :
    process.observations (.breakpoint call :: ops) =
      (process.breakpointCall call).2.observations ops := by
  rw [observations]
  simp [respond, Op.isBreakpoint]

theorem observations_other (process : TtdProcess σ) {op : Op} (other : op.isBreakpoint = false)
    (ops : List Op) :
    process.observations (op :: ops) = (process.respond op).bind fun responded =>
      (responded.2.observations ops).map
        (Prod.map (observation responded.1 responded.2 :: ·) id) := by
  rw [observations]
  simp only [other, Bool.false_eq_true, if_false, Option.bind_eq_bind, Option.map_eq_bind]
  rfl

/-! ## Alike processes observe alike -/

theorem stepsAlike_breakpointCall (process : TtdProcess σ) (call : BreakpointState.Call) :
    StepsAlike (process.breakpointCall call).2 process :=
  ⟨rfl, rfl, rfl, rfl, rfl, rfl⟩

theorem stepsAlike_ask (process : TtdProcess σ) (query : Query) :
    StepsAlike (process.ask query).2 process := by
  cases query with
  | readMemory addr buf =>
      exact stepsAlike_withCursor process fun cursor => readInto cursor addr buf
  | readMemoryRanges addr buf maxRanges =>
      exact stepsAlike_withCursor process fun cursor => readRangesInto cursor addr buf maxRanges
  | activeThreadIds => exact stepsAlike_withCursor process activeThreadIdsOf
  | threadState threadId =>
      simp only [ask, threadState]
      cases process.osTid threadId with
      | none => exact StepsAlike.refl process
      | some tid =>
          dsimp only
          split
          · exact stepsAlike_withCursor process fun cursor => some (threadStateOf cursor tid)
          · exact StepsAlike.refl process
  | threadInfo threadId =>
      simp only [ask, threadInfo]
      cases u32TryFrom threadId with
      | none => exact StepsAlike.refl process
      | some osTid => exact stepsAlike_withCursor process fun cursor => threadInfoOf cursor osTid

/-- Which thread a query is about is in the part that alike processes share. -/
theorem StepsAlike.answerOn {first second : TtdProcess σ} (alike : StepsAlike first second)
    (query : Query) (cursor : ReplayCursor σ) :
    query.answerOn first cursor = query.answerOn second cursor := by
  cases query with
  | threadState threadId =>
      have sameTid : first.osTid threadId = second.osTid threadId := by
        simp only [osTid, alike.currentThreadId]
      simp only [Query.answerOn, sameTid, alike.metadata]
  | _ => rfl

/-- Two coherent processes that differ at most in the persistent cursor, the
breakpoints and the counters. -/
structure Independent (first second : TtdProcess σ) : Prop where
  alike : StepsAlike first second
  first : first.Coherent
  second : second.Coherent

theorem Independent.symm {first second : TtdProcess σ} (same : Independent first second) :
    Independent second first :=
  ⟨same.alike.symm, same.second, same.first⟩

theorem Independent.trans {first second third : TtdProcess σ} (left : Independent first second)
    (right : Independent second third) : Independent first third :=
  ⟨left.alike.trans right.alike, left.first, right.second⟩

variable [LawfulSdkCursor σ]

theorem Independent.ask {first second : TtdProcess σ} (same : Independent first second)
    (query : Query) : (first.ask query).1 = (second.ask query).1 := by
  have fresh := first.cursors.step.cursor
  rw [(same.first.ask query fresh).2, (same.second.ask query fresh).2, same.alike.position,
    same.alike.answerOn]

/-- Persistent cursors at one position are adopted alike. -/
theorem StepsAlike.adoptCursorPosition {first second : TtdProcess σ}
    (alike : StepsAlike first second)
    (landed : first.cursors.persistent.cursor.position =
      second.cursors.persistent.cursor.position) :
    StepsAlike first.adoptCursorPosition second.adoptCursorPosition := by
  have sameTid : currentTid first.cursors.persistent.cursor =
      currentTid second.cursors.persistent.cursor := by
    rw [currentTid, currentTid, ReplayCursor.threadInfo, ReplayCursor.threadInfo,
      ReplayCursor.view_congr landed]
  refine ⟨alike.step, landed, alike.lifetime, alike.endsWithProcessExit, ?_, alike.metadata⟩
  simp only [TtdProcess.adoptCursorPosition, sameTid]

/-- A jump lands both at the same position, on the thread that is current
there. -/
theorem Independent.goto {first second : TtdProcess σ} (same : Independent first second)
    (position : TtdPosition) :
    StepsAlike (first.goto position).2 (second.goto position).2 := by
  have target : clampPosition position first.lifetime.1 first.lifetime.2 =
      clampPosition position second.lifetime.1 second.lifetime.2 := by rw [same.alike.lifetime]
  have moved (process : TtdProcess σ) (coherent : process.Coherent) (target : TtdPosition) :
      ({ process with position := target } : TtdProcess σ).Coherent :=
    ⟨coherent.persistent, coherent.step⟩
  have alike (target : TtdPosition) : StepsAlike ({ first with position := target })
      ({ second with position := target }) :=
    ⟨same.alike.step, rfl, same.alike.lifetime, same.alike.endsWithProcessExit,
      same.alike.currentThreadId, same.alike.metadata⟩
  simp only [TtdProcess.goto, target]
  refine StepsAlike.adoptCursorPosition (((stepsAlike_atPosition _ _).trans (alike _)).trans
    (stepsAlike_atPosition _ _).symm) ?_
  rw [((moved first same.first _).atPosition _).2, ((moved second same.second _).atPosition _).2]

omit [LawfulSdkCursor σ] in
theorem goto_reached (process : TtdProcess σ) (position : TtdPosition) :
    (process.goto position).1 = .ok .positionReached :=
  rfl

/-- Operations other than continues and breakpoint calls respond alike. -/
theorem Independent.respond {first second : TtdProcess σ} (same : Independent first second)
    {op : Op} (noContinue : op.isContinue = false) (noBreakpoint : op.isBreakpoint = false) :
    Option.Rel (SameResult Independent) (first.respond op) (second.respond op) := by
  have responds : Option.Rel (SameResult StepsAlike) (first.respond op) (second.respond op) := by
    cases op with
    | exec op fuel =>
        refine SameResult.map_rel Response.executed ?_
        cases op with
        | step => exact .some (same.alike.stepOnStepCursor false)
        | stepBack => exact .some (same.alike.stepOnStepCursor true)
        | stepRange threadId start finish epoch =>
            exact same.alike.stepRange threadId start finish epoch fuel
        | continueForward => cases noContinue
        | continueBackward => cases noContinue
    | goto position =>
        exact .some ⟨congrArg Response.moved
          ((first.goto_reached position).trans (second.goto_reached position).symm),
          same.goto position⟩
    | setCurrentThread id =>
        exact .some ⟨rfl, same.alike.step, same.alike.position, same.alike.lifetime,
          same.alike.endsWithProcessExit, rfl, same.alike.metadata⟩
    | breakpoint call => cases noBreakpoint
    | query query =>
        exact .some ⟨congrArg Response.answered (same.ask query),
          ((stepsAlike_ask first query).trans same.alike).trans (stepsAlike_ask second query).symm⟩
  have coherent {process after : TtdProcess σ} {response : Response}
      (before : process.Coherent) (responded : process.respond op = some (response, after)) :
      after.Coherent := by
    have performed := process.map_snd_respond op
    rw [responded] at performed
    exact before.perform performed.symm
  cases left : first.respond op with
  | none =>
      rw [left] at responds
      cases right : second.respond op with
      | none => exact .none
      | some => simp [right] at responds
  | some result =>
      rw [left] at responds
      cases right : second.respond op with
      | none => simp [right] at responds
      | some result' =>
          rw [right, Option.rel_some_some] at responds
          exact .some ⟨responds.1, responds.2, coherent same.first left,
            coherent same.second right⟩

/-- A breakpoint call is out of the sight of everything that is compared. -/
theorem Coherent.breakpointCall_independent {process : TtdProcess σ}
    (coherent : process.Coherent) (call : BreakpointState.Call) :
    Independent (process.breakpointCall call).2 process :=
  ⟨stepsAlike_breakpointCall process call, coherent.breakpointCall call, coherent⟩

/-- One observed operation, and then the rest. -/
theorem observations_lockstep {first second : TtdProcess σ} (same : Independent first second)
    {op : Op} (noContinue : op.isContinue = false) (noBreakpoint : op.isBreakpoint = false)
    {ops ops' : List Op}
    (rest : ∀ {first second : TtdProcess σ}, Independent first second →
      Option.Rel (SameResult Independent) (first.observations ops) (second.observations ops')) :
    Option.Rel (SameResult Independent) (first.observations (op :: ops))
      (second.observations (op :: ops')) := by
  rw [observations_other first noBreakpoint, observations_other second noBreakpoint]
  refine SameResult.bind_rel (same.respond noContinue noBreakpoint) ?_
  intro result result' responded
  have sameObservation : observation result.1 result.2 = observation result'.1 result'.2 := by
    rw [observation, observation, responded.1, responded.2.alike.position,
      responded.2.alike.currentThreadId]
  rw [sameObservation]
  exact SameResult.map_rel _ (rest responded.2)

/-- A run without continues observes what the run without its breakpoint calls
observes. -/
theorem Independent.observations {first second : TtdProcess σ} (same : Independent first second)
    {ops : List Op} (noContinue : ∀ op ∈ ops, op.isContinue = false) :
    Option.Rel (SameResult Independent) (first.observations ops)
      (second.observations (ops.filter fun op => !op.isBreakpoint)) := by
  induction ops generalizing first second with
  | nil => exact .some ⟨rfl, same⟩
  | cons op ops ih =>
      obtain ⟨here, later⟩ := List.forall_mem_cons.mp noContinue
      cases op with
      | breakpoint call =>
          rw [observations_breakpoint, List.filter_cons_of_neg (by simp [Op.isBreakpoint])]
          exact ih ((same.first.breakpointCall_independent call).trans same) later
      | exec | goto | setCurrentThread | query =>
          all_goals
            rw [List.filter_cons_of_pos (by simp [Op.isBreakpoint])]
            exact observations_lockstep same here rfl fun next => ih next later

end TtdProcess

/-- Two runs of an opened trace whose operations apart from the breakpoint
calls are the same, with no continue among them, observe the same, and answer
every query alike from then on. -/
theorem observations_independent {σ : Type} [SdkCursor σ] [LawfulSdkCursor σ]
    (metadata : TraceMetadata) (persistent step : σ) (probe : Option σ) {first second : List Op}
    (noContinue : ∀ op ∈ first ++ second, op.isContinue = false)
    (same : (first.filter fun op => !op.isBreakpoint) = second.filter fun op => !op.isBreakpoint) :
    let opened := TtdProcess.openTrace metadata persistent step probe
    Option.Rel (fun left right => left.1 = right.1 ∧
        left.2.position = right.2.position ∧
        left.2.currentThreadId = right.2.currentThreadId ∧
        ∀ query, (left.2.ask query).1 = (right.2.ask query).1)
      (opened.observations first) (opened.observations second) := by
  intro opened
  have coherent := TtdProcess.coherent_openTrace metadata persistent step probe
  have start : TtdProcess.Independent opened opened :=
    ⟨TtdProcess.StepsAlike.refl opened, coherent, coherent⟩
  obtain ⟨noContinueFirst, noContinueSecond⟩ := List.forall_mem_append.mp noContinue
  have left := start.observations noContinueFirst
  have right := start.observations noContinueSecond
  rw [← same] at right
  generalize opened.observations first = ended at left ⊢
  generalize opened.observations second = ended' at right ⊢
  generalize opened.observations (first.filter fun op => !op.isBreakpoint) = bare at left right
  cases left with
  | none =>
      cases right with
      | none => exact .none
  | some left =>
      cases right with
      | some right =>
          have both := left.2.trans right.2.symm
          exact .some ⟨left.1.trans right.1.symm, both.alike.position, both.alike.currentThreadId,
            both.ask⟩

/-- A breakpoint on the way and one at the PC, set between steps and removed. -/
def breakpointedOps : List Op :=
  [.breakpoint (.setBreakpoint 0 none), .exec .step 1, .breakpoint (.setBreakpoint 0x1000 none),
    .exec (.stepRange none 0 0x100 fun _ => 0) 4, .breakpoint (.removeBreakpoint 1), .goto ⟨2, 1⟩,
    .query (.readMemory 0x1000 [0])]

theorem steppedTrace_observations_independent :
    Option.Rel (fun left right => left.1 = right.1 ∧
        left.2.position = right.2.position ∧
        left.2.currentThreadId = right.2.currentThreadId ∧
        ∀ query, (left.2.ask query).1 = (right.2.ask query).1)
      (steppedTrace.observations breakpointedOps)
      (steppedTrace.observations
        [.exec .step 1, .exec (.stepRange none 0 0x100 fun _ => 0) 4, .goto ⟨2, 1⟩,
          .query (.readMemory 0x1000 [0])]) :=
  observations_independent _ _ _ _ (by decide) rfl

end TtdGdbserver.Target
