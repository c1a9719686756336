import TtdGdbserver.Target.Process.Operations
import TtdGdbserver.Ttd.Scripted

/-!
# Breakpoint stops and the hits behind them

A continue remembers the last breakpoint its callback matched, across all
callbacks and replay calls, and looks at it before it looks at the event that
ended the replay.  The same continue is watched here with a callback that
answers alike and keeps the whole list of hits.
-/

namespace TtdGdbserver.Target

open TtdGdbserver.Ttd

/-! ## Keeping the hits -/

/-- The arguments of one invocation of the callback. -/
structure HitReport where
  addr : UInt64
  size : UInt64
  access : DataAccessMask
  threadId : UInt64
  deriving DecidableEq, Repr

namespace BreakpointState

/-- The breakpoint a hit belongs to. -/
def matching (breakpoints : BreakpointState) (hit : HitReport) : Option Breakpoint :=
  breakpoints.findByWatchpointHitAndThread hit.addr hit.size hit.access hit.threadId

/-- The breakpoint of the last hit that has one. -/
def lastMatch (breakpoints : BreakpointState) (hits : List HitReport) : Option Breakpoint :=
  (hits.filterMap breakpoints.matching).getLast?

theorem lastMatch_append (breakpoints : BreakpointState) (hits : List HitReport)
    (hit : HitReport) :
    breakpoints.lastMatch (hits ++ [hit]) =
      (breakpoints.matching hit).or (breakpoints.lastMatch hits) := by
  simp only [lastMatch, List.filterMap_append, List.getLast?_append]
  cases found : breakpoints.matching hit <;> simp [found]

/-- The id a continue remembers after a list of hits. -/
def hitBpId (breakpoints : BreakpointState) (hits : List HitReport) : UInt64 :=
  ((breakpoints.lastMatch hits).map Breakpoint.id).getD 0

end BreakpointState

/-- The breakpoint-matching callback with the whole list of hits as its state. -/
def keepHits (breakpoints : BreakpointState) : WatchpointFn (List HitReport) :=
  fun hits addr size access threadId =>
    let hit : HitReport := ⟨addr, size, access, threadId.toUInt64⟩
    ((breakpoints.matching hit).isSome, hits ++ [hit])

/-- Keeping the hits changes no answer, and the remembered id can be read off
the list. -/
theorem keepHits_alike (breakpoints : BreakpointState) :
    ReplayCursor.AnswersAlike breakpoints.hitBpId (keepHits breakpoints)
      (matchHit breakpoints) := by
  intro hits addr size access thread
  simp only [keepHits, matchHit, BreakpointState.hitBpId, BreakpointState.lastMatch_append]
  cases found : breakpoints.matching ⟨addr, size, access, thread.toUInt64⟩ with
  | none =>
      rw [show breakpoints.findByWatchpointHitAndThread addr size access thread.toUInt64 = none
        from found]
      rfl
  | some bp =>
      rw [show breakpoints.findByWatchpointHitAndThread addr size access thread.toUInt64 = some bp
        from found]
      rfl

namespace TtdProcess

variable {σ : Type} [SdkCursor σ]

/-- The trace boundary a continue passes as its limit. -/
def continueLimit (process : TtdProcess σ) (forward : Bool) : TtdPosition :=
  if forward then process.lifetime.2 else process.lifetime.1

/-- A continue in the given direction. -/
def continueIn (process : TtdProcess σ) (forward : Bool) (fuel : Nat) :
    Option (Unwind (Except DebugError StopReason) × TtdProcess σ) :=
  if forward then process.continueForward fuel else process.continueBackward fuel

theorem continueIn_eq (process : TtdProcess σ) (forward : Bool) (fuel : Nat) :
    process.continueIn forward fuel =
      process.watchpointReplay (process.continueLimit forward) forward fuel := by
  cases forward <;> rfl

/-- The continue watched: its result with the whole list of hits. -/
def watchedReplay (process : TtdProcess σ) (forward : Bool) (fuel : Nat) :
    Option (Unwind (Except DebugError (TtdReplayResult × List HitReport)) × TtdProcess σ) :=
  process.replayWatchpointFilteredWith (keepHits process.breakpoints) []
    (process.continueLimit forward) forward fuel

end TtdProcess

/-- What the engine told a continue: the hits it reported, the result of the
last replay call and the thread it stopped on. -/
structure EngineReport where
  hits : List HitReport
  final : TtdReplayResult
  stoppingThread : UInt64

/-- The access of the final result, as a hit on the stopping thread. -/
def EngineReport.finalHit (report : EngineReport) : HitReport :=
  ⟨report.final.wpAddress, report.final.wpSize, report.final.wpAccessType.mask,
    report.stoppingThread⟩

namespace TtdProcess

variable {σ : Type} [SdkCursor σ]

/-- What the engine told a continue that returned a result. -/
def engineReport (process : TtdProcess σ) (forward : Bool) (fuel : Nat) :
    Option EngineReport :=
  match process.watchedReplay forward fuel with
  | some (.returned (.ok (final, hits)), after) =>
      some ⟨hits, final, (currentTid after.cursors.persistent.cursor).toUInt64⟩
  | _ => none

/-- The continue as its watched form tells it. -/
theorem replayWatchpointFiltered_eq_watched (process : TtdProcess σ) (forward : Bool)
    (fuel : Nat) :
    process.replayWatchpointFiltered (process.continueLimit forward) forward fuel =
      (process.watchedReplay forward fuel).map fun (outcome, after) =>
        (match outcome with
          | .returned (.ok (final, hits)) =>
              .returned (.ok (final, process.breakpoints.hitBpId hits))
          | .returned (.error error) => .returned (.error error)
          | .panicked payload => .panicked payload, after) := by
  simp only [replayWatchpointFiltered, watchedReplay, replayWatchpointFilteredWith]
  have initial : (0 : UInt64) = process.breakpoints.hitBpId [] := rfl
  rw [initial, replayPastTransparentExceptions_project (keepHits_alike process.breakpoints)]
  simp only [Option.map_map]
  congr 1
  funext ⟨outcome, cursor, hits⟩
  cases outcome with
  | panicked payload => rfl
  | returned returned => cases returned <;> rfl

end TtdProcess

/-! ## Real hits -/

/-- The breakpoint a stop reason names. -/
def StopReason.namedBreakpoint : StopReason → Option UInt64
  | .breakpoint bpId _ => some bpId
  | .watchpoint bpId _ _ => if bpId ≠ 0 then some bpId else none
  | _ => none

/-- The stop is a real hit: a reason that names a breakpoint comes from a memory
watchpoint event whose own access selects that breakpoint. -/
def RealHit (breakpoints : BreakpointState) (report : EngineReport) (reason : StopReason) :
    Prop :=
  ∀ id, reason.namedBreakpoint = some id →
    report.final.stopReason = .memoryWatchpoint ∧
      (breakpoints.matching report.finalHit).map Breakpoint.id = some id

/-- The last hit that matched a breakpoint, if any, is borne out by the final
event: a memory watchpoint whose access selects the same breakpoint. -/
def LastMatchConfirmed (breakpoints : BreakpointState) (report : EngineReport) : Prop :=
  ∀ bp, breakpoints.lastMatch report.hits = some bp → bp.id ≠ 0 →
    report.final.stopReason = .memoryWatchpoint ∧
      (breakpoints.matching report.finalHit).map Breakpoint.id = some bp.id

/-! ## What a stop reason names -/

theorem namedBreakpoint_classify {result : TtdReplayResult} {hitBpId : UInt64}
    {bp : Option Breakpoint} {forward : Bool} {position : TtdPosition}
    {lifetime : TtdPosition × TtdPosition} {endsWithProcessExit : Bool} {reason : StopReason}
    (classified : classifyContinueStop result hitBpId bp forward position lifetime
      endsWithProcessExit = some reason) :
    reason.namedBreakpoint = if hitBpId ≠ 0 then some hitBpId else none := by
  unfold classifyContinueStop at classified
  by_cases hit : hitBpId ≠ 0
  · rw [if_pos hit] at classified
    rw [if_pos hit]
    cases bp with
    | none =>
        cases classified
        simp [StopReason.namedBreakpoint, hit]
    | some bp =>
        simp only [Option.some.injEq] at classified
        split at classified <;> cases classified <;> simp [StopReason.namedBreakpoint, hit]
  · rw [if_neg hit] at classified
    rw [if_neg hit]
    repeat' split at classified
    all_goals cases classified
    all_goals rfl

theorem namedBreakpoint_tryFrom {result : TtdReplayResult} {reason : StopReason}
    (translated : StopReason.tryFrom result = .ok reason) : reason.namedBreakpoint = none := by
  unfold StopReason.tryFrom at translated
  split at translated <;> cases translated <;> rfl

namespace TtdProcess

variable {σ : Type} [SdkCursor σ]

omit [SdkCursor σ] in
theorem namedBreakpoint_enrichException (process : TtdProcess σ) (reason : StopReason) :
    (process.enrichException reason).namedBreakpoint = reason.namedBreakpoint := by
  unfold enrichException
  split
  · split
    · split <;> rfl
    · rfl
  · rfl

omit [SdkCursor σ] in
/-- The hit id alone decides whether a finished continue names a breakpoint. -/
theorem namedBreakpoint_resolveContinueStop {process : TtdProcess σ} {result : TtdReplayResult}
    {hitBpId : UInt64} {forward : Bool} {reason : StopReason}
    (resolved : process.resolveContinueStop result hitBpId forward = .ok reason) :
    reason.namedBreakpoint = if hitBpId ≠ 0 then some hitBpId else none := by
  simp only [resolveContinueStop] at resolved
  split at resolved
  · rename_i classified
    cases resolved
    exact namedBreakpoint_classify classified
  · rename_i unclassified
    have noHit : hitBpId = 0 := by
      by_contra hit
      revert unclassified
      cases process.breakpoints.get hitBpId <;> simp [classifyContinueStop, hit]
    split at resolved
    · rename_i translated translatedEq
      cases resolved
      rw [namedBreakpoint_enrichException, namedBreakpoint_tryFrom translatedEq]
      simp [noHit]
    · cases resolved

/-- A continue that returns a stop reason has an engine report, and its reason
names the last hit's breakpoint. -/
theorem engineReport_of_continueIn {process after : TtdProcess σ} {forward : Bool} {fuel : Nat}
    {reason : StopReason}
    (ran : process.continueIn forward fuel = some (.returned (.ok reason), after)) :
    ∃ report, process.engineReport forward fuel = some report ∧
      reason.namedBreakpoint =
        if process.breakpoints.hitBpId report.hits ≠ 0 then
          some (process.breakpoints.hitBpId report.hits)
        else none := by
  rw [continueIn_eq, watchpointReplay, replayWatchpointFiltered_eq_watched] at ran
  simp only [Option.map_map, Option.map_eq_some_iff] at ran
  obtain ⟨⟨outcome, stopped⟩, watched, finished⟩ := ran
  cases outcome with
  | panicked payload => cases finished
  | returned returned =>
      cases returned with
      | error error => cases finished
      | ok reported =>
          rcases reported with ⟨final, hits⟩
          simp only [Function.comp_apply, Prod.mk.injEq, Unwind.returned.injEq] at finished
          refine ⟨_, by rw [engineReport, watched], ?_⟩
          exact namedBreakpoint_resolveContinueStop finished.1

end TtdProcess

/-! ## When a breakpoint stop is a real hit -/

/-- A continue in either direction reports a real hit exactly when the last hit
that matched a breakpoint is borne out by the final event. -/
theorem continue_realHit_iff {σ : Type} [SdkCursor σ] (process : TtdProcess σ) (forward : Bool)
    (fuel : Nat) {reason : StopReason} {after : TtdProcess σ}
    (ran : process.continueIn forward fuel = some (.returned (.ok reason), after)) :
    ∃ report, process.engineReport forward fuel = some report ∧
      (RealHit process.breakpoints report reason ↔
        LastMatchConfirmed process.breakpoints report) := by
  obtain ⟨report, reported, named⟩ := TtdProcess.engineReport_of_continueIn ran
  refine ⟨report, reported, ?_⟩
  unfold RealHit LastMatchConfirmed
  rw [named, BreakpointState.hitBpId]
  cases process.breakpoints.lastMatch report.hits with
  | none => simp
  | some bp => by_cases reserved : bp.id = 0 <;> simp [reserved]

/-! ## A speculative hit before an exception -/

/-- One execution breakpoint at `0x1000`, and an engine that reports a hit on it
and then ends its replay call with the given outcome. -/
def speculativeProcess (outcome : ReplayOutcome) : TtdProcess ScriptedCursor :=
  ((TtdProcess.openTrace (.new [] [⟨⟨5, 0⟩, 0xC0000005, 0xdead, 0x1000⟩] ⟨1, 0⟩ ⟨9, 1000⟩)
    ⟨⟨0, 0⟩, [⟨[⟨0x1000, 1, 2, 1, none⟩], ⟨5, 0⟩, outcome⟩]⟩
    ⟨⟨0, 0⟩, []⟩ none).breakpointCall (.setBreakpoint 0x1000 none)).2

/-- A stop at an access violation; the bridge leaves the access fields zero. -/
def accessViolationStop : ReplayOutcome := ⟨2, 1, 1, 0, 0, 0⟩

/-- A stop at the watchpoint itself. -/
def watchpointStop : ReplayOutcome := ⟨0, 1, 1, 0x1000, 1, 2⟩

/-- The replay stops at an access violation, the continue says breakpoint 1. -/
theorem speculative_hit_masks_exception :
    ∃ after report,
      (speculativeProcess accessViolationStop).continueIn true 1 =
        some (.returned (.ok (.breakpoint 1 0x1000)), after) ∧
      (speculativeProcess accessViolationStop).engineReport true 1 = some report ∧
      report.final.stopReason = .exception ∧
      ¬RealHit (speculativeProcess accessViolationStop).breakpoints report
        (.breakpoint 1 0x1000) := by
  have ran : ((speculativeProcess accessViolationStop).continueIn true 1).map Prod.fst =
      some (.returned (.ok (.breakpoint 1 0x1000))) := by decide +kernel
  have reported : ((speculativeProcess accessViolationStop).engineReport true 1).map
      (fun report => report.final.stopReason) = some .exception := by decide +kernel
  obtain ⟨⟨outcome, after⟩, ranEq, rfl⟩ := Option.map_eq_some_iff.mp ran
  obtain ⟨report, reportEq, stopped⟩ := Option.map_eq_some_iff.mp reported
  refine ⟨after, report, ranEq, reportEq, stopped, fun real => ?_⟩
  have confirmed := (real 1 rfl).1
  rw [stopped] at confirmed
  contradiction

/-- When the replay stops at the watchpoint itself the hit is real. -/
theorem confirmed_hit_is_real :
    ∃ report, (speculativeProcess watchpointStop).engineReport true 1 = some report ∧
      RealHit (speculativeProcess watchpointStop).breakpoints report (.breakpoint 1 0x1000) := by
  have ran : ((speculativeProcess watchpointStop).continueIn true 1).map Prod.fst =
      some (.returned (.ok (.breakpoint 1 0x1000))) := by decide +kernel
  have reported : ((speculativeProcess watchpointStop).engineReport true 1).map
      (fun report => (report.final.stopReason,
        ((speculativeProcess watchpointStop).breakpoints.matching report.finalHit).map
          Breakpoint.id,
        ((speculativeProcess watchpointStop).breakpoints.lastMatch report.hits).map
          Breakpoint.id)) =
      some (.memoryWatchpoint, some 1, some 1) := by decide +kernel
  obtain ⟨⟨outcome, after⟩, ranEq, rfl⟩ := Option.map_eq_some_iff.mp ran
  obtain ⟨report, reportEq, real_iff⟩ := continue_realHit_iff _ true 1 ranEq
  rw [reportEq] at reported
  simp only [Option.map_some, Option.some.injEq, Prod.mk.injEq] at reported
  obtain ⟨stopped, selected, matched⟩ := reported
  refine ⟨report, reportEq, real_iff.mpr ?_⟩
  intro bp last _
  rw [last] at matched
  exact ⟨stopped, selected.trans matched.symm⟩

end TtdGdbserver.Target
