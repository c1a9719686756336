import TtdGdbserver.Target.BreakpointCorrectness
import TtdGdbserver.Target.Registration

/-!
# Physical watchpoints deliver what the matcher selects

The matcher filters hits by OS thread id, a physical watchpoint by the unique
thread id that the catalog gives for it.  An OS thread id that the recording
used again leads to the thread that held it last, so a watchpoint delivers what
the matcher selects except to the earlier holders.
-/

namespace TtdGdbserver.Target

open TtdGdbserver.Ttd

/-! ## The catalog -/

/-- The last thread of the list with an OS thread id. -/
def lastHolder (threads : List TtdThreadInfo) (osTid : UInt32) : Option TtdThreadInfo :=
  (threads.filter fun thread => thread.id == osTid).getLast?

theorem uidForOsTid_fromEngineThreads (threads : List TtdThreadInfo) (osTid : UInt32) :
    (ThreadTable.fromEngineThreads threads).uidForOsTid osTid =
      (lastHolder threads osTid).map TtdThreadInfo.uniqueId := by
  unfold ThreadTable.uidForOsTid ThreadTable.fromEngineThreads lastHolder
  induction threads using List.reverseRecOn with
  | nil => simp
  | append_singleton threads thread ih =>
      simp only [List.foldl_append, List.foldl_cons, List.foldl_nil,
        Std.ExtTreeMap.getElem?_insert, Std.LawfulEqOrd.compare_eq_iff_eq, List.filter_append]
      by_cases same : thread.id = osTid
      · simp [same]
      · simpa [same] using ih

theorem lastHolder_of_mem {threads : List TtdThreadInfo} {thread : TtdThreadInfo}
    (recorded : thread ∈ threads) : ∃ last, lastHolder threads thread.id = some last := by
  have member : thread ∈ threads.filter fun other => other.id == thread.id :=
    List.mem_filter.mpr ⟨recorded, by simp⟩
  exact ⟨_, List.getLast?_eq_some_getLast (List.ne_nil_of_mem member)⟩

/-! ## The SDK's watchpoints -/

/-- The watchpoint calls of the SDK do what they are documented to do: an
accepted call changes the set of registered watchpoints, a refused one does
not. -/
class SdkWatchpoints (σ : Type) [SdkCursor σ] where
  registered : σ → WatchpointSet
  registered_add : ∀ (cursor : σ) (key : WatchpointKey),
    registered (SdkCursor.addMemoryWatchpoint cursor key.addr key.size key.access key.tid).2 =
      if (SdkCursor.addMemoryWatchpoint cursor key.addr key.size key.access key.tid).1 then
        (registered cursor).insert key
      else registered cursor
  registered_remove : ∀ (cursor : σ) (key : WatchpointKey),
    registered (SdkCursor.removeMemoryWatchpoint cursor key.addr key.size key.access key.tid).2 =
      if (SdkCursor.removeMemoryWatchpoint cursor key.addr key.size key.access key.tid).1 then
        (registered cursor).erase key
      else registered cursor

section Guarded

variable {σ : Type} [SdkCursor σ]
variable {op : String}
  {call : ReplayCursor σ → UInt64 → UInt64 → DataAccessMask → UInt32 → Bool × ReplayCursor σ}
  {cursor next : ReplayCursor σ} {key : WatchpointKey}

omit [SdkCursor σ] in
/-- An accepted call is for a safe range, and the SDK accepted it. -/
theorem guardedWatchpointCall_ok
    (called : guardedWatchpointCall op call cursor key = (.ok (), next)) :
    validWatchpointRange key.addr key.size = true ∧
      call cursor key.addr key.size key.access key.tid = (true, next) := by
  unfold guardedWatchpointCall at called
  split at called
  · cases called
  · rename_i valid
    rcases answer : call cursor key.addr key.size key.access key.tid with ⟨accepted, moved⟩
    rw [answer] at called
    cases accepted with
    | false => cases called
    | true =>
        cases called
        exact ⟨by simpa using valid, rfl⟩

omit [SdkCursor σ] in
/-- A refused call never reached the SDK, or the SDK refused it. -/
theorem guardedWatchpointCall_error {error : TtdError}
    (called : guardedWatchpointCall op call cursor key = (.error error, next)) :
    next = cursor ∨ call cursor key.addr key.size key.access key.tid = (false, next) := by
  unfold guardedWatchpointCall at called
  split at called
  · cases called
    exact Or.inl rfl
  · rcases answer : call cursor key.addr key.size key.access key.tid with ⟨accepted, moved⟩
    rw [answer] at called
    cases accepted with
    | true => cases called
    | false =>
        cases called
        exact Or.inr rfl

variable [SdkWatchpoints σ]

instance : LawfulWatchpointCursor (ReplayCursor σ) where
  physical cursor := SdkWatchpoints.registered cursor.cursor
  lawful := by
    constructor
    · intro cursor next key called
      have answer := (guardedWatchpointCall_ok called).2
      have accepted : (SdkCursor.addMemoryWatchpoint cursor.cursor key.addr key.size key.access
        key.tid).1 = true := congrArg Prod.fst answer
      have moved : next = ⟨(SdkCursor.addMemoryWatchpoint cursor.cursor key.addr key.size
        key.access key.tid).2⟩ := (congrArg Prod.snd answer).symm
      rw [moved]
      exact (SdkWatchpoints.registered_add cursor.cursor key).trans (if_pos accepted)
    · intro cursor next key error called
      rcases guardedWatchpointCall_error called with rfl | answer
      · rfl
      · have refused : ¬ (SdkCursor.addMemoryWatchpoint cursor.cursor key.addr key.size key.access
          key.tid).1 = true := ne_true_of_eq_false (congrArg Prod.fst answer)
        have moved : next = ⟨(SdkCursor.addMemoryWatchpoint cursor.cursor key.addr key.size
          key.access key.tid).2⟩ := (congrArg Prod.snd answer).symm
        rw [moved]
        exact (SdkWatchpoints.registered_add cursor.cursor key).trans (if_neg refused)
    · intro cursor next key called
      have answer := (guardedWatchpointCall_ok called).2
      have accepted : (SdkCursor.removeMemoryWatchpoint cursor.cursor key.addr key.size key.access
        key.tid).1 = true := congrArg Prod.fst answer
      have moved : next = ⟨(SdkCursor.removeMemoryWatchpoint cursor.cursor key.addr key.size
        key.access key.tid).2⟩ := (congrArg Prod.snd answer).symm
      rw [moved]
      exact (SdkWatchpoints.registered_remove cursor.cursor key).trans (if_pos accepted)
    · intro cursor next key error called
      rcases guardedWatchpointCall_error called with rfl | answer
      · rfl
      · have refused : ¬(SdkCursor.removeMemoryWatchpoint cursor.cursor key.addr key.size
          key.access key.tid).1 = true := ne_true_of_eq_false (congrArg Prod.fst answer)
        have moved : next = ⟨(SdkCursor.removeMemoryWatchpoint cursor.cursor key.addr key.size
          key.access key.tid).2⟩ := (congrArg Prod.snd answer).symm
        rw [moved]
        exact (SdkWatchpoints.registered_remove cursor.cursor key).trans (if_neg refused)

end Guarded

/-! ## Every desired watchpoint is registered -/

/-- A new breakpoint is the only one that `add` may bring in. -/
theorem BreakpointManager.mem_active_of_add {manager : BreakpointManager} {addr size : UInt64}
    {access : DataAccessMask} {kind : BreakpointKind} {threadId : Option UInt64}
    {bp : Breakpoint} (active : bp ∈ (manager.add addr size access kind threadId).2.active) :
    bp = ⟨manager.nextId, addr, size, access, kind, threadId⟩ ∨ bp ∈ manager.active := by
  rw [mem_active_iff, breakpoints_add, Std.ExtTreeMap.getElem?_insert] at active
  split at active
  · exact Or.inl (Option.some.inj active).symm
  · exact Or.inr ((mem_active_iff manager bp).mpr active)

namespace BreakpointState

variable {C : Type} [WatchpointCursor C] [LawfulWatchpointCursor C]
variable {good : C → Prop} {state : BreakpointState} {cursor : C}

/-- The registry tracks the cursor, and every key that the table desires is
applied.  Unlike `Coherent` it needs no fresh ids. -/
structure Covered (good : C → Prop) (state : BreakpointState) (cursor : C) : Prop where
  tracking : ∃ spent, Tracking good spent state cursor
  applied : ∀ key ∈ state.desiredWatchpoints, key ∈ state.watchpoints.applied

theorem covered_new {threads : ThreadTable} (initial : good cursor)
    (blank : physical cursor = ∅) : Covered good (new threads) cursor :=
  have coherent := coherent_new initial blank
  ⟨⟨0, coherent.tracking⟩, coherent.covered⟩

/-- A synchronization with nothing missing keeps the desired keys. -/
theorem Covered.sync (keeps : KeptByCalls physical addWatchpoint removeWatchpoint good)
    (covered : Covered good state cursor) :
    Covered good (state.sync cursor).2.1 (state.sync cursor).2.2 := by
  obtain ⟨spent, tracking⟩ := covered.tracking
  have synced := synced_sync keeps tracking (missing_length_eq_zero covered.applied)
  refine ⟨⟨_, synced.tracking⟩, ?_⟩
  intro key wanted
  rw [desiredWatchpoints_congr _ _ (congrArg _ synced.manager) synced.threads] at wanted
  exact synced.kept key (covered.applied key wanted) wanted

/-- A table with fewer breakpoints desires fewer keys. -/
theorem Covered.fewer (covered : Covered good state cursor) {manager : BreakpointManager}
    (fewer : ∀ bp ∈ manager.active, bp ∈ state.manager.active) :
    Covered good { state with manager := manager } cursor := by
  obtain ⟨spent, tracking⟩ := covered.tracking
  refine ⟨⟨spent, tracking.withManager manager⟩, ?_⟩
  intro key wanted
  obtain ⟨bp, active, keyEq⟩ := mem_desiredWatchpoints.mp wanted
  exact covered.applied key (mem_desiredWatchpoints.mpr ⟨bp, fewer bp active, keyEq⟩)

theorem Covered.register (keeps : KeptByCalls physical addWatchpoint removeWatchpoint good)
    (covered : Covered good state cursor) (addr size : UInt64) (access : DataAccessMask)
    (kind : BreakpointKind) (threadId : Option UInt64) :
    Covered good (state.register addr size access kind threadId cursor).2.1
      (state.register addr size access kind threadId cursor).2.2 := by
  let added : BreakpointState :=
    { state with manager := (state.manager.add addr size access kind threadId).2 }
  let newBp : Breakpoint := ⟨state.manager.nextId, addr, size, access, kind, threadId⟩
  obtain ⟨spent, tracking⟩ := covered.tracking
  have wantedNew : ∀ key ∈ added.desiredWatchpoints,
      key = watchpointKey state.threads newBp ∨ key ∈ state.watchpoints.applied := by
    intro key wanted
    obtain ⟨bp, active, keyEq⟩ := mem_desiredWatchpoints.mp wanted
    rcases BreakpointManager.mem_active_of_add active with same | earlier
    · exact Or.inl (by rw [← keyEq, same])
    · exact Or.inr (covered.applied key (mem_desiredWatchpoints.mpr ⟨bp, earlier, keyEq⟩))
  have synced := synced_sync keeps (tracking.withManager added.manager)
    (missing_length_le_one wantedNew)
  simp only [BreakpointState.register, BreakpointManager.add_fst]
  rcases first : added.sync cursor with ⟨outcome, after, next⟩
  rw [first] at synced
  have desired := desiredWatchpoints_congr after added (congrArg _ synced.manager) synced.threads
  cases outcome with
  | ok _ =>
      refine ⟨⟨_, synced.tracking⟩, ?_⟩
      rw [desired]
      exact synced.complete rfl
  | error error =>
      apply Covered.sync keeps
      refine ⟨⟨_, synced.tracking.withManager _⟩, ?_⟩
      -- Without the new id only breakpoints of before are left.
      intro key wanted
      obtain ⟨bp, active, keyEq⟩ := mem_desiredWatchpoints.mp wanted
      obtain ⟨stillAdded, other⟩ := (BreakpointManager.mem_active_remove_iff bp).mp active
      rw [synced.manager] at stillAdded
      have threadsEq : after.threads = state.threads := synced.threads
      have keyEq : watchpointKey state.threads bp = key := threadsEq ▸ keyEq
      rcases BreakpointManager.mem_active_of_add stillAdded with same | earlier
      · exact absurd (congrArg Breakpoint.id same) other
      · have before := covered.applied key (mem_desiredWatchpoints.mpr ⟨bp, earlier, keyEq⟩)
        exact synced.kept key before (mem_desiredWatchpoints.mpr ⟨bp, stillAdded, keyEq⟩)

theorem Covered.syncRemoved (keeps : KeptByCalls physical addWatchpoint removeWatchpoint good)
    (covered : Covered good state cursor) {removal : Bool × BreakpointManager}
    (fewer : ∀ bp ∈ removal.2.active, bp ∈ state.manager.active) :
    Covered good (state.syncRemoved removal cursor).2.1
      (state.syncRemoved removal cursor).2.2 := by
  have less := covered.fewer fewer
  unfold BreakpointState.syncRemoved
  split
  · exact less.sync keeps
  · exact less

theorem Covered.perform (keeps : KeptByCalls physical addWatchpoint removeWatchpoint good)
    (covered : Covered good state cursor) (call : Call) :
    Covered good (state.perform cursor call).2.1 (state.perform cursor call).2.2 := by
  cases call with
  | setBreakpoint addr threadId => exact covered.register keeps addr 1 .execute .execute threadId
  | setDataBreakpoint addr size kind =>
      exact covered.register keeps addr size (kindAccess kind) kind none
  | removeBreakpoint id =>
      exact covered.syncRemoved keeps fun bp active =>
        ((BreakpointManager.mem_active_remove_iff bp).mp active).1
  | removeBreakpointExact addr size access =>
      exact covered.syncRemoved keeps fun bp active =>
        ((BreakpointManager.mem_active_removeExact_iff bp).mp active).1

theorem Covered.performAll (keeps : KeptByCalls physical addWatchpoint removeWatchpoint good)
    (covered : Covered good state cursor) (calls : List Call) :
    Covered good (state.performAll cursor calls).2.1 (state.performAll cursor calls).2.2 := by
  induction calls generalizing state cursor with
  | nil => exact covered
  | cons call rest ih => exact ih (covered.perform keeps call)

end BreakpointState

/-! ## Delivered hits -/

/-- The registered watchpoint delivers the access of the thread: the byte ranges
meet, the mask has the access, and the filter lets the thread through. -/
def WatchpointKey.Delivers (key : WatchpointKey) (thread : TtdThreadInfo) (addr size : UInt64)
    (access : DataAccessType) : Prop :=
  Meets key.addr key.size addr size ∧
    key.access.intersects access.mask = true ∧ (key.tid = 0 ∨ key.tid = thread.uniqueId)

instance (key : WatchpointKey) (thread : TtdThreadInfo) (addr size : UInt64)
    (access : DataAccessType) : Decidable (key.Delivers thread addr size access) :=
  inferInstanceAs (Decidable (_ ∧ _ ∧ _))

/-- What the matcher selects. -/
theorem BreakpointManager.selected {manager : BreakpointManager} {addr size : UInt64}
    {access : DataAccessMask} {threadId : UInt64} {bp : Breakpoint}
    (found : manager.findByWatchpointHitAndThread addr size access threadId = some bp) :
    bp ∈ manager.active ∧ matchesAddr addr size access bp = true ∧
      (bp.threadId = some threadId ∨ bp.threadId = none) := by
  simp only [findByWatchpointHitAndThread, Option.or_eq_some_iff] at found
  rcases found with restricted | ⟨_, unrestricted⟩
  · obtain ⟨active, matches_⟩ := List.mem_filter.mp (List.mem_of_find?_eq_some restricted)
    exact ⟨active, matches_, Or.inl (by simpa using List.find?_some restricted)⟩
  · obtain ⟨active, matches_⟩ := List.mem_filter.mp (List.mem_of_find?_eq_some unrestricted)
    exact ⟨active, matches_, Or.inr (by simpa using List.find?_some unrestricted)⟩

/-- A match is an overlap of bytes, for an execution too. -/
theorem BreakpointManager.meets_of_matchesAddr {addr size : UInt64} {access : DataAccessMask}
    {bp : Breakpoint} (valid : validWatchpointRange bp.addr bp.size = true)
    (matches_ : matchesAddr addr size access bp = true) :
    bp.access.intersects access = true ∧ Meets bp.addr bp.size addr size := by
  obtain ⟨mask, place⟩ := (matchesAddr_iff valid).mp matches_
  refine ⟨mask, ?_⟩
  split at place
  · have nonempty := (bounds_of_validWatchpointRange valid).1
    have one := one_le_toNat_max size
    rw [place]
    unfold Meets
    omega
  · exact place

section Delivery

variable {σ : Type} [SdkCursor σ] [SdkWatchpoints σ]

/-- Only safe ranges are on the cursor. -/
def OnlySafeRanges (cursor : ReplayCursor σ) : Prop :=
  ∀ key ∈ physical cursor, validWatchpointRange key.addr key.size = true

theorem keptByCalls_onlySafeRanges :
    KeptByCalls (physical (C := ReplayCursor σ)) addWatchpoint removeWatchpoint
      OnlySafeRanges where
  add := by
    intro cursor key safe _
    rcases called : addWatchpoint cursor key with ⟨outcome, next⟩
    have lawful := LawfulWatchpointCursor.lawful (C := ReplayCursor σ)
    cases outcome with
    | error error =>
        intro other present
        rw [lawful.add_error _ _ _ _ called] at present
        exact safe other present
    | ok _ =>
        intro other present
        rw [lawful.add_ok _ _ _ called, Std.ExtTreeSet.mem_insert,
          Std.LawfulEqOrd.compare_eq_iff_eq] at present
        rcases present with rfl | present
        · exact (guardedWatchpointCall_ok called).1
        · exact safe other present
  remove := by
    intro cursor key safe _
    rcases called : removeWatchpoint cursor key with ⟨outcome, next⟩
    have lawful := LawfulWatchpointCursor.lawful (C := ReplayCursor σ)
    cases outcome with
    | error error =>
        intro other present
        rw [lawful.remove_error _ _ _ _ called] at present
        exact safe other present
    | ok _ =>
        intro other present
        rw [lawful.remove_ok _ _ _ called, Std.ExtTreeSet.mem_erase] at present
        exact safe other present.2

/-- After every sequence of calls, an access that the matcher selects is
delivered to the last holder of the thread's OS id; a breakpoint without a
thread filter is delivered to everyone. -/
theorem delivered_of_performAll (threads : List TtdThreadInfo) (cursor : ReplayCursor σ)
    (blank : physical cursor = ∅) (calls : List BreakpointState.Call)
    {thread : TtdThreadInfo} (recorded : thread ∈ threads) (addr size : UInt64)
    (access : DataAccessType) {bp : Breakpoint}
    (selected : ((BreakpointState.new (.fromEngineThreads threads)).performAll cursor
      calls).2.1.findByWatchpointHitAndThread addr size access.mask thread.id.toUInt64 =
        some bp) :
    ∃ key ∈ physical ((BreakpointState.new (.fromEngineThreads threads)).performAll cursor
        calls).2.2, ∃ last, lastHolder threads thread.id = some last ∧
      key.Delivers last addr size access ∧ (bp.threadId = none → key.tid = 0) := by
  have start : BreakpointState.Covered OnlySafeRanges (.new (.fromEngineThreads threads))
      cursor := BreakpointState.covered_new (by simp [OnlySafeRanges, blank]) blank
  have covered := start.performAll keptByCalls_onlySafeRanges calls
  have catalog : ((BreakpointState.new (.fromEngineThreads threads)).performAll cursor
      calls).2.1.threads = .fromEngineThreads threads := BreakpointState.threads_performAll calls
  obtain ⟨spent, tracking⟩ := covered.tracking
  obtain ⟨active, matches_, filter⟩ := BreakpointManager.selected selected
  have present := covered.applied _ (BreakpointState.mem_desiredWatchpoints.mpr ⟨bp, active, rfl⟩)
  rw [tracking.tracks, catalog] at present
  have safe := tracking.good _ present
  obtain ⟨mask, overlap⟩ := BreakpointManager.meets_of_matchesAddr safe matches_
  obtain ⟨last, held⟩ := lastHolder_of_mem recorded
  refine ⟨_, present, last, held, ⟨overlap, mask, ?_⟩, ?_⟩
  · rcases filter with named | any
    · right
      simp [BreakpointState.watchpointKey, named, uidForOsTid_fromEngineThreads, held]
    · left
      simp [BreakpointState.watchpointKey, any]
  · intro any
    simp [BreakpointState.watchpointKey, any]

end Delivery

/-! ## A recycled OS thread id -/

/-- A cursor that keeps watchpoints and accepts every call. -/
structure WatchingCursor where
  watchpoints : WatchpointSet

instance : SdkCursor WatchingCursor where
  architecture := 9
  getPosition _ := minPosition
  setPosition cursor _ := cursor
  replay cursor _ := .done (cursor, { (default : ReplayOutcome) with stopReason := 255 })
  setEventMask cursor _ := cursor
  setExceptionMask cursor _ := cursor
  addMemoryWatchpoint cursor address size mask thread :=
    (true, ⟨cursor.watchpoints.insert ⟨address, size, mask, thread⟩⟩)
  removeMemoryWatchpoint cursor address size mask thread :=
    (true, ⟨cursor.watchpoints.erase ⟨address, size, mask, thread⟩⟩)
  view _ := {
    queryMemory := fun _ _ => ([], 0)
    queryMemoryWithRanges := fun _ _ _ => ⟨[], 0, [], 0⟩
    threadInfo := ⟨0, 0⟩
    activeThreadCount := 0
    activeThreadAt := fun _ => ⟨⟨0, 0⟩, minPosition⟩
    tebAddress := fun _ => 0
    amd64Context := fun _ => [] }

instance : SdkWatchpoints WatchingCursor where
  registered := WatchingCursor.watchpoints
  registered_add _ _ := rfl
  registered_remove _ _ := rfl

/-- Two threads of one OS id, and a breakpoint for that id. -/
def recycledThreads : List TtdThreadInfo := [⟨2, 0x100⟩, ⟨5, 0x100⟩]

/-- A breakpoint for one thread. -/
def restrictedCalls : List BreakpointState.Call := [.setBreakpoint 0x1000 (some 0x100)]

/-- A cursor without watchpoints. -/
def blankCursor : ReplayCursor WatchingCursor := ⟨⟨∅⟩⟩

/-- The run of these calls on a trace with recycled thread ids. -/
abbrev restrictedRun : List (BreakpointState.Call × BreakpointState.Reply) × BreakpointState ×
    ReplayCursor WatchingCursor :=
  (BreakpointState.new (.fromEngineThreads recycledThreads)).performAll blankCursor
    restrictedCalls

theorem restrictedRun_selects :
    ∀ thread ∈ recycledThreads,
      restrictedRun.2.1.findByWatchpointHitAndThread 0x1000 1 DataAccessType.execute.mask
        thread.id.toUInt64 = some ⟨1, 0x1000, 1, .execute, .execute, some 0x100⟩ := by
  decide +kernel

theorem restrictedRun_registers :
    (physical restrictedRun.2.2).toList = [⟨0x1000, 1, .execute, 5⟩] := by
  decide +kernel

/-- The matcher selects the breakpoint for the first thread, and nothing
delivers the hit. -/
theorem earlierHolder_misses_hit :
    ∃ thread ∈ recycledThreads, ∃ bp,
      restrictedRun.2.1.findByWatchpointHitAndThread 0x1000 1 DataAccessType.execute.mask
        thread.id.toUInt64 = some bp ∧
      ∀ key ∈ physical restrictedRun.2.2, ¬ key.Delivers thread 0x1000 1 .execute := by
  refine ⟨⟨2, 0x100⟩, by decide, _, restrictedRun_selects _ (by decide), ?_⟩
  intro key registered
  rw [← Std.ExtTreeSet.mem_toList, restrictedRun_registers, List.mem_singleton] at registered
  subst registered
  decide

/-- The last holder gets the hit. -/
theorem restrictedRun_delivers :
    ∃ thread ∈ recycledThreads, ∃ key ∈ physical restrictedRun.2.2, ∃ last,
      lastHolder recycledThreads thread.id = some last ∧
        key.Delivers last 0x1000 1 .execute ∧
        ((some 0x100 : Option UInt64) = none → key.tid = 0) := by
  have recorded : (⟨5, 0x100⟩ : TtdThreadInfo) ∈ recycledThreads := by decide
  exact ⟨_, recorded, delivered_of_performAll recycledThreads blankCursor rfl restrictedCalls
    recorded 0x1000 1 .execute (restrictedRun_selects _ recorded)⟩

end TtdGdbserver.Target
