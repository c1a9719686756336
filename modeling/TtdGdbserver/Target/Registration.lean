import TtdGdbserver.Target.BreakpointState

/-!
# What the registry knows whatever the cursor does

The registry records what the cursor acknowledged.  Between two operations
every key that the table desires is recorded, and every recorded key has a
range that the cursor does not refuse out of hand.  No law of the cursor is
needed for that, so any cursor may stand behind the next call.
-/

namespace TtdGdbserver.Target

open TtdGdbserver.Ttd

/-! ## Matching a hit -/

/-- A valid range is not empty and ends below the top of the address space. -/
theorem bounds_of_validWatchpointRange {addr size : UInt64}
    (valid : validWatchpointRange addr size = true) :
    0 < size.toNat ∧ addr.toNat + size.toNat < 2 ^ 64 := by
  unfold validWatchpointRange at valid
  split at valid
  · contradiction
  · rename_i proper
    split at valid
    · rename_i fits
      refine ⟨Nat.pos_of_ne_zero ?_, fits⟩
      intro zero
      exact proper (Or.inl (UInt64.toNat_inj.mp zero))
    · contradiction

theorem toNat_max_one (size : UInt64) : (max size 1).toNat = max size.toNat 1 := by
  rw [show max size 1 = if size ≤ 1 then 1 else size from rfl]
  split
  · rename_i small
    rw [UInt64.le_iff_toNat_le, UInt64.toNat_one] at small
    rw [UInt64.toNat_one, Nat.max_eq_right small]
  · rename_i large
    rw [UInt64.le_iff_toNat_le, UInt64.toNat_one] at large
    exact (Nat.max_eq_left (Nat.le_of_not_le large)).symm

theorem one_le_toNat_max (size : UInt64) : 1 ≤ (max size 1).toNat := by
  rw [toNat_max_one]
  exact Nat.le_max_right ..

/-- A hit of `size` bytes at `addr` meets the range; an empty hit counts as one
byte. -/
def Meets (rangeAddr rangeSize addr size : UInt64) : Prop :=
  max rangeAddr.toNat addr.toNat <
    min (rangeAddr.toNat + rangeSize.toNat) (addr.toNat + (max size 1).toNat)

instance (rangeAddr rangeSize addr size : UInt64) :
    Decidable (Meets rangeAddr rangeSize addr size) :=
  inferInstanceAs (Decidable (_ < _))

/-- On a valid range the saturating ends of the source change nothing. -/
theorem BreakpointManager.matchesAddr_iff {addr size : UInt64} {access : DataAccessMask}
    {bp : Breakpoint} (valid : validWatchpointRange bp.addr bp.size = true) :
    matchesAddr addr size access bp = true ↔
      bp.access.intersects access = true ∧
        if bp.kind = .execute then addr = bp.addr else Meets bp.addr bp.size addr size := by
  obtain ⟨nonempty, fits⟩ := bounds_of_validWatchpointRange valid
  have one := one_le_toNat_max size
  unfold matchesAddr Meets
  cases bp.access.intersects access with
  | false => simp
  | true =>
      simp only [Bool.not_true, Bool.false_eq_true, if_false, true_and]
      split
      · simp
      · simp only [Bool.and_eq_true, decide_eq_true_eq, UInt64.lt_iff_toNat_lt,
          toNat_saturatingAdd]
        omega

/-! ## One synchronization -/

section Sync

variable {σ : Type} {add remove : PhysicalCall σ} {accepts : WatchpointKey → Prop}
variable {before desired : WatchpointSet}

/-- What holds of the recorded keys while `stale` and then `missing` are still to
be handled. -/
structure Recording (accepts : WatchpointKey → Prop) (before desired : WatchpointSet)
    (stale missing : List WatchpointKey) (state : SyncState σ) : Prop where
  stale : ∀ key ∈ stale, key ∉ desired
  kept : ∀ key ∈ before, key ∈ desired → key ∈ state.applied
  complete : state.firstAddError = none → ∀ key ∈ desired, key ∈ state.applied ∨ key ∈ missing
  accepted : ∀ key ∈ state.applied, accepts key

theorem Recording.removeStale {key : WatchpointKey} {stale missing : List WatchpointKey}
    {state : SyncState σ}
    (recording : Recording accepts before desired (key :: stale) missing state) :
    Recording accepts before desired stale missing (Target.removeStale remove state key) := by
  have notDesired := recording.stale key (List.mem_cons_self ..)
  have rest := fun other later => recording.stale other (List.mem_cons_of_mem key later)
  unfold Target.removeStale
  rcases remove state.sink key with ⟨outcome, sink⟩
  cases outcome with
  | error error => exact ⟨rest, recording.kept, recording.complete, recording.accepted⟩
  | ok _ =>
      refine ⟨rest, ?_, ?_, ?_⟩
      · intro other present wanted
        have distinct : key ≠ other := fun same => notDesired (same ▸ wanted)
        simpa [Std.ExtTreeSet.mem_erase, distinct] using recording.kept other present wanted
      · intro noError other wanted
        have distinct : key ≠ other := fun same => notDesired (same ▸ wanted)
        simpa [Std.ExtTreeSet.mem_erase, distinct] using recording.complete noError other wanted
      · intro other present
        exact recording.accepted other (Std.ExtTreeSet.mem_of_mem_erase present)

theorem Recording.addMissing
    (adds : ∀ sink next key, add sink key = (.ok (), next) → accepts key)
    {key : WatchpointKey} {missing : List WatchpointKey} {state : SyncState σ}
    (recording : Recording accepts before desired [] (key :: missing) state) :
    Recording accepts before desired [] missing (Target.addMissing add state key) := by
  unfold Target.addMissing
  rcases call : add state.sink key with ⟨outcome, sink⟩
  cases outcome with
  | error source =>
      refine ⟨by simp, recording.kept, ?_, recording.accepted⟩
      intro noError
      cases earlier : state.firstAddError <;> simp [earlier] at noError
  | ok _ =>
      refine ⟨by simp, ?_, ?_, ?_⟩
      · intro other present wanted
        exact Std.ExtTreeSet.mem_insert.mpr (Or.inr (recording.kept other present wanted))
      · intro noError other wanted
        rcases recording.complete noError other wanted with present | pending
        · exact Or.inl (Std.ExtTreeSet.mem_insert.mpr (Or.inr present))
        · rcases List.mem_cons.mp pending with rfl | later
          · exact Or.inl Std.ExtTreeSet.mem_insert_self
          · exact Or.inr later
      · intro other present
        rcases Std.ExtTreeSet.mem_insert.mp present with same | earlier
        · rw [← Std.LawfulEqOrd.compare_eq_iff_eq.mp same]
          exact adds _ _ _ call
        · exact recording.accepted other earlier

theorem WatchpointRegistry.recording_sync
    (adds : ∀ sink next key, add sink key = (.ok (), next) → accepts key)
    (registry : WatchpointRegistry) (desired : WatchpointSet) (sink : σ)
    (accepted : ∀ key ∈ registry.applied, accepts key) :
    Recording accepts registry.applied desired [] []
      (registry.sync desired add remove sink) := by
  apply Transition.foldl_worklist (Recording accepts registry.applied desired [])
  · exact Recording.addMissing adds
  apply Transition.foldl_worklist (fun stale => Recording accepts registry.applied desired stale
    (desired \ registry.applied).toList)
  · exact Recording.removeStale
  refine ⟨?_, fun _ present _ => present, ?_, accepted⟩
  · intro key stale
    exact (Std.ExtTreeSet.mem_diff_iff.mp (Std.ExtTreeSet.mem_toList.mp stale)).2
  · intro _ key wanted
    by_cases present : key ∈ registry.applied
    · exact Or.inl present
    · exact Or.inr (Std.ExtTreeSet.mem_toList.mpr
        (Std.ExtTreeSet.mem_diff_iff.mpr ⟨wanted, present⟩))

end Sync

/-! ## Between operations -/

namespace BreakpointState

/-- The range of the key is one that the cursor may be asked for. -/
def SafeKey (key : WatchpointKey) : Prop :=
  validWatchpointRange key.addr key.size = true

/-- Every desired key is recorded, and every recorded key is safe. -/
structure Registered (state : BreakpointState) : Prop where
  recorded : ∀ key ∈ state.desiredWatchpoints, key ∈ state.watchpoints.applied
  safe : ∀ key ∈ state.watchpoints.applied, SafeKey key

theorem registered_new (threads : ThreadTable) : Registered (new threads) where
  recorded := by simp [new, desiredWatchpoints]
  safe := by simp [new, WatchpointRegistry.new]

variable {σ : Type} [SdkCursor σ] {state : BreakpointState} {cursor : ReplayCursor σ}

theorem safeKey_of_addWatchpoint {next : ReplayCursor σ} {key : WatchpointKey}
    (called : addWatchpoint cursor key = (.ok (), next)) : SafeKey key := by
  simp only [addWatchpoint, guardedWatchpointCall] at called
  split at called
  · cases called
  · rename_i valid
    simpa [SafeKey] using valid

/-- What one synchronization records. -/
structure Synchronized (before : BreakpointState) (outcome : Except DebugError Unit)
    (after : BreakpointState) : Prop where
  manager : after.manager = before.manager
  threads : after.threads = before.threads
  desired : after.desiredWatchpoints = before.desiredWatchpoints
  kept : ∀ key ∈ before.watchpoints.applied, key ∈ before.desiredWatchpoints →
    key ∈ after.watchpoints.applied
  complete : outcome = .ok () → ∀ key ∈ before.desiredWatchpoints, key ∈ after.watchpoints.applied
  safe : (∀ key ∈ before.watchpoints.applied, SafeKey key) →
    ∀ key ∈ after.watchpoints.applied, SafeKey key

theorem synchronized_sync (state : BreakpointState) (cursor : ReplayCursor σ) :
    Synchronized state (state.sync cursor).1 (state.sync cursor).2.1 := by
  have recording : Recording (fun _ => True) state.watchpoints.applied state.desiredWatchpoints
      [] [] (state.watchpoints.sync state.desiredWatchpoints addWatchpoint removeWatchpoint
        cursor) :=
    state.watchpoints.recording_sync (fun _ _ _ _ => trivial) _ cursor fun _ _ => trivial
  refine ⟨rfl, rfl, rfl, recording.kept, ?_, ?_⟩
  · intro succeeded key wanted
    simp only [sync] at succeeded
    cases first : (state.watchpoints.sync state.desiredWatchpoints addWatchpoint
        removeWatchpoint cursor).firstAddError with
    | some error => simp [first] at succeeded
    | none => exact (recording.complete first key wanted).resolve_right (by simp)
  · intro safe
    have accepting : Recording SafeKey state.watchpoints.applied state.desiredWatchpoints
        [] [] (state.watchpoints.sync state.desiredWatchpoints addWatchpoint removeWatchpoint
          cursor) :=
      state.watchpoints.recording_sync
        (fun _ _ _ called => safeKey_of_addWatchpoint called) _ cursor safe
    exact accepting.accepted

theorem Registered.sync (registered : Registered state) (cursor : ReplayCursor σ) :
    Registered (state.sync cursor).2.1 := by
  have synced := synchronized_sync state cursor
  refine ⟨?_, synced.safe registered.safe⟩
  intro key wanted
  rw [synced.desired] at wanted
  exact synced.kept key (registered.recorded key wanted) wanted

/-- A table with fewer breakpoints desires fewer keys. -/
theorem Registered.fewer (registered : Registered state) {manager : BreakpointManager}
    (fewer : ∀ bp ∈ manager.active, bp ∈ state.manager.active) :
    Registered { state with manager := manager } := by
  refine ⟨?_, registered.safe⟩
  intro key wanted
  simp only [desiredWatchpoints, Std.ExtTreeSet.mem_ofList, List.contains_iff_mem,
    List.mem_map] at wanted
  obtain ⟨bp, active, keyEq⟩ := wanted
  apply registered.recorded
  simp only [desiredWatchpoints, Std.ExtTreeSet.mem_ofList, List.contains_iff_mem, List.mem_map]
  exact ⟨bp, fewer bp active, keyEq⟩

theorem Registered.syncRemoved (registered : Registered state) {removal : Bool × BreakpointManager}
    (fewer : ∀ bp ∈ removal.2.active, bp ∈ state.manager.active) (cursor : ReplayCursor σ) :
    Registered (state.syncRemoved removal cursor).2.1 := by
  have less := registered.fewer fewer
  unfold BreakpointState.syncRemoved
  split
  · exact less.sync cursor
  · exact less

/-! ## Registering a breakpoint -/

/-- The breakpoint that `register` files under the next id. -/
def filed (state : BreakpointState) (addr size : UInt64) (access : DataAccessMask)
    (kind : BreakpointKind) (threadId : Option UInt64) : Breakpoint :=
  ⟨state.manager.nextId, addr, size, access, kind, threadId⟩

/-- What `register` leaves behind: the breakpoint is filed, or the table is as
before. -/
structure Filed (before : BreakpointState) (bp : Breakpoint)
    (result : Except DebugError BreakpointId) (after : BreakpointState) : Prop where
  registered : Registered after
  threads : after.threads = before.threads
  nextId : after.manager.nextId = before.manager.nextId + 1
  table : (∃ id, result = .ok id ∧
      after.manager.breakpoints = before.manager.breakpoints.insert before.manager.nextId bp) ∨
    (∃ error, result = .error error ∧
      after.manager.breakpoints = before.manager.breakpoints)

theorem Registered.register (registered : Registered state)
    (fresh : state.manager.breakpoints[state.manager.nextId]? = none) (addr size : UInt64)
    (access : DataAccessMask) (kind : BreakpointKind) (threadId : Option UInt64)
    (cursor : ReplayCursor σ) :
    Filed state (state.filed addr size access kind threadId)
      (state.register addr size access kind threadId cursor).1
      (state.register addr size access kind threadId cursor).2.1 := by
  let added : BreakpointState :=
    { state with manager := (state.manager.add addr size access kind threadId).2 }
  have restored := BreakpointManager.remove_add_breakpoints fresh addr size access kind threadId
  have synced := synchronized_sync added cursor
  simp only [BreakpointState.register, BreakpointManager.add_fst]
  rcases first : added.sync cursor with ⟨outcome, after, next⟩
  rw [first] at synced
  have managerEq : after.manager = added.manager := synced.manager
  cases outcome with
  | ok _ =>
      refine ⟨⟨?_, synced.safe registered.safe⟩, synced.threads, congrArg _ managerEq,
        Or.inl ⟨_, rfl, congrArg _ managerEq⟩⟩
      rw [synced.desired]
      exact synced.complete rfl
  | error error =>
      let dropped : BreakpointState :=
        { after with manager := (after.manager.remove state.manager.nextId).2 }
      have tableEq : dropped.manager.breakpoints = state.manager.breakpoints := by
        simp only [dropped, managerEq]
        exact restored
      have desiredEq : dropped.desiredWatchpoints = state.desiredWatchpoints := by
        simp only [desiredWatchpoints, BreakpointManager.active, tableEq]
        rw [show dropped.threads = state.threads from synced.threads]
      -- What the old table desires was recorded before the failed registration.
      have stillWanted : ∀ key ∈ state.desiredWatchpoints, key ∈ added.desiredWatchpoints := by
        intro key wanted
        simp only [desiredWatchpoints, Std.ExtTreeSet.mem_ofList, List.contains_iff_mem,
          List.mem_map] at wanted ⊢
        obtain ⟨bp, active, keyEq⟩ := wanted
        exact ⟨bp, (BreakpointManager.mem_active_add_iff fresh bp).mpr (Or.inr active), keyEq⟩
      have droppedRegistered : Registered dropped := by
        refine ⟨?_, synced.safe registered.safe⟩
        intro key wanted
        rw [desiredEq] at wanted
        exact synced.kept key (registered.recorded key wanted) (stillWanted key wanted)
      have counter : after.manager.nextId = added.manager.nextId :=
        congrArg BreakpointManager.nextId managerEq
      exact ⟨droppedRegistered.sync next, synced.threads, counter,
        Or.inr ⟨error, rfl, tableEq⟩⟩

end BreakpointState

end TtdGdbserver.Target
