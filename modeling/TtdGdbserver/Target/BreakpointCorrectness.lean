import TtdGdbserver.Target.BreakpointState
import Mathlib.Data.List.Perm.Subperm

/-!
# The physical watchpoints follow the logical table

The argument rests on one fact: between operations every key that the table
desires is already applied.  A `set` call then leaves at most one key missing,
its own, so that only its own add can fail, and taking the breakpoint back
leaves nothing missing at all.
-/

namespace TtdGdbserver.Target

open TtdGdbserver.Ttd

/-- A cursor whose watchpoints can be read off, and whose calls act on them as
documented. -/
class LawfulWatchpointCursor (C : Type) [WatchpointCursor C] where
  physical : C → WatchpointSet
  lawful : LawfulCalls physical addWatchpoint removeWatchpoint

export LawfulWatchpointCursor (physical)

/-! ## Recording the physical calls -/

/-- The two physical calls. -/
inductive PhysicalOp where
  | add
  | remove
  deriving DecidableEq, Repr

/-- A physical call together with the watchpoints on the cursor when it was
issued. -/
structure IssuedCall where
  op : PhysicalOp
  key : WatchpointKey
  before : WatchpointSet

/-- An add is for an absent key, a remove for a present one. -/
def IssuedCall.WellTimed (issued : IssuedCall) : Prop :=
  match issued.op with
  | .add => issued.key ∉ issued.before
  | .remove => issued.key ∈ issued.before

/-- A cursor with the list of the physical calls issued on it. -/
structure Recorded (C : Type) where
  cursor : C
  issued : List IssuedCall

namespace Recorded

variable {C : Type} [WatchpointCursor C] [LawfulWatchpointCursor C]

/-- The call as the cursor performs it, written down. -/
def call (op : PhysicalOp) (perform : PhysicalCall C) : PhysicalCall (Recorded C) :=
  fun recorded key =>
    let (outcome, cursor) := perform recorded.cursor key
    (outcome, ⟨cursor, recorded.issued ++ [⟨op, key, physical recorded.cursor⟩]⟩)

instance : WatchpointCursor (Recorded C) where
  addWatchpoint := call .add addWatchpoint
  removeWatchpoint := call .remove removeWatchpoint

theorem call_eq_iff {op : PhysicalOp} {perform : PhysicalCall C} {recorded next : Recorded C}
    {key : WatchpointKey} {outcome : Except TtdError Unit}
    (called : call op perform recorded key = (outcome, next)) :
    perform recorded.cursor key = (outcome, next.cursor) := by
  simp only [call, Prod.mk.injEq] at called
  obtain ⟨rfl, rfl⟩ := called
  rfl

instance : LawfulWatchpointCursor (Recorded C) where
  physical recorded := physical recorded.cursor
  lawful := by
    have lawful := LawfulWatchpointCursor.lawful (C := C)
    exact {
      add_ok := fun _ _ _ called => lawful.add_ok _ _ _ (call_eq_iff called)
      add_error := fun _ _ _ _ called => lawful.add_error _ _ _ _ (call_eq_iff called)
      remove_ok := fun _ _ _ called => lawful.remove_ok _ _ _ (call_eq_iff called)
      remove_error := fun _ _ _ _ called => lawful.remove_error _ _ _ _ (call_eq_iff called) }

/-- Every call on record was well timed. -/
def WellTimed (recorded : Recorded C) : Prop :=
  ∀ issued ∈ recorded.issued, issued.WellTimed

theorem keptByCalls_wellTimed :
    KeptByCalls (physical (C := Recorded C)) addWatchpoint removeWatchpoint WellTimed where
  add := by
    intro recorded key timed absent issued member
    rcases List.mem_append.mp member with earlier | last
    · exact timed issued earlier
    · rw [List.mem_singleton.mp last]
      exact absent
  remove := by
    intro recorded key timed present issued member
    rcases List.mem_append.mp member with earlier | last
    · exact timed issued earlier
    · rw [List.mem_singleton.mp last]
      exact present

end Recorded

/-! ## What the client has been told -/

/-- The breakpoints a client may count on after an exchange: an acknowledged
`set` adds one, a refused one adds none, a `remove` removes. -/
def acknowledge (table : Std.ExtTreeMap BreakpointId Breakpoint) :
    BreakpointState.Call × BreakpointState.Reply → Std.ExtTreeMap BreakpointId Breakpoint
  | (.setBreakpoint addr threadId, .set (.ok id)) =>
      table.insert id ⟨id, addr, 1, .execute, .execute, threadId⟩
  | (.setDataBreakpoint addr size kind, .set (.ok id)) =>
      table.insert id ⟨id, addr, size, BreakpointState.kindAccess kind, kind, none⟩
  | (.removeBreakpoint id, _) => table.erase id
  | (.removeBreakpointExact addr size access, _) =>
      table.filter fun _ bp => !BreakpointManager.atTriple addr size access bp
  | _ => table

/-- The address a call asks for. -/
def BreakpointState.Call.requested : BreakpointState.Call → Option UInt64
  | .setBreakpoint addr _ => some addr
  | .setDataBreakpoint addr _ _ => some addr
  | _ => none

/-- An error reply names the address its call asked for. -/
def NamesRequest (exchange : BreakpointState.Call × BreakpointState.Reply) : Prop :=
  ∀ error, exchange.2 = .set (.error error) →
    ∃ addr source, exchange.1.requested = some addr ∧ error = .breakpointRegister addr source

/-! ## One synchronization -/

namespace BreakpointState

variable {C : Type} [WatchpointCursor C] [LawfulWatchpointCursor C]
variable {good : C → Prop} {state : BreakpointState} {cursor : C} {spent : Nat}

/-- The registry tracks the cursor, `good` holds of the cursor, and the
counters account for the physical watchpoints; at most `spent` physical adds
have succeeded. -/
structure Tracking (good : C → Prop) (spent : Nat) (state : BreakpointState) (cursor : C) :
    Prop where
  tracks : state.watchpoints.applied = physical cursor
  good : good cursor
  counted : ∃ adds removes : Nat,
    state.watchpointAdds = UInt64.ofNat adds ∧ state.watchpointRemoves = UInt64.ofNat removes ∧
    adds = removes + (physical cursor).size ∧ adds ≤ spent

/-- What a synchronization leaves behind. -/
structure Synced (good : C → Prop) (spent : Nat) (before : BreakpointState)
    (outcome : Except DebugError Unit) (after : BreakpointState) (cursor : C) : Prop where
  tracking : Tracking good spent after cursor
  manager : after.manager = before.manager
  threads : after.threads = before.threads
  kept : ∀ key ∈ before.watchpoints.applied, key ∈ before.desiredWatchpoints →
    key ∈ after.watchpoints.applied
  complete : outcome = .ok () →
    ∀ key ∈ before.desiredWatchpoints, key ∈ after.watchpoints.applied
  blamed : ∀ error, outcome = .error error → ∃ key source,
    error = .breakpointRegister key.addr source ∧
    key ∈ before.desiredWatchpoints ∧ key ∉ before.watchpoints.applied

theorem synced_sync (keeps : KeptByCalls physical addWatchpoint removeWatchpoint good)
    (tracking : Tracking good spent state cursor) {more : Nat}
    (few : (state.desiredWatchpoints \ state.watchpoints.applied).toList.length ≤ more) :
    Synced good (spent + more) state (state.sync cursor).1 (state.sync cursor).2.1
      (state.sync cursor).2.2 := by
  have syncing := state.watchpoints.syncing_sync LawfulWatchpointCursor.lawful keeps
    state.desiredWatchpoints tracking.tracks tracking.good
  obtain ⟨adds, removes, addsEq, removesEq, balance, bound⟩ := tracking.counted
  obtain ⟨added, removed, addedEq, removedEq, sizes, room⟩ := syncing.counted
  simp only [BreakpointState.sync]
  constructor
  · refine ⟨syncing.tracks, syncing.good, adds + added, removes + removed, ?_, ?_, ?_, ?_⟩
    · rw [UInt64.ofNat_add, ← addsEq, ← addedEq]
    · rw [UInt64.ofNat_add, ← removesEq, ← removedEq]
    · rw [tracking.tracks, syncing.tracks] at sizes
      omega
    · simp only [List.length_nil] at room
      omega
  · rfl
  · rfl
  · exact syncing.kept
  · intro succeeded key wanted
    cases first : (state.watchpoints.sync state.desiredWatchpoints addWatchpoint
        removeWatchpoint cursor).firstAddError with
    | some error => simp [first] at succeeded
    | none => simpa using syncing.complete first key wanted
  · intro error failed
    cases first : (state.watchpoints.sync state.desiredWatchpoints addWatchpoint
        removeWatchpoint cursor).firstAddError with
    | none => simp [first] at failed
    | some syncError =>
        simp only [first, Except.error.injEq] at failed
        exact ⟨syncError.key, syncError.source, failed.symm, syncing.blamed syncError first⟩

/-! ## At most one key is missing -/

theorem mem_desiredWatchpoints {key : WatchpointKey} :
    key ∈ state.desiredWatchpoints ↔
      ∃ bp ∈ state.manager.active, watchpointKey state.threads bp = key := by
  simp [desiredWatchpoints, Std.ExtTreeSet.mem_ofList]

/-- The desired keys depend on the breakpoints and the catalog alone. -/
theorem desiredWatchpoints_congr (state other : BreakpointState)
    (breakpoints : state.manager.breakpoints = other.manager.breakpoints)
    (threads : state.threads = other.threads) :
    state.desiredWatchpoints = other.desiredWatchpoints := by
  simp only [desiredWatchpoints, BreakpointManager.active, breakpoints, threads]

theorem missing_length_eq_zero {desired applied : WatchpointSet}
    (covered : ∀ key ∈ desired, key ∈ applied) : (desired \ applied).toList.length ≤ 0 := by
  have empty : desired \ applied = ∅ := by
    apply Std.ExtTreeSet.eq_empty_iff_forall_not_mem.mpr
    intro key missing
    obtain ⟨wanted, absent⟩ := Std.ExtTreeSet.mem_diff_iff.mp missing
    exact absent (covered key wanted)
  simp [empty]

theorem missing_length_le_one {desired applied : WatchpointSet} {newKey : WatchpointKey}
    (covered : ∀ key ∈ desired, key = newKey ∨ key ∈ applied) :
    (desired \ applied).toList.length ≤ 1 := by
  have onlyNew : (desired \ applied).toList ⊆ [newKey] := by
    intro key missing
    obtain ⟨wanted, absent⟩ :=
      Std.ExtTreeSet.mem_diff_iff.mp (Std.ExtTreeSet.mem_toList.mp missing)
    rcases covered key wanted with same | present
    · exact List.mem_singleton.mpr same
    · exact (absent present).elim
  exact (List.subperm_of_subset (nodup_toList _) onlyNew).length_le

/-! ## The invariant between operations -/

/-- What holds after `calls` operations of which the client has been told
`table`. -/
structure Coherent (good : C → Prop) (calls : Nat)
    (table : Std.ExtTreeMap BreakpointId Breakpoint) (state : BreakpointState) (cursor : C) :
    Prop where
  tracking : Tracking good calls state cursor
  covered : ∀ key ∈ state.desiredWatchpoints, key ∈ state.watchpoints.applied
  ids : state.manager.IdsBelow
  nextId : state.manager.nextId.toNat ≤ calls + 1
  table : state.manager.breakpoints = table

variable {calls : Nat} {table : Std.ExtTreeMap BreakpointId Breakpoint}

theorem Tracking.withManager (tracking : Tracking good spent state cursor)
    (manager : BreakpointManager) :
    Tracking good spent { state with manager := manager } cursor :=
  ⟨tracking.tracks, tracking.good, tracking.counted⟩

/-- A breakpoint filed under a fresh id makes at most its own key newly
desired. -/
theorem Coherent.desired_add (coherent : Coherent good calls table state cursor)
    {addr size : UInt64} {access : DataAccessMask} {kind : BreakpointKind}
    {threadId : Option UInt64} {key : WatchpointKey}
    (wanted : key ∈ ({ state with
      manager := (state.manager.add addr size access kind threadId).2 } :
        BreakpointState).desiredWatchpoints) :
    key = watchpointKey state.threads
      ⟨state.manager.nextId, addr, size, access, kind, threadId⟩ ∨
      key ∈ state.watchpoints.applied := by
  obtain ⟨bp, active, keyEq⟩ := mem_desiredWatchpoints.mp wanted
  rcases (BreakpointManager.mem_active_add_iff coherent.ids.fresh bp).mp active with
    same | earlier
  · exact .inl (same ▸ keyEq.symm)
  · exact .inr (coherent.covered key (mem_desiredWatchpoints.mpr ⟨bp, earlier, keyEq⟩))

/-- A table that desires no more than the old one finds every key it desires
applied, and one synchronization keeps it so, whatever fails. -/
theorem Coherent.sync_fewer (keeps : KeptByCalls physical addWatchpoint removeWatchpoint good)
    (tracking : Tracking good calls state cursor)
    (covered : ∀ key ∈ state.desiredWatchpoints, key ∈ state.watchpoints.applied)
    (ids : state.manager.IdsBelow) (nextId : state.manager.nextId.toNat ≤ calls + 1)
    (tableEq : state.manager.breakpoints = table) :
    Coherent good calls table (state.sync cursor).2.1 (state.sync cursor).2.2 := by
  have synced := synced_sync keeps tracking (missing_length_eq_zero covered)
  have desired := desiredWatchpoints_congr _ _ (congrArg _ synced.manager) synced.threads
  constructor
  · exact synced.tracking
  · intro key wanted
    rw [desired] at wanted
    exact synced.kept key (covered key wanted) wanted
  · rw [synced.manager]
    exact ids
  · rw [synced.manager]
    exact nextId
  · rw [synced.manager]
    exact tableEq

/-- Either the breakpoint is filed and its key applied, or the table is as
before and the error names the requested address. -/
theorem Coherent.register (keeps : KeptByCalls physical addWatchpoint removeWatchpoint good)
    (coherent : Coherent good calls table state cursor) (room : calls + 2 < 2 ^ 64)
    (addr size : UInt64) (access : DataAccessMask) (kind : BreakpointKind)
    (threadId : Option UInt64) :
    let result := state.register addr size access kind threadId cursor
    (∃ id, result.1 = .ok id ∧
      Coherent good (calls + 1) (table.insert id ⟨id, addr, size, access, kind, threadId⟩)
        result.2.1 result.2.2) ∨
    (∃ source, result.1 = .error (.breakpointRegister addr source) ∧
      Coherent good (calls + 1) table result.2.1 result.2.2) := by
  have idBound := coherent.nextId
  have idRoom : state.manager.nextId.toNat + 1 < 2 ^ 64 := by omega
  have nextEq : (state.manager.nextId + 1).toNat = state.manager.nextId.toNat + 1 := by
    rw [UInt64.toNat_add]
    exact Nat.mod_eq_of_lt idRoom
  have addIds := coherent.ids.add idRoom addr size access kind threadId
  have restored := BreakpointManager.remove_add_breakpoints coherent.ids.fresh addr size access
    kind threadId
  have wantedNew := fun key (wanted : key ∈ ({ state with
      manager := (state.manager.add addr size access kind threadId).2 } :
        BreakpointState).desiredWatchpoints) => coherent.desired_add wanted
  have synced := synced_sync keeps
    (coherent.tracking.withManager (state.manager.add addr size access kind threadId).2)
    (missing_length_le_one wantedNew)
  simp only [BreakpointState.register, BreakpointManager.add_fst]
  cases first : sync
      { state with manager := (state.manager.add addr size access kind threadId).2 }
      cursor with
  | mk outcome rest =>
      obtain ⟨after, next⟩ := rest
      rw [first] at synced
      have managerEq : after.manager = (state.manager.add addr size access kind threadId).2 :=
        synced.manager
      cases outcome with
      | ok _ =>
          refine .inl ⟨state.manager.nextId, rfl, synced.tracking, ?_, ?_, ?_, ?_⟩
          · rw [desiredWatchpoints_congr _ _ (congrArg _ synced.manager) synced.threads]
            exact synced.complete rfl
          · rw [managerEq]
            exact addIds
          · rw [managerEq, BreakpointManager.nextId_add, nextEq]
            omega
          · rw [managerEq, BreakpointManager.breakpoints_add, coherent.table]
      | error error =>
          obtain ⟨key, source, errorEq, wanted, absent⟩ := synced.blamed error rfl
          have requested : key.addr = addr := by
            rcases wantedNew key wanted with same | present
            · rw [same]
              rfl
            · exact (absent present).elim
          rw [requested] at errorEq
          have breakpoints : (after.manager.remove state.manager.nextId).2.breakpoints =
              state.manager.breakpoints := by
            rw [managerEq]
            exact restored
          refine .inr ⟨source, congrArg _ errorEq, ?_⟩
          apply Coherent.sync_fewer keeps (synced.tracking.withManager _)
          · intro key wanted
            rw [desiredWatchpoints_congr
              { after with manager := (after.manager.remove state.manager.nextId).2 } state
              breakpoints synced.threads] at wanted
            obtain ⟨bp, active, keyEq⟩ := mem_desiredWatchpoints.mp wanted
            apply synced.kept key (coherent.covered key wanted)
            refine mem_desiredWatchpoints.mpr ⟨bp, ?_, keyEq⟩
            exact (BreakpointManager.mem_active_add_iff coherent.ids.fresh bp).mpr (.inr active)
          · rw [managerEq]
            exact addIds.remove _
          · rw [managerEq, BreakpointManager.nextId_remove, BreakpointManager.nextId_add, nextEq]
            omega
          · rw [← coherent.table]
            exact breakpoints

/-- Taking breakpoints out of the table keeps every remaining key applied. -/
theorem Coherent.syncRemoved
    (keeps : KeptByCalls physical addWatchpoint removeWatchpoint good)
    (coherent : Coherent good calls table state cursor) {removal : Bool × BreakpointManager}
    {rest : Std.ExtTreeMap BreakpointId Breakpoint}
    (fewer : ∀ bp ∈ removal.2.active, bp ∈ state.manager.active)
    (ids : removal.2.IdsBelow) (nextId : removal.2.nextId = state.manager.nextId)
    (restEq : removal.2.breakpoints = rest) :
    Coherent good calls rest (state.syncRemoved removal cursor).2.1
      (state.syncRemoved removal cursor).2.2 := by
  have bound := nextId ▸ coherent.nextId
  have covered : ∀ key ∈ ({ state with manager := removal.2 } :
      BreakpointState).desiredWatchpoints, key ∈ state.watchpoints.applied := by
    intro key wanted
    obtain ⟨bp, active, keyEq⟩ := mem_desiredWatchpoints.mp wanted
    exact coherent.covered key (mem_desiredWatchpoints.mpr ⟨bp, fewer bp active, keyEq⟩)
  have tracking := coherent.tracking.withManager removal.2
  unfold BreakpointState.syncRemoved
  by_cases found : removal.1
  · rw [if_pos found]
    exact Coherent.sync_fewer keeps tracking covered ids bound restEq
  · rw [if_neg found]
    exact ⟨tracking, covered, ids, bound, restEq⟩

theorem Coherent.more (coherent : Coherent good calls table state cursor) :
    Coherent good (calls + 1) table state cursor := by
  obtain ⟨adds, removes, addsEq, removesEq, balance, bound⟩ := coherent.tracking.counted
  have nextBound := coherent.nextId
  refine ⟨⟨coherent.tracking.tracks, coherent.tracking.good,
    adds, removes, addsEq, removesEq, balance, ?_⟩, coherent.covered, coherent.ids, ?_,
    coherent.table⟩ <;> omega

/-! ## Whole sequences of calls -/

/-- One call keeps the invariant, tells the client the truth and names the
requested address in its error. -/
theorem Coherent.perform (keeps : KeptByCalls physical addWatchpoint removeWatchpoint good)
    (coherent : Coherent good calls table state cursor) (room : calls + 2 < 2 ^ 64)
    (call : Call) :
    let result := state.perform cursor call
    Coherent good (calls + 1) (acknowledge table (call, result.1)) result.2.1 result.2.2 ∧
      NamesRequest (call, result.1) := by
  cases call with
  | setBreakpoint addr threadId =>
      simp only [BreakpointState.perform, setBreakpoint]
      rcases coherent.register keeps room addr 1 .execute .execute threadId with
        ⟨id, replyEq, next⟩ | ⟨source, replyEq, next⟩
      · rw [replyEq]
        exact ⟨next, by simp [NamesRequest]⟩
      · rw [replyEq]
        exact ⟨next, by simp [NamesRequest, Call.requested]⟩
  | setDataBreakpoint addr size kind =>
      simp only [BreakpointState.perform, setDataBreakpoint]
      rcases coherent.register keeps room addr size (kindAccess kind) kind none with
        ⟨id, replyEq, next⟩ | ⟨source, replyEq, next⟩
      · rw [replyEq]
        exact ⟨next, by simp [NamesRequest]⟩
      · rw [replyEq]
        exact ⟨next, by simp [NamesRequest, Call.requested]⟩
  | removeBreakpoint id =>
      refine ⟨(coherent.syncRemoved keeps ?_ (coherent.ids.remove id) rfl ?_).more, ?_⟩
      · intro bp active
        exact (BreakpointManager.mem_active_remove_iff bp).mp active |>.1
      · rw [BreakpointManager.breakpoints_remove, coherent.table]
        rfl
      · simp [NamesRequest, BreakpointState.perform]
  | removeBreakpointExact addr size access =>
      refine ⟨(coherent.syncRemoved keeps ?_ (coherent.ids.removeExact addr size access)
        rfl ?_).more, ?_⟩
      · intro bp active
        exact (BreakpointManager.mem_active_removeExact_iff bp).mp active |>.1
      · rw [BreakpointManager.breakpoints_removeExact, coherent.table]
        rfl
      · simp [NamesRequest, BreakpointState.perform]

theorem Coherent.performAll (keeps : KeptByCalls physical addWatchpoint removeWatchpoint good)
    (coherent : Coherent good calls table state cursor) (more : List Call)
    (room : calls + more.length + 1 < 2 ^ 64) :
    let result := state.performAll cursor more
    Coherent good (calls + more.length) (result.1.foldl acknowledge table)
        result.2.1 result.2.2 ∧
      ∀ exchange ∈ result.1, NamesRequest exchange := by
  induction more generalizing calls table state cursor with
  | nil => exact ⟨coherent, by simp [BreakpointState.performAll]⟩
  | cons call rest ih =>
      rw [List.length_cons] at room ⊢
      obtain ⟨next, named⟩ := coherent.perform keeps (by omega) call
      obtain ⟨final, allNamed⟩ := ih next (by omega)
      simp only [BreakpointState.performAll, List.foldl_cons, List.mem_cons]
      constructor
      · rw [Nat.add_comm rest.length 1, ← Nat.add_assoc]
        exact final
      · rintro exchange (rfl | later)
        · exact named
        · exact allNamed exchange later

theorem coherent_new {threads : ThreadTable} (initial : good cursor)
    (blank : physical cursor = ∅) : Coherent good 0 ∅ (new threads) cursor where
  tracking := ⟨blank.symm, initial, 0, 0, rfl, rfl, by simp [blank], by simp⟩
  covered := by
    intro key wanted
    obtain ⟨bp, active, -⟩ := mem_desiredWatchpoints.mp wanted
    simp [new] at active
  ids := BreakpointManager.idsBelow_new
  nextId := Nat.le_refl 1
  table := rfl

end BreakpointState

/-! ## The physical watchpoints follow the table -/

variable {C : Type} [WatchpointCursor C] [LawfulWatchpointCursor C]

/-- What a client and the cursor see after a list of exchanges. -/
structure FollowsTable (threads : ThreadTable)
    (exchanges : List (BreakpointState.Call × BreakpointState.Reply))
    (state : BreakpointState) (cursor : Recorded C) : Prop where
  /-- The registry is right about the cursor. -/
  tracks : state.watchpoints.applied = physical cursor
  /-- Every desired key is on the cursor. -/
  desired : ∀ key ∈ state.desiredWatchpoints, key ∈ physical cursor
  /-- So is the key of every breakpoint the client may count on. -/
  acknowledged : ∀ (id : BreakpointId) (bp : Breakpoint),
    (exchanges.foldl acknowledge ∅)[id]? = some bp →
      BreakpointState.watchpointKey threads bp ∈ physical cursor
  /-- No add was for a present key, no remove for an absent one. -/
  timed : cursor.WellTimed
  /-- The counters account for the watchpoints on the cursor. -/
  counted : state.watchpointStats.adds.toNat =
    state.watchpointStats.removes.toNat + (physical cursor).size
  /-- Each error names the address its call asked for. -/
  named : ∀ exchange ∈ exchanges, NamesRequest exchange

/-- The physical watchpoints follow the table through every sequence of calls,
whichever physical calls fail. -/
theorem performAll_followsTable (threads : ThreadTable) (cursor : C)
    (blank : physical cursor = ∅) (calls : List BreakpointState.Call)
    (few : calls.length < 2 ^ 64 - 1) :
    let run := (BreakpointState.new threads).performAll (Recorded.mk cursor []) calls
    FollowsTable threads run.1 run.2.1 run.2.2 := by
  have initial : BreakpointState.Coherent Recorded.WellTimed 0 ∅ (.new threads)
      (Recorded.mk cursor []) := BreakpointState.coherent_new (by simp [Recorded.WellTimed]) blank
  obtain ⟨final, named⟩ := initial.performAll Recorded.keptByCalls_wellTimed calls (by omega)
  intro run
  have catalog : run.2.1.threads = threads := BreakpointState.threads_performAll calls
  have desired : ∀ key ∈ run.2.1.desiredWatchpoints, key ∈ physical run.2.2 := by
    intro key wanted
    rw [← final.tracking.tracks]
    exact final.covered key wanted
  refine ⟨final.tracking.tracks, desired, ?_, final.tracking.good, ?_, named⟩
  · intro id bp found
    apply desired
    have filed : run.2.1.manager.breakpoints[id]? = some bp := final.table ▸ found
    have active := (BreakpointManager.mem_active_iff run.2.1.manager bp).mpr
      ((run.2.1.manager.keyed id bp filed).symm ▸ filed)
    exact BreakpointState.mem_desiredWatchpoints.mpr ⟨bp, active, by rw [catalog]⟩
  · obtain ⟨adds, removes, addsEq, removesEq, balance, bound⟩ := final.tracking.counted
    simp only [BreakpointState.watchpointStats, run, addsEq, removesEq]
    have addsRoom : adds < UInt64.size := by
      rw [UInt64.size]
      omega
    rw [UInt64.toNat_ofNat_of_lt' addsRoom, UInt64.toNat_ofNat_of_lt' (by omega)]
    exact balance

/-! ## A cursor with scripted failures -/

/-- A cursor that answers its next calls as scripted, and accepts every call
once the script is used up. -/
structure FakeCursor where
  present : WatchpointSet
  accepted : List Bool

namespace FakeCursor

/-- A call that acts on the set if it is accepted. -/
def call (act : WatchpointSet → WatchpointKey → WatchpointSet) : PhysicalCall FakeCursor :=
  fun cursor key =>
    if cursor.accepted.headD true then
      (.ok (), ⟨act cursor.present key, cursor.accepted.tail⟩)
    else (.error (.ffi "refused"), ⟨cursor.present, cursor.accepted.tail⟩)

instance : WatchpointCursor FakeCursor where
  addWatchpoint := call .insert
  removeWatchpoint := call .erase

theorem call_ok {act : WatchpointSet → WatchpointKey → WatchpointSet}
    {cursor next : FakeCursor} {key : WatchpointKey}
    (called : call act cursor key = (.ok (), next)) :
    next.present = act cursor.present key := by
  unfold call at called
  split at called
  · cases called
    rfl
  · cases called

theorem call_error {act : WatchpointSet → WatchpointKey → WatchpointSet}
    {cursor next : FakeCursor} {key : WatchpointKey} {error : TtdError}
    (called : call act cursor key = (.error error, next)) :
    next.present = cursor.present := by
  unfold call at called
  split at called
  · cases called
  · cases called
    rfl

instance : LawfulWatchpointCursor FakeCursor where
  physical := present
  lawful := {
    add_ok := fun _ _ _ => call_ok
    add_error := fun _ _ _ _ => call_error
    remove_ok := fun _ _ _ => call_ok
    remove_error := fun _ _ _ _ => call_error }

end FakeCursor

/-- A refused add, its retry, and a refused remove retried by a later `set`. -/
def failureScript : List BreakpointState.Call :=
  [.setBreakpoint 0x2000 none, .setBreakpoint 0x2000 none, .removeBreakpoint 2,
    .setDataBreakpoint 0x4000 4 .read]

theorem failureScript_followsTable :
    let run := (BreakpointState.new (.fromEngineThreads [])).performAll
      (Recorded.mk (FakeCursor.mk ∅ [false, true, false]) []) failureScript
    FollowsTable (.fromEngineThreads []) run.1 run.2.1 run.2.2 :=
  performAll_followsTable _ _ rfl failureScript (by decide)

end TtdGdbserver.Target
