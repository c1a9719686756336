import TtdGdbserver.Target.Breakpoint
import TtdGdbserver.Target.Error
import TtdGdbserver.Target.Threads
import TtdGdbserver.Target.Watchpoint
import TtdGdbserver.Ttd.Cursor

/-!
# Logical breakpoints and their physical watchpoints

Each operation edits the logical table and then synchronizes the physical
watchpoints of the cursor it is given.
-/

namespace TtdGdbserver.Target

open TtdGdbserver.Ttd

/-- The slice of cursor functionality `BreakpointState` needs. -/
class WatchpointCursor (C : Type) where
  addWatchpoint : PhysicalCall C
  removeWatchpoint : PhysicalCall C

export WatchpointCursor (addWatchpoint removeWatchpoint)

/-- A physical call on a replay cursor: unsafe ranges are refused here, the
rest is up to the SDK. -/
def guardedWatchpointCall {σ : Type} (op : String)
    (call : ReplayCursor σ → UInt64 → UInt64 → DataAccessMask → UInt32 → Bool × ReplayCursor σ) :
    PhysicalCall (ReplayCursor σ) :=
  fun cursor key =>
    if !validWatchpointRange key.addr key.size then
      (.error (.invalidWatchpoint key.addr key.size), cursor)
    else
      let (accepted, cursor) := call cursor key.addr key.size key.access key.tid
      if accepted then (.ok (), cursor)
      else (.error (.watchpoint op key.addr key.size key.access), cursor)

instance {σ : Type} [SdkCursor σ] : WatchpointCursor (ReplayCursor σ) where
  addWatchpoint := guardedWatchpointCall "add_watchpoint" ReplayCursor.watchpoint
  removeWatchpoint := guardedWatchpointCall "remove_watchpoint" ReplayCursor.removeWatchpoint

/-- The physical watchpoint calls that were made. -/
structure WatchpointStats where
  adds : UInt64
  removes : UInt64
  deriving DecidableEq, Repr

/-- The logical table, the registry of the physical watchpoints, the thread
catalog and the counters of successful physical calls. -/
structure BreakpointState where
  manager : BreakpointManager
  watchpoints : WatchpointRegistry
  threads : ThreadTable
  watchpointAdds : UInt64
  watchpointRemoves : UInt64

namespace BreakpointState

/-- `BreakpointState::new`. -/
def new (threads : ThreadTable) : BreakpointState where
  manager := .new
  watchpoints := .new
  threads := threads
  watchpointAdds := 0
  watchpointRemoves := 0

/-- `BreakpointState::watchpoint_stats`. -/
def watchpointStats (state : BreakpointState) : WatchpointStats :=
  ⟨state.watchpointAdds, state.watchpointRemoves⟩

/-- The breakpoint a watchpoint hit belongs to. -/
def findByWatchpointHitAndThread (state : BreakpointState) (addr size : UInt64)
    (access : DataAccessMask) (threadId : UInt64) : Option Breakpoint :=
  state.manager.findByWatchpointHitAndThread addr size access threadId

/-- `BreakpointState::get`. -/
def get (state : BreakpointState) (id : BreakpointId) : Option Breakpoint :=
  state.manager.get id

/-- The physical watchpoint of a breakpoint.  A thread filter that is unknown,
or too wide for an OS tid, degrades to any thread. -/
def watchpointKey (threads : ThreadTable) (bp : Breakpoint) : WatchpointKey where
  addr := bp.addr
  size := bp.size
  access := bp.access
  tid := ((bp.threadId.bind u32TryFrom).bind threads.uidForOsTid).getD 0

/-- The physical watchpoints implied by the logical table. -/
def desiredWatchpoints (state : BreakpointState) : WatchpointSet :=
  .ofList (state.manager.active.map (watchpointKey state.threads))

section Operations

variable {C : Type} [WatchpointCursor C]

/-- Synchronize the cursor with the table; the first add failure is the
result. -/
def sync (state : BreakpointState) (cursor : C) :
    Except DebugError Unit × BreakpointState × C :=
  let synced := state.watchpoints.sync state.desiredWatchpoints addWatchpoint
    removeWatchpoint cursor
  let outcome := match synced.firstAddError with
    | some error => .error (.breakpointRegister error.key.addr error.source)
    | none => .ok ()
  (outcome,
    { state with
      watchpoints := ⟨synced.applied⟩
      watchpointAdds := state.watchpointAdds + synced.report.added
      watchpointRemoves := state.watchpointRemoves + synced.report.removed },
    synced.sink)

/-- The common body of the two `set` calls: file the breakpoint, synchronize,
and on a failed add take it back and synchronize again. -/
def register (state : BreakpointState) (addr size : UInt64) (access : DataAccessMask)
    (kind : BreakpointKind) (threadId : Option UInt64) (cursor : C) :
    Except DebugError BreakpointId × BreakpointState × C :=
  let (id, manager) := state.manager.add addr size access kind threadId
  match sync { state with manager := manager } cursor with
  | (.ok _, state, cursor) => (.ok id, state, cursor)
  | (.error error, state, cursor) =>
      let (_, manager) := state.manager.remove id
      let (_, state, cursor) := sync { state with manager := manager } cursor
      (.error error, state, cursor)

/-- Add an execution breakpoint. -/
def setBreakpoint (state : BreakpointState) (addr : UInt64) (threadId : Option UInt64)
    (cursor : C) : Except DebugError BreakpointId × BreakpointState × C :=
  state.register addr 1 .execute .execute threadId cursor

/-- The access mask of a breakpoint kind. -/
def kindAccess : BreakpointKind → DataAccessMask
  | .execute => .execute
  | .read => .read
  | .write => .write
  | .access => .readWrite

/-- Add a data watchpoint. -/
def setDataBreakpoint (state : BreakpointState) (addr size : UInt64) (kind : BreakpointKind)
    (cursor : C) : Except DebugError BreakpointId × BreakpointState × C :=
  state.register addr size (kindAccess kind) kind none cursor

/-- The common tail of the two `remove` calls: synchronize if something was
removed, whatever the outcome. -/
def syncRemoved (state : BreakpointState) (removal : Bool × BreakpointManager) (cursor : C) :
    Bool × BreakpointState × C :=
  let state := { state with manager := removal.2 }
  if removal.1 then (true, (state.sync cursor).2) else (false, state, cursor)

/-- Remove one logical breakpoint. -/
def removeBreakpoint (state : BreakpointState) (id : BreakpointId) (cursor : C) :
    Bool × BreakpointState × C :=
  state.syncRemoved (state.manager.remove id) cursor

/-- Remove every logical breakpoint at one triple. -/
def removeBreakpointExact (state : BreakpointState) (addr size : UInt64)
    (access : DataAccessMask) (cursor : C) : Bool × BreakpointState × C :=
  state.syncRemoved (state.manager.removeExact addr size access) cursor

end Operations

/-! ## Calls as data -/

/-- A call of one of the four operations. -/
inductive Call where
  | setBreakpoint (addr : UInt64) (threadId : Option UInt64)
  | setDataBreakpoint (addr size : UInt64) (kind : BreakpointKind)
  | removeBreakpoint (id : BreakpointId)
  | removeBreakpointExact (addr size : UInt64) (access : DataAccessMask)
  deriving DecidableEq, Repr

/-- What a call returns. -/
inductive Reply where
  | set (result : Except DebugError BreakpointId)
  | removed (found : Bool)

variable {C : Type} [WatchpointCursor C]

/-- A call, with what it replies and the cursor it leaves. -/
def perform (state : BreakpointState) (cursor : C) : Call → Reply × BreakpointState × C
  | .setBreakpoint addr threadId =>
      let (result, next) := state.setBreakpoint addr threadId cursor
      (.set result, next)
  | .setDataBreakpoint addr size kind =>
      let (result, next) := state.setDataBreakpoint addr size kind cursor
      (.set result, next)
  | .removeBreakpoint id =>
      let (found, next) := state.removeBreakpoint id cursor
      (.removed found, next)
  | .removeBreakpointExact addr size access =>
      let (found, next) := state.removeBreakpointExact addr size access cursor
      (.removed found, next)

/-- Perform the calls in order and collect them with their replies. -/
def performAll (state : BreakpointState) (cursor : C) :
    List Call → List (Call × Reply) × BreakpointState × C
  | [] => ([], state, cursor)
  | call :: calls =>
      let (reply, state, cursor) := state.perform cursor call
      let (exchanges, final) := performAll state cursor calls
      ((call, reply) :: exchanges, final)

/-! ## The catalog never changes -/

section Catalog

variable {state : BreakpointState} {cursor : C}

@[simp]
theorem threads_sync : (state.sync cursor).2.1.threads = state.threads :=
  rfl

@[simp]
theorem threads_register {addr size : UInt64} {access : DataAccessMask}
    {kind : BreakpointKind} {threadId : Option UInt64} :
    (state.register addr size access kind threadId cursor).2.1.threads = state.threads := by
  simp only [register]
  cases first : sync
      { state with manager := (state.manager.add addr size access kind threadId).2 }
      cursor with
  | mk outcome rest =>
      have kept : rest.1.threads = state.threads := by
        rw [← congrArg (fun result => result.2.1.threads) first, threads_sync]
      cases outcome with
      | ok => exact kept
      | error => rw [threads_sync, kept]

@[simp]
theorem threads_syncRemoved {removal : Bool × BreakpointManager} :
    (state.syncRemoved removal cursor).2.1.threads = state.threads := by
  unfold syncRemoved
  split <;> rfl

theorem threads_perform (call : Call) :
    (state.perform cursor call).2.1.threads = state.threads := by
  cases call with
  | setBreakpoint => exact threads_register
  | setDataBreakpoint => exact threads_register
  | removeBreakpoint => exact threads_syncRemoved
  | removeBreakpointExact => exact threads_syncRemoved

theorem threads_performAll (calls : List Call) :
    (state.performAll cursor calls).2.1.threads = state.threads := by
  induction calls generalizing state cursor with
  | nil => rfl
  | cons call rest ih => exact ih.trans (threads_perform call)

end Catalog

/-! ## What no physical call disturbs -/

section Undisturbed

variable {state : BreakpointState} {cursor : C} {good : C → Prop}

theorem sync_undisturbed
    (adds : ∀ (cursor : C) key, good cursor → good (addWatchpoint cursor key).2)
    (removes : ∀ (cursor : C) key, good cursor → good (removeWatchpoint cursor key).2)
    (initial : good cursor) : good (state.sync cursor).2.2 :=
  state.watchpoints.sync_undisturbed adds removes _ initial

theorem register_undisturbed
    (adds : ∀ (cursor : C) key, good cursor → good (addWatchpoint cursor key).2)
    (removes : ∀ (cursor : C) key, good cursor → good (removeWatchpoint cursor key).2)
    (initial : good cursor) {addr size : UInt64} {access : DataAccessMask}
    {kind : BreakpointKind} {threadId : Option UInt64} :
    good (state.register addr size access kind threadId cursor).2.2 := by
  simp only [register]
  have synced : good (sync
      { state with manager := (state.manager.add addr size access kind threadId).2 }
      cursor).2.2 := sync_undisturbed adds removes initial
  cases first : sync
      { state with manager := (state.manager.add addr size access kind threadId).2 }
      cursor with
  | mk outcome rest =>
      rw [first] at synced
      cases outcome with
      | ok => exact synced
      | error => exact sync_undisturbed adds removes synced

theorem syncRemoved_undisturbed
    (adds : ∀ (cursor : C) key, good cursor → good (addWatchpoint cursor key).2)
    (removes : ∀ (cursor : C) key, good cursor → good (removeWatchpoint cursor key).2)
    (initial : good cursor) {removal : Bool × BreakpointManager} :
    good (state.syncRemoved removal cursor).2.2 := by
  unfold syncRemoved
  split
  · exact sync_undisturbed adds removes initial
  · exact initial

/-- The breakpoint operations leave alone whatever no physical call disturbs. -/
theorem perform_undisturbed (good : C → Prop)
    (adds : ∀ (cursor : C) key, good cursor → good (addWatchpoint cursor key).2)
    (removes : ∀ (cursor : C) key, good cursor → good (removeWatchpoint cursor key).2)
    (initial : good cursor) (call : Call) : good (state.perform cursor call).2.2 := by
  cases call with
  | setBreakpoint => exact register_undisturbed adds removes initial
  | setDataBreakpoint => exact register_undisturbed adds removes initial
  | removeBreakpoint => exact syncRemoved_undisturbed adds removes initial
  | removeBreakpointExact => exact syncRemoved_undisturbed adds removes initial

end Undisturbed

end BreakpointState

end TtdGdbserver.Target
