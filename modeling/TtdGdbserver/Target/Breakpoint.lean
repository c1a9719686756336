import TtdGdbserver.Ttd.Types
import Std.Data.ExtTreeMap

/-!
# The logical breakpoint table

Clients' breakpoints, keyed by id and ordered by id.  A table carries the fact
that each breakpoint is filed under its own id.  The id counter wraps as the
unsigned counter of the source does.
-/

namespace TtdGdbserver.Target

open TtdGdbserver.Ttd

/-- The id of a breakpoint; 0 is none. -/
abbrev BreakpointId := UInt64

/-- What a breakpoint waits for. -/
inductive BreakpointKind where
  | execute
  | read
  | write
  /-- Read or write. -/
  | access
  deriving DecidableEq, Repr

/-- One logical breakpoint; `threadId` is an OS thread id, `none` for any
thread. -/
structure Breakpoint where
  id : BreakpointId
  addr : UInt64
  size : UInt64
  access : DataAccessMask
  kind : BreakpointKind
  threadId : Option UInt64
  deriving DecidableEq, Repr

/-- `u64::saturating_add`. -/
def saturatingAdd (a b : UInt64) : UInt64 :=
  if a.toNat + b.toNat < 2 ^ 64 then a + b else UInt64.ofNat (2 ^ 64 - 1)

theorem toNat_saturatingAdd (a b : UInt64) :
    (saturatingAdd a b).toNat = min (a.toNat + b.toNat) (2 ^ 64 - 1) := by
  unfold saturatingAdd
  split
  · rename_i fits
    rw [UInt64.toNat_add, Nat.mod_eq_of_lt fits]
    omega
  · have top : (UInt64.ofNat (2 ^ 64 - 1)).toNat = 2 ^ 64 - 1 := by decide
    omega

/-- Breakpoints ordered by id, and the id of the next one. -/
structure BreakpointManager where
  breakpoints : Std.ExtTreeMap BreakpointId Breakpoint
  nextId : BreakpointId
  keyed : ∀ (id : BreakpointId) (bp : Breakpoint), breakpoints[id]? = some bp → bp.id = id

namespace BreakpointManager

/-- `BreakpointManager::new`. -/
def new : BreakpointManager where
  breakpoints := ∅
  nextId := 1
  keyed := by simp

/-- File a breakpoint under the next id and return that id. -/
def add (manager : BreakpointManager) (addr size : UInt64) (access : DataAccessMask)
    (kind : BreakpointKind) (threadId : Option UInt64) : BreakpointId × BreakpointManager :=
  let id := manager.nextId
  (id,
    { breakpoints := manager.breakpoints.insert id ⟨id, addr, size, access, kind, threadId⟩
      nextId := manager.nextId + 1
      keyed := by
        intro other bp found
        rw [Std.ExtTreeMap.getElem?_insert] at found
        split at found
        · rename_i same
          rw [Std.LawfulEqOrd.compare_eq_iff_eq] at same
          cases found
          exact same
        · exact manager.keyed other bp found })

/-- Remove one id; the result says whether it was there. -/
def remove (manager : BreakpointManager) (id : BreakpointId) : Bool × BreakpointManager :=
  (manager.breakpoints[id]?.isSome,
    { manager with
      breakpoints := manager.breakpoints.erase id
      keyed := by
        intro other bp found
        rw [Std.ExtTreeMap.getElem?_erase] at found
        split at found
        · contradiction
        · exact manager.keyed other bp found })

/-- Whether a breakpoint sits at exactly this `(addr, size, access)` triple. -/
def atTriple (addr size : UInt64) (access : DataAccessMask) (bp : Breakpoint) : Bool :=
  bp.addr == addr && bp.size == size && bp.access == access

/-- Remove every breakpoint at this exact triple, whatever its thread filter. -/
def removeExact (manager : BreakpointManager) (addr size : UInt64) (access : DataAccessMask) :
    Bool × BreakpointManager :=
  let before := manager.breakpoints.size
  let kept := manager.breakpoints.filter fun _ bp => !atTriple addr size access bp
  (kept.size != before,
    { manager with
      breakpoints := kept
      keyed := by
        intro other bp found
        rw [Std.ExtTreeMap.getElem?_filter'] at found
        exact manager.keyed other bp (Option.filter_eq_some_iff.mp found).1 })

/-- `BreakpointManager::get`. -/
def get (manager : BreakpointManager) (id : BreakpointId) : Option Breakpoint :=
  manager.breakpoints[id]?

/-- All breakpoints, in ascending id order. -/
def active (manager : BreakpointManager) : List Breakpoint :=
  manager.breakpoints.toList.map Prod.snd

/-- Whether a hit concerns a breakpoint.  The access masks must intersect; an
execution breakpoint then wants its exact address, a data breakpoint an
overlap of the byte ranges, whose ends saturate. -/
def matchesAddr (addr size : UInt64) (access : DataAccessMask) (bp : Breakpoint) : Bool :=
  if !bp.access.intersects access then false
  else if bp.kind = .execute then addr == bp.addr
  else
    let bpEnd := saturatingAdd bp.addr bp.size
    let hitEnd := saturatingAdd addr (max size 1)
    decide (addr < bpEnd) && decide (bp.addr < hitEnd)

/-- The breakpoint a hit belongs to: the lowest matching id among those
restricted to the hitting thread, else the lowest among the unrestricted. -/
def findByWatchpointHitAndThread (manager : BreakpointManager) (addr size : UInt64)
    (access : DataAccessMask) (threadId : UInt64) : Option Breakpoint :=
  let candidates := manager.active.filter (matchesAddr addr size access)
  (candidates.find? fun bp => bp.threadId == some threadId).or
    (candidates.find? fun bp => bp.threadId == none)

section Fields

variable (manager : BreakpointManager) (addr size : UInt64) (access : DataAccessMask)
  (kind : BreakpointKind) (threadId : Option UInt64) (id : BreakpointId)

@[simp]
theorem add_fst : (manager.add addr size access kind threadId).1 = manager.nextId :=
  rfl

@[simp]
theorem nextId_add :
    (manager.add addr size access kind threadId).2.nextId = manager.nextId + 1 :=
  rfl

@[simp]
theorem breakpoints_add :
    (manager.add addr size access kind threadId).2.breakpoints =
      manager.breakpoints.insert manager.nextId
        ⟨manager.nextId, addr, size, access, kind, threadId⟩ :=
  rfl

@[simp]
theorem nextId_remove : (manager.remove id).2.nextId = manager.nextId :=
  rfl

@[simp]
theorem breakpoints_remove :
    (manager.remove id).2.breakpoints = manager.breakpoints.erase id :=
  rfl

@[simp]
theorem nextId_removeExact : (manager.removeExact addr size access).2.nextId = manager.nextId :=
  rfl

@[simp]
theorem breakpoints_removeExact :
    (manager.removeExact addr size access).2.breakpoints =
      manager.breakpoints.filter fun _ bp => !atTriple addr size access bp :=
  rfl

end Fields

/-! ## The table as a set of breakpoints -/

@[simp]
theorem active_new : new.active = [] := by
  decide

/-- The active breakpoints are the filed ones. -/
theorem mem_active_iff (manager : BreakpointManager) (bp : Breakpoint) :
    bp ∈ manager.active ↔ manager.breakpoints[bp.id]? = some bp := by
  simp only [active, List.mem_map, Prod.exists, exists_eq_right,
    Std.ExtTreeMap.mem_toList_iff_getElem?_eq_some]
  constructor
  · rintro ⟨id, found⟩
    have same := manager.keyed id bp found
    rwa [same]
  · intro found
    exact ⟨bp.id, found⟩

theorem mem_active_add_iff {manager : BreakpointManager} {addr size : UInt64}
    {access : DataAccessMask} {kind : BreakpointKind} {threadId : Option UInt64}
    (fresh : manager.breakpoints[manager.nextId]? = none) (bp : Breakpoint) :
    bp ∈ (manager.add addr size access kind threadId).2.active ↔
      bp = ⟨manager.nextId, addr, size, access, kind, threadId⟩ ∨ bp ∈ manager.active := by
  simp only [mem_active_iff, breakpoints_add, Std.ExtTreeMap.getElem?_insert,
    Std.LawfulEqOrd.compare_eq_iff_eq]
  by_cases same : manager.nextId = bp.id
  · simp only [same, if_true, Option.some.injEq]
    constructor
    · intro filed
      exact .inl filed.symm
    · rintro (filed | found)
      · exact filed.symm
      · rw [← same, fresh] at found
        contradiction
  · simp only [same, if_false]
    constructor
    · exact .inr
    · rintro (rfl | found)
      · exact (same rfl).elim
      · exact found

theorem mem_active_remove_iff {manager : BreakpointManager} {id : BreakpointId}
    (bp : Breakpoint) :
    bp ∈ (manager.remove id).2.active ↔ bp ∈ manager.active ∧ bp.id ≠ id := by
  simp only [mem_active_iff, breakpoints_remove, Std.ExtTreeMap.getElem?_erase,
    Std.LawfulEqOrd.compare_eq_iff_eq]
  by_cases same : id = bp.id
  · simp [same]
  · simp [same, Ne.symm same]

theorem mem_active_removeExact_iff {manager : BreakpointManager} {addr size : UInt64}
    {access : DataAccessMask} (bp : Breakpoint) :
    bp ∈ (manager.removeExact addr size access).2.active ↔
      bp ∈ manager.active ∧ atTriple addr size access bp = false := by
  simp only [mem_active_iff, breakpoints_removeExact, Std.ExtTreeMap.getElem?_filter',
    Option.filter_eq_some_iff, Bool.not_eq_true']

/-- Taking back a fresh id restores the table. -/
theorem remove_add_breakpoints {manager : BreakpointManager}
    (fresh : manager.breakpoints[manager.nextId]? = none) (addr size : UInt64)
    (access : DataAccessMask) (kind : BreakpointKind) (threadId : Option UInt64) :
    (((manager.add addr size access kind threadId).2.remove
        (manager.add addr size access kind threadId).1).2).breakpoints =
      manager.breakpoints := by
  apply Std.ExtTreeMap.ext_getElem?
  intro id
  simp only [breakpoints_remove, breakpoints_add, add_fst, Std.ExtTreeMap.getElem?_erase,
    Std.ExtTreeMap.getElem?_insert, Std.LawfulEqOrd.compare_eq_iff_eq]
  by_cases same : manager.nextId = id
  · simp [← same, fresh]
  · simp [same]

/-! ## Fresh ids -/

/-- Every filed id lies below the counter, which is past the reserved id 0. -/
structure IdsBelow (manager : BreakpointManager) : Prop where
  positive : 0 < manager.nextId.toNat
  below : ∀ (id : BreakpointId) (bp : Breakpoint), manager.breakpoints[id]? = some bp →
    0 < id.toNat ∧ id.toNat < manager.nextId.toNat

theorem idsBelow_new : IdsBelow new where
  positive := by decide
  below := by simp [new]

theorem IdsBelow.fresh {manager : BreakpointManager} (ids : IdsBelow manager) :
    manager.breakpoints[manager.nextId]? = none := by
  cases found : manager.breakpoints[manager.nextId]? with
  | none => rfl
  | some bp =>
      have bound := (ids.below manager.nextId bp found).2
      omega

theorem IdsBelow.add {manager : BreakpointManager} (ids : IdsBelow manager)
    (room : manager.nextId.toNat + 1 < 2 ^ 64) (addr size : UInt64) (access : DataAccessMask)
    (kind : BreakpointKind) (threadId : Option UInt64) :
    IdsBelow (manager.add addr size access kind threadId).2 := by
  have next : (manager.nextId + 1).toNat = manager.nextId.toNat + 1 := by
    rw [UInt64.toNat_add]
    exact Nat.mod_eq_of_lt room
  constructor
  · rw [nextId_add, next]
    omega
  · intro id bp found
    simp only [breakpoints_add, Std.ExtTreeMap.getElem?_insert,
      Std.LawfulEqOrd.compare_eq_iff_eq] at found
    rw [nextId_add, next]
    split at found
    · rename_i same
      have positive := ids.positive
      rw [← same]
      omega
    · have bound := ids.below id bp found
      omega

theorem IdsBelow.remove {manager : BreakpointManager} (ids : IdsBelow manager)
    (id : BreakpointId) : IdsBelow (manager.remove id).2 where
  positive := ids.positive
  below := by
    intro other bp found
    rw [breakpoints_remove, Std.ExtTreeMap.getElem?_erase] at found
    split at found
    · contradiction
    · exact ids.below other bp found

theorem IdsBelow.removeExact {manager : BreakpointManager} (ids : IdsBelow manager)
    (addr size : UInt64) (access : DataAccessMask) :
    IdsBelow (manager.removeExact addr size access).2 where
  positive := ids.positive
  below := by
    intro other bp found
    rw [breakpoints_removeExact, Std.ExtTreeMap.getElem?_filter'] at found
    exact ids.below other bp (Option.filter_eq_some_iff.mp found).1

end BreakpointManager

end TtdGdbserver.Target
