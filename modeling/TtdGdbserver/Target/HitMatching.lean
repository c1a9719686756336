import TtdGdbserver.Target.Registration

/-!
# Which breakpoint a hit belongs to

The matcher of the table compares saturating 64-bit range ends.  On the ranges
that the table admits it decides whether two byte ranges of unbounded arithmetic
have a byte in common, and its two scans pick one breakpoint by id.
-/

namespace TtdGdbserver.Target

open TtdGdbserver.Transition TtdGdbserver.Ttd

/-! ## The first match of a sorted list -/

/-- In a list with strictly ascending keys the first match is the match with the
least key. -/
theorem find?_eq_some_iff_least {β : Type*} {κ : Type*} [LE κ] [LT κ]
    [Std.IsPreorder κ] [Std.LawfulOrderLT κ] {key : β → κ} {items : List β}
    (ascending : (items.map key).Pairwise (· < ·)) (p : β → Bool) (item : β) :
    items.find? p = some item ↔
      item ∈ items ∧ p item = true ∧
        ∀ other ∈ items, p other = true → key item ≤ key other := by
  induction items with
  | nil => simp
  | cons first rest ih =>
      rw [List.map_cons, List.pairwise_cons] at ascending
      obtain ⟨before, later⟩ := ascending
      have above (other : β) (mem : other ∈ rest) : key first < key other :=
        before (key other) (List.mem_map_of_mem mem)
      cases matches_ : p first with
      | true =>
          rw [List.find?_cons_of_pos matches_]
          constructor
          · intro found
            cases found
            refine ⟨List.mem_cons_self .., matches_, fun other mem _ => ?_⟩
            rcases List.mem_cons.mp mem with rfl | mem
            · exact Std.le_refl _
            · exact Std.le_of_lt (above other mem)
          · rintro ⟨mem, _, least⟩
            have low := least first (List.mem_cons_self ..) matches_
            rcases List.mem_cons.mp mem with rfl | mem
            · rfl
            · exact absurd low (Std.not_le_of_gt (above item mem))
      | false =>
          have skip : ¬ p first = true := by simp [matches_]
          rw [List.find?_cons_of_neg skip, ih later]
          constructor
          · rintro ⟨mem, holds, least⟩
            refine ⟨List.mem_cons_of_mem _ mem, holds, fun other otherMem otherHolds => ?_⟩
            rcases List.mem_cons.mp otherMem with rfl | otherMem
            · exact absurd otherHolds skip
            · exact least other otherMem otherHolds
          · rintro ⟨mem, holds, least⟩
            refine ⟨?_, holds, fun other otherMem => least other (List.mem_cons_of_mem _ otherMem)⟩
            rcases List.mem_cons.mp mem with rfl | mem
            · exact absurd holds skip
            · exact mem

/-! ## Matching in unbounded arithmetic -/

/-- A byte lies in the range and in the hit; an empty hit counts as one byte. -/
def SharesByte (rangeAddr rangeSize addr size : UInt64) : Prop :=
  ∃ byte : Nat, (rangeAddr.toNat ≤ byte ∧ byte < rangeAddr.toNat + rangeSize.toNat) ∧
    addr.toNat ≤ byte ∧ byte < addr.toNat + max size.toNat 1

/-- Two ranges share a byte when the greater start lies below the lesser end. -/
theorem meets_iff_sharesByte (rangeAddr rangeSize addr size : UInt64) :
    Meets rangeAddr rangeSize addr size ↔ SharesByte rangeAddr rangeSize addr size := by
  rw [Meets, SharesByte, toNat_max_one]
  constructor
  · intro below
    refine ⟨max rangeAddr.toNat addr.toNat, ⟨?_, ?_⟩, ?_, ?_⟩ <;> omega
  · rintro ⟨byte, ⟨_, _⟩, _, _⟩
    omega

/-- The place and the access of a hit fit the breakpoint. -/
def Fits (addr size : UInt64) (access : DataAccessMask) (bp : Breakpoint) : Prop :=
  bp.access.intersects access = true ∧
    if bp.kind = .execute then addr = bp.addr else SharesByte bp.addr bp.size addr size

namespace BreakpointManager

/-! ## Tables -/

/-- A call of the table's client. -/
inductive TableCall where
  | add (addr size : UInt64) (access : DataAccessMask) (kind : BreakpointKind)
      (threadId : Option UInt64)
  | remove (id : BreakpointId)
  | removeExact (addr size : UInt64) (access : DataAccessMask)

/-- The range of an added data breakpoint is one that the cursor can take. -/
def TableCall.Proper : TableCall → Prop
  | .add addr size _ kind _ => kind ≠ .execute → validWatchpointRange addr size = true
  | _ => True

instance : (call : TableCall) → Decidable call.Proper
  | .add addr size _ kind _ =>
      inferInstanceAs (Decidable (kind ≠ .execute → validWatchpointRange addr size = true))
  | .remove _ => .isTrue trivial
  | .removeExact _ _ _ => .isTrue trivial

/-- One call of the table. -/
def tableStep : LStep BreakpointManager TableCall :=
  fun manager call => some <|
    match call with
    | .add addr size access kind threadId => (manager.add addr size access kind threadId).2
    | .remove id => (manager.remove id).2
    | .removeExact addr size access => (manager.removeExact addr size access).2

/-- Every data breakpoint of the table has a valid range. -/
def ValidRanges (manager : BreakpointManager) : Prop :=
  ∀ (id : BreakpointId) (bp : Breakpoint), manager.breakpoints[id]? = some bp →
    bp.kind ≠ .execute → validWatchpointRange bp.addr bp.size = true

theorem ValidRanges.tableStep {manager next : BreakpointManager} {call : TableCall}
    (valid : ValidRanges manager) (proper : call.Proper)
    (stepEq : tableStep manager call = some next) : ValidRanges next := by
  cases stepEq
  intro id bp found
  cases call with
  | add addr size access kind threadId =>
      rw [breakpoints_add, Std.ExtTreeMap.getElem?_insert] at found
      split at found
      · cases found
        exact proper
      · exact valid id bp found
  | remove removed =>
      rw [breakpoints_remove, Std.ExtTreeMap.getElem?_erase] at found
      split at found
      · contradiction
      · exact valid id bp found
  | removeExact addr size access =>
      rw [breakpoints_removeExact, Std.ExtTreeMap.getElem?_filter'] at found
      exact valid id bp (Option.filter_eq_some_iff.mp found).1

theorem validRanges_of_run {calls : List TableCall} {manager : BreakpointManager}
    (run : Run tableStep (fun _ call => call.Proper) new calls manager) :
    ValidRanges manager :=
  run.invariant (by simp [ValidRanges, new]) fun valid proper stepEq =>
    valid.tableStep proper stepEq

/-- The scans go through the table by ascending ids. -/
theorem ascending_active (manager : BreakpointManager) :
    (manager.active.map Breakpoint.id).Pairwise (· < ·) := by
  have ordered : (manager.breakpoints.toList.map Prod.fst).Pairwise (· < ·) := by
    rw [List.pairwise_map]
    exact Std.ExtTreeMap.ordered_keys_toList.imp fun below =>
      Std.compare_eq_lt.mp below
  have ids : manager.active.map Breakpoint.id = manager.breakpoints.toList.map Prod.fst := by
    rw [active, List.map_map]
    apply List.map_congr_left
    rintro ⟨id, bp⟩ mem
    exact manager.keyed id bp (Std.ExtTreeMap.mem_toList_iff_getElem?_eq_some.mp mem)
  rw [ids]
  exact ordered

/-! ## The choice -/

theorem matchesAddr_iff_fits {addr size : UInt64} {access : DataAccessMask} {bp : Breakpoint}
    (valid : bp.kind ≠ .execute → validWatchpointRange bp.addr bp.size = true) :
    matchesAddr addr size access bp = true ↔ Fits addr size access bp := by
  by_cases execute : bp.kind = .execute
  · unfold matchesAddr Fits
    rw [if_pos execute, if_pos execute]
    cases bp.access.intersects access <;> simp
  · rw [matchesAddr_iff (valid execute), if_neg execute, meets_iff_sharesByte, Fits,
      if_neg execute]

/-- The breakpoint fits the hit and has the least id of those with its thread
filter that do. -/
structure LeastFit (manager : BreakpointManager) (addr size : UInt64) (access : DataAccessMask)
    (filter : Option UInt64) (bp : Breakpoint) : Prop where
  active : bp ∈ manager.active
  threadId : bp.threadId = filter
  fits : Fits addr size access bp
  least : ∀ other ∈ manager.active, other.threadId = filter → Fits addr size access other →
    bp.id ≤ other.id

/-- One scan picks the least fit with its filter. -/
theorem find?_filter_eq_some_iff {manager : BreakpointManager} (valid : ValidRanges manager)
    (addr size : UInt64) (access : DataAccessMask) (filter : Option UInt64)
    (bp : Breakpoint) :
    ((manager.active.filter (matchesAddr addr size access)).find? fun bp =>
        bp.threadId == filter) = some bp ↔
      LeastFit manager addr size access filter bp := by
  have fits (other : Breakpoint) (mem : other ∈ manager.active) :
      matchesAddr addr size access other = true ↔ Fits addr size access other :=
    matchesAddr_iff_fits (valid other.id other ((manager.mem_active_iff other).mp mem))
  rw [List.find?_filter, find?_eq_some_iff_least (ascending_active manager)]
  simp only [decide_eq_true_eq, beq_iff_eq]
  constructor
  · rintro ⟨mem, ⟨matches_, filtered⟩, least⟩
    refine ⟨mem, filtered, (fits bp mem).mp matches_, ?_⟩
    intro other otherMem otherFiltered otherFits
    exact least other otherMem ⟨(fits other otherMem).mpr otherFits, otherFiltered⟩
  · intro leastFit
    refine ⟨leastFit.active, ⟨(fits bp leastFit.active).mpr leastFit.fits, leastFit.threadId⟩, ?_⟩
    rintro other mem ⟨otherMatches, otherFiltered⟩
    exact leastFit.least other mem otherFiltered ((fits other mem).mp otherMatches)

/-- A scan finds nothing when nothing with its filter fits. -/
theorem find?_filter_eq_none_iff {manager : BreakpointManager} (valid : ValidRanges manager)
    (addr size : UInt64) (access : DataAccessMask) (filter : Option UInt64) :
    ((manager.active.filter (matchesAddr addr size access)).find? fun bp =>
        bp.threadId == filter) = none ↔
      ∀ bp ∈ manager.active, bp.threadId = filter → ¬ Fits addr size access bp := by
  simp only [List.find?_eq_none, List.mem_filter, beq_iff_eq, and_imp]
  refine forall₂_congr fun bp mem => ?_
  rw [matchesAddr_iff_fits (valid bp.id bp ((manager.mem_active_iff bp).mp mem))]
  exact forall_comm

/-- A hit is matched exactly when a breakpoint for the thread or for every
thread fits it.  The answer is the least fit restricted to the thread, and the
least unrestricted one where there is none. -/
theorem findByWatchpointHitAndThread_exact {calls : List TableCall}
    {manager : BreakpointManager}
    (run : Run tableStep (fun _ call => call.Proper) new calls manager)
    (addr size : UInt64) (access : DataAccessMask) (threadId : UInt64) :
    ((manager.findByWatchpointHitAndThread addr size access threadId).isSome = true ↔
      ∃ bp ∈ manager.active, (bp.threadId = none ∨ bp.threadId = some threadId) ∧
        Fits addr size access bp) ∧
    ∀ bp, manager.findByWatchpointHitAndThread addr size access threadId = some bp ↔
      LeastFit manager addr size access (some threadId) bp ∨
        (∀ other ∈ manager.active, other.threadId = some threadId →
          ¬ Fits addr size access other) ∧
        LeastFit manager addr size access none bp := by
  have valid := validRanges_of_run run
  constructor
  · rw [Option.isSome_iff_ne_none, findByWatchpointHitAndThread, ne_eq, Option.or_eq_none_iff,
      find?_filter_eq_none_iff valid, find?_filter_eq_none_iff valid]
    constructor
    · intro fails
      by_contra nothing
      refine fails ⟨?_, ?_⟩ <;> intro bp mem filtered fits
      · exact nothing ⟨bp, mem, .inr filtered, fits⟩
      · exact nothing ⟨bp, mem, .inl filtered, fits⟩
    · rintro ⟨bp, mem, unrestricted | restricted, fits⟩ ⟨noneRestricted, noneUnrestricted⟩
      · exact noneUnrestricted bp mem unrestricted fits
      · exact noneRestricted bp mem restricted fits
  · intro bp
    simp only [findByWatchpointHitAndThread, Option.or_eq_some_iff,
      find?_filter_eq_some_iff valid, find?_filter_eq_none_iff valid]

/-- Two watchpoints that cover one byte, the later one for thread 7, and one that
is gone again. -/
def layeredCalls : List TableCall :=
  [.add 0x1000 8 .readWrite .access none, .add 0xffc 8 .write .write (some 7),
    .add 0x1003 1 .write .write (some 7), .remove 3]

theorem layeredCalls_match :
    ∃ manager bp, Run tableStep (fun _ call => call.Proper) new layeredCalls manager ∧
      manager.findByWatchpointHitAndThread 0x1003 0 .write 7 = some bp ∧ bp.id = 2 ∧
      (LeastFit manager 0x1003 0 .write (some 7) bp ∨
        (∀ other ∈ manager.active, other.threadId = some 7 →
          ¬ Fits 0x1003 0 .write other) ∧
        LeastFit manager 0x1003 0 .write none bp) := by
  let admitted : LStep BreakpointManager TableCall := restrict tableStep fun _ call => call.Proper
  obtain ⟨manager, executed, answer⟩ := Option.map_eq_some_iff.mp
    (show (exec admitted new layeredCalls).map (fun manager =>
        (manager.findByWatchpointHitAndThread 0x1003 0 .write 7).map Breakpoint.id) =
      some (some 2) by decide +kernel)
  obtain ⟨bp, found, id⟩ := Option.map_eq_some_iff.mp answer
  have run := run_of_exec_restrict executed
  exact ⟨manager, bp, run, found, id,
    ((findByWatchpointHitAndThread_exact run 0x1003 0 .write 7).2 bp).mp found⟩

end BreakpointManager

end TtdGdbserver.Target
