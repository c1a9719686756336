import TtdGdbserver.Transition.Core
import TtdGdbserver.Ttd.Types
import Std.Data.ExtTreeSet

/-!
# The physical watchpoint registry

`WatchpointRegistry.sync` turns the difference between the applied and the
desired set into physical calls: the stale keys are removed first, then the
missing ones are added, each in ascending key order, and any call may fail.
The loop invariant `Syncing` says what holds between two calls.
-/

namespace TtdGdbserver.Target

open TtdGdbserver.Ttd

/-! ## Ranges -/

/-- Upper bound on a single client watchpoint range. -/
def maxWatchpointBytes : UInt64 := 4096

/-- An address of the lower or the upper half. -/
def canonicalAddress (addr : UInt64) : Bool :=
  decide (addr ≤ 0x00007fffffffffff) || decide (addr ≥ 0xffff800000000000)

/-- Whether TTD can safely receive the range: its exclusive end must fit in 64
bits and its first and last byte must be canonical. -/
def validWatchpointRange (addr size : UInt64) : Bool :=
  if size = 0 ∨ size > maxWatchpointBytes then false
  else if addr.toNat + size.toNat < 2 ^ 64 then
    canonicalAddress addr && canonicalAddress (addr + size - 1)
  else false

/-! ## Keys -/

/-- The arguments of `AddMemoryWatchpoint` and `RemoveMemoryWatchpoint`; `tid`
is a TTD unique thread id, 0 for any thread. -/
structure WatchpointKey where
  addr : UInt64
  size : UInt64
  access : DataAccessMask
  tid : UInt32
  deriving DecidableEq, Repr, Inhabited

namespace WatchpointKey

/-- The derived order: field by field. -/
def cmp : WatchpointKey → WatchpointKey → Ordering :=
  compareLex (compareOn addr)
    (compareLex (compareOn size)
      (compareLex (compareOn fun key => key.access.bits) (compareOn tid)))

instance : Ord WatchpointKey := ⟨cmp⟩

instance : Std.TransOrd WatchpointKey :=
  inferInstanceAs (Std.TransCmp (compareLex (compareOn addr)
    (compareLex (compareOn size)
      (compareLex (compareOn fun key => key.access.bits) (compareOn tid)))))

instance : Std.LawfulEqOrd WatchpointKey where
  eq_of_compare := by
    rintro ⟨addr₁, size₁, ⟨bits₁⟩, tid₁⟩ ⟨addr₂, size₂, ⟨bits₂⟩, tid₂⟩ same
    have fields : (compare addr₁ addr₂).then ((compare size₁ size₂).then
        ((compare bits₁ bits₂).then (compare tid₁ tid₂))) = .eq := same
    simp only [Ordering.then_eq_eq, Std.LawfulEqOrd.compare_eq_iff_eq] at fields
    obtain ⟨rfl, rfl, rfl, rfl⟩ := fields
    rfl

end WatchpointKey

/-- A set of physical watchpoints. -/
abbrev WatchpointSet := Std.ExtTreeSet WatchpointKey

/-! ## Synchronization -/

/-- The first physical add that failed during a sync. -/
structure WatchpointSyncError where
  key : WatchpointKey
  source : TtdError
  deriving DecidableEq, Repr

/-- The physical calls of one sync, by outcome. -/
structure WatchpointSyncReport where
  added : UInt64
  removed : UInt64
  addFailures : UInt64
  removeFailures : UInt64
  deriving DecidableEq, Repr, Inhabited

/-- Nothing was called. -/
def WatchpointSyncReport.zero : WatchpointSyncReport := ⟨0, 0, 0, 0⟩

/-- The physical watchpoints registered on one cursor. -/
structure WatchpointRegistry where
  applied : WatchpointSet

/-- Nothing is applied. -/
def WatchpointRegistry.new : WatchpointRegistry := ⟨∅⟩

/-- A fallible physical call on whatever stands behind the closures of
`sync`. -/
abbrev PhysicalCall (σ : Type) := σ → WatchpointKey → Except TtdError Unit × σ

/-- The locals of `sync` together with the state behind its closures. -/
structure SyncState (σ : Type) where
  applied : WatchpointSet
  sink : σ
  report : WatchpointSyncReport
  firstAddError : Option WatchpointSyncError

section Sync

variable {σ : Type}

/-- One iteration of the removal loop.  A failed remove keeps the key. -/
def removeStale (remove : PhysicalCall σ) (state : SyncState σ) (key : WatchpointKey) :
    SyncState σ :=
  match remove state.sink key with
  | (.ok _, sink) =>
      { state with
        applied := state.applied.erase key
        sink := sink
        report := { state.report with removed := state.report.removed + 1 } }
  | (.error _, sink) =>
      { state with
        sink := sink
        report := { state.report with removeFailures := state.report.removeFailures + 1 } }

/-- One iteration of the addition loop.  A failed add is not recorded; the
first one is kept for the caller. -/
def addMissing (add : PhysicalCall σ) (state : SyncState σ) (key : WatchpointKey) :
    SyncState σ :=
  match add state.sink key with
  | (.ok _, sink) =>
      { state with
        applied := state.applied.insert key
        sink := sink
        report := { state.report with added := state.report.added + 1 } }
  | (.error source, sink) =>
      { state with
        sink := sink
        report := { state.report with addFailures := state.report.addFailures + 1 }
        firstAddError := state.firstAddError.or (some ⟨key, source⟩) }

/-- Bring the physical set in line with `desired`. -/
def WatchpointRegistry.sync (registry : WatchpointRegistry) (desired : WatchpointSet)
    (add remove : PhysicalCall σ) (sink : σ) : SyncState σ :=
  let stale := (registry.applied \ desired).toList
  let missing := (desired \ registry.applied).toList
  let start : SyncState σ := ⟨registry.applied, sink, .zero, none⟩
  missing.foldl (addMissing add) (stale.foldl (removeStale remove) start)

/-! ## What the physical calls are relied on to do -/

/-- `physical` reads the watchpoints off the state behind the closures.  A
successful call adds or removes exactly its key, a failing one changes
nothing. -/
structure LawfulCalls (physical : σ → WatchpointSet) (add remove : PhysicalCall σ) : Prop where
  add_ok : ∀ (sink next : σ) (key : WatchpointKey), add sink key = (.ok (), next) →
    physical next = (physical sink).insert key
  add_error : ∀ (sink next : σ) (key : WatchpointKey) (error : TtdError),
    add sink key = (.error error, next) → physical next = physical sink
  remove_ok : ∀ (sink next : σ) (key : WatchpointKey), remove sink key = (.ok (), next) →
    physical next = (physical sink).erase key
  remove_error : ∀ (sink next : σ) (key : WatchpointKey) (error : TtdError),
    remove sink key = (.error error, next) → physical next = physical sink

/-- `good` survives every call that adds an absent key or removes a present
one. -/
structure KeptByCalls (physical : σ → WatchpointSet) (add remove : PhysicalCall σ)
    (good : σ → Prop) : Prop where
  add : ∀ (sink : σ) (key : WatchpointKey), good sink → key ∉ physical sink →
    good (add sink key).2
  remove : ∀ (sink : σ) (key : WatchpointKey), good sink → key ∈ physical sink →
    good (remove sink key).2

/-! ## The loop invariant -/

variable {physical : σ → WatchpointSet} {add remove : PhysicalCall σ} {good : σ → Prop}
variable {before desired : WatchpointSet} {total : Nat}

/-- What holds during a sync of `before` towards `desired` while the keys of
`stale` and then those of `missing` are still to be handled.  `total` is the
number of keys missing at the start. -/
structure Syncing (physical : σ → WatchpointSet) (good : σ → Prop)
    (before desired : WatchpointSet) (total : Nat) (stale missing : List WatchpointKey)
    (state : SyncState σ) : Prop where
  tracks : state.applied = physical state.sink
  good : good state.sink
  staleNodup : stale.Nodup
  staleApplied : ∀ key ∈ stale, key ∈ state.applied ∧ key ∉ desired
  missingNodup : missing.Nodup
  missingAbsent : ∀ key ∈ missing, key ∉ state.applied ∧ key ∈ desired ∧ key ∉ before
  kept : ∀ key ∈ before, key ∈ desired → key ∈ state.applied
  bounded : ∀ key ∈ state.applied, key ∈ before ∨ key ∈ desired
  complete : state.firstAddError = none → ∀ key ∈ desired, key ∈ state.applied ∨ key ∈ missing
  blamed : ∀ error, state.firstAddError = some error → error.key ∈ desired ∧ error.key ∉ before
  counted : ∃ added removed : Nat,
    state.report.added = UInt64.ofNat added ∧ state.report.removed = UInt64.ofNat removed ∧
    before.size + added = state.applied.size + removed ∧ added + missing.length ≤ total

theorem Syncing.removeStale (lawful : LawfulCalls physical add remove)
    (keeps : KeptByCalls physical add remove good) {key : WatchpointKey}
    {stale missing : List WatchpointKey} {state : SyncState σ}
    (syncing : Syncing physical good before desired total (key :: stale) missing state) :
    Syncing physical good before desired total stale missing
      (Target.removeStale remove state key) := by
  obtain ⟨applied, notDesired⟩ := syncing.staleApplied key (List.mem_cons_self ..)
  obtain ⟨absentLater, staleNodup⟩ := List.nodup_cons.mp syncing.staleNodup
  have staleApplied := fun other later =>
    syncing.staleApplied other (List.mem_cons_of_mem key later)
  have goodNext := keeps.remove state.sink key syncing.good (syncing.tracks ▸ applied)
  unfold Target.removeStale
  cases call : remove state.sink key with
  | mk outcome sink =>
      rw [call] at goodNext
      cases outcome with
      | error error =>
          exact { syncing with
            tracks := syncing.tracks.trans (lawful.remove_error _ _ _ _ call).symm
            good := goodNext
            staleNodup := staleNodup
            staleApplied := staleApplied }
      | ok _ =>
          obtain ⟨added, removed, addedEq, removedEq, sizes, room⟩ := syncing.counted
          have shrunk : (state.applied.erase key).size + 1 = state.applied.size := by
            have nonempty : state.applied.size ≠ 0 := by
              intro empty
              have isEmpty := Std.ExtTreeSet.eq_empty_iff_size_eq_zero.mpr empty
              rw [isEmpty] at applied
              exact Std.ExtTreeSet.not_mem_empty applied
            rw [Std.ExtTreeSet.size_erase, if_pos (Std.ExtTreeSet.contains_iff_mem.mpr applied)]
            omega
          refine { syncing with
            tracks := ?_
            good := goodNext
            staleNodup := staleNodup
            staleApplied := ?_
            missingAbsent := ?_
            kept := ?_
            bounded := ?_
            complete := ?_
            counted := ⟨added, removed + 1, addedEq, ?_, ?_, room⟩ }
          · rw [lawful.remove_ok _ _ _ call, ← syncing.tracks]
          · intro other later
            have distinct : key ≠ other := fun same => absentLater (same ▸ later)
            simpa [Std.ExtTreeSet.mem_erase, distinct] using staleApplied other later
          · intro other pending
            obtain ⟨absent, wanted⟩ := syncing.missingAbsent other pending
            exact ⟨fun present => absent (Std.ExtTreeSet.mem_of_mem_erase present), wanted⟩
          · intro other present wanted
            have distinct : key ≠ other := fun same => notDesired (same ▸ wanted)
            simpa [Std.ExtTreeSet.mem_erase, distinct] using
              syncing.kept other present wanted
          · intro other present
            exact syncing.bounded other (Std.ExtTreeSet.mem_of_mem_erase present)
          · intro noError other wanted
            have distinct : key ≠ other := fun same => notDesired (same ▸ wanted)
            simpa [Std.ExtTreeSet.mem_erase, distinct] using
              syncing.complete noError other wanted
          · rw [UInt64.ofNat_add, ← removedEq]
            rfl
          · simp only
            omega

theorem Syncing.addMissing (lawful : LawfulCalls physical add remove)
    (keeps : KeptByCalls physical add remove good) {key : WatchpointKey}
    {missing : List WatchpointKey} {state : SyncState σ}
    (syncing : Syncing physical good before desired total [] (key :: missing) state) :
    Syncing physical good before desired total [] missing
      (Target.addMissing add state key) := by
  obtain ⟨absent, wanted, notBefore⟩ := syncing.missingAbsent key (List.mem_cons_self ..)
  obtain ⟨absentLater, missingNodup⟩ := List.nodup_cons.mp syncing.missingNodup
  have missingAbsent := fun other later =>
    syncing.missingAbsent other (List.mem_cons_of_mem key later)
  have goodNext := keeps.add state.sink key syncing.good (syncing.tracks ▸ absent)
  obtain ⟨added, removed, addedEq, removedEq, sizes, room⟩ := syncing.counted
  rw [List.length_cons] at room
  unfold Target.addMissing
  cases call : add state.sink key with
  | mk outcome sink =>
      rw [call] at goodNext
      cases outcome with
      | error source =>
          refine { syncing with
            tracks := syncing.tracks.trans (lawful.add_error _ _ _ _ call).symm
            good := goodNext
            missingNodup := missingNodup
            missingAbsent := missingAbsent
            complete := ?_
            blamed := ?_
            counted := ⟨added, removed, addedEq, removedEq, sizes, by omega⟩ }
          · intro noError
            cases earlier : state.firstAddError <;> simp [earlier] at noError
          · intro error first
            cases earlier : state.firstAddError with
            | none =>
                simp only [earlier, Option.none_or, Option.some.injEq] at first
                exact first ▸ ⟨wanted, notBefore⟩
            | some previous =>
                simp only [earlier, Option.some_or, Option.some.injEq] at first
                exact first ▸ syncing.blamed previous earlier
      | ok _ =>
          have grown : (state.applied.insert key).size = state.applied.size + 1 := by
            rw [Std.ExtTreeSet.size_insert, if_neg (mt Std.ExtTreeSet.contains_iff_mem.mp absent)]
          refine { syncing with
            tracks := ?_
            good := goodNext
            staleApplied := by simp
            missingNodup := missingNodup
            missingAbsent := ?_
            kept := ?_
            bounded := ?_
            complete := ?_
            counted := ⟨added + 1, removed, ?_, removedEq, ?_, by omega⟩ }
          · rw [lawful.add_ok _ _ _ call, ← syncing.tracks]
          · intro other later
            have distinct : key ≠ other := fun same => absentLater (same ▸ later)
            simpa [Std.ExtTreeSet.mem_insert, distinct] using missingAbsent other later
          · intro other present alsoWanted
            exact Std.ExtTreeSet.mem_insert.mpr (.inr (syncing.kept other present alsoWanted))
          · intro other present
            rcases Std.ExtTreeSet.mem_insert.mp present with same | earlier
            · rw [Std.LawfulEqOrd.compare_eq_iff_eq] at same
              exact .inr (same ▸ wanted)
            · exact syncing.bounded other earlier
          · intro noError other alsoWanted
            rcases syncing.complete noError other alsoWanted with present | pending
            · exact .inl (Std.ExtTreeSet.mem_insert.mpr (.inr present))
            · rcases List.mem_cons.mp pending with same | later
              · exact .inl (same ▸ Std.ExtTreeSet.mem_insert_self)
              · exact .inr later
          · rw [UInt64.ofNat_add, ← addedEq]
            rfl
          · simp only
            omega

/-! ## The specification of `sync` -/

theorem nodup_toList (keys : WatchpointSet) : keys.toList.Nodup := by
  apply keys.distinct_toList.imp
  intro first second different same
  exact different (Std.LawfulEqOrd.compare_eq_iff_eq.mpr same)

/-- A sync from a registry that tracks the physical set ends with nothing left
to handle. -/
theorem WatchpointRegistry.syncing_sync (lawful : LawfulCalls physical add remove)
    (keeps : KeptByCalls physical add remove good) (registry : WatchpointRegistry)
    (desired : WatchpointSet) {sink : σ} (tracks : registry.applied = physical sink)
    (goodSink : good sink) :
    Syncing physical good registry.applied desired (desired \ registry.applied).toList.length
      [] [] (registry.sync desired add remove sink) := by
  apply Transition.foldl_worklist (Syncing physical good registry.applied desired
    (desired \ registry.applied).toList.length [])
  · exact Syncing.addMissing lawful keeps
  apply Transition.foldl_worklist (fun stale => Syncing physical good registry.applied desired
    (desired \ registry.applied).toList.length stale (desired \ registry.applied).toList)
  · exact Syncing.removeStale lawful keeps
  exact {
    tracks := tracks
    good := goodSink
    staleNodup := nodup_toList _
    staleApplied := by simp [Std.ExtTreeSet.mem_toList]
    missingNodup := nodup_toList _
    missingAbsent := by
      intro key missing
      simp only [Std.ExtTreeSet.mem_toList, Std.ExtTreeSet.mem_diff_iff] at missing
      exact ⟨missing.2, missing⟩
    kept := fun key present _ => present
    bounded := fun key present => .inl present
    complete := by
      intro _ key wanted
      simp only [Std.ExtTreeSet.mem_toList, Std.ExtTreeSet.mem_diff_iff]
      by_cases present : key ∈ registry.applied
      · exact .inl present
      · exact .inr ⟨wanted, present⟩
    blamed := by simp
    counted := ⟨0, 0, rfl, rfl, rfl, by simp⟩ }

/-- Whatever no physical call disturbs, a sync leaves alone. -/
theorem WatchpointRegistry.sync_undisturbed
    (adds : ∀ sink key, good sink → good (add sink key).2)
    (removes : ∀ sink key, good sink → good (remove sink key).2)
    (registry : WatchpointRegistry) (desired : WatchpointSet) {sink : σ} (initial : good sink) :
    good (registry.sync desired add remove sink).sink := by
  apply Transition.foldl_worklist (fun _ (state : SyncState σ) => good state.sink)
  · intro key _ state kept
    have next := adds state.sink key kept
    unfold Target.addMissing
    cases call : add state.sink key with
    | mk outcome sink =>
        rw [call] at next
        cases outcome <;> exact next
  apply Transition.foldl_worklist (fun _ (state : SyncState σ) => good state.sink)
  · intro key _ state kept
    have next := removes state.sink key kept
    unfold Target.removeStale
    cases call : remove state.sink key with
    | mk outcome sink =>
        rw [call] at next
        cases outcome <;> exact next
  exact initial

end Sync

end TtdGdbserver.Target
