import TtdGdbserver.Gdb.Mapping
import TtdGdbserver.Target.Process.Frame
import TtdGdbserver.Target.Registration
import TtdGdbserver.Transition.Core
import TtdGdbserver.Transition.Latest
import TtdGdbserver.Ttd.Scripted

/-!
# The client's view of the breakpoints

A client inserts and removes breakpoints by `Z` and `z` packets, which name an
address, a size and an access.  The packets are handled while the target is
stopped, and other operations may run between two of them.
-/

namespace TtdGdbserver.Gdb

open TtdGdbserver.Ttd TtdGdbserver.Target TtdGdbserver.Transition

/-! ## The handlers -/

/-- The kind of breakpoint that a `Z` packet asks for. -/
def breakpointKindFromWatchKind : WatchKind → BreakpointKind
  | .write => .write
  | .read => .read
  | .readWrite => .access

/-- The access mask that a `z` packet names. -/
def accessMaskFromWatchKind : WatchKind → DataAccessMask
  | .write => .write
  | .read => .read
  | .readWrite => .readWrite

/-- The packets `Z0`, `z0`, `Z1`, `z1`, `Z2` to `Z4` and `z2` to `z4`. -/
inductive PointRequest where
  | addSwBreakpoint (addr : UInt64)
  | removeSwBreakpoint (addr : UInt64)
  | addHwBreakpoint (addr : UInt64)
  | removeHwBreakpoint (addr : UInt64)
  | addHwWatchpoint (addr len : UInt64) (kind : WatchKind)
  | removeHwWatchpoint (addr len : UInt64) (kind : WatchKind)
  deriving DecidableEq, Repr

/-- Whether a call of the backend succeeded. -/
def accepted : BreakpointState.Reply → Bool
  | .set (.ok _) => true
  | .set (.error _) => false
  | .removed found => found

section Handlers

variable {σ : Type} [SdkCursor σ]

/-- A failed insertion is answered `false`, "cannot insert". -/
def addSwBreakpoint (process : TtdProcess σ) (addr : UInt64) : Bool × TtdProcess σ :=
  let (reply, process) := process.breakpointCall (.setBreakpoint addr none)
  (accepted reply, process)

/-- A removal is acknowledged whatever it found. -/
def removeSwBreakpoint (process : TtdProcess σ) (addr : UInt64) : Bool × TtdProcess σ :=
  (true, (process.breakpointCall (.removeBreakpointExact addr 1 .execute)).2)

/-- `add_hw_breakpoint`: the reply is whether the point was inserted. -/
def addHwBreakpoint (process : TtdProcess σ) (addr : UInt64) : Bool × TtdProcess σ :=
  let (reply, process) := process.breakpointCall (.setBreakpoint addr none)
  (accepted reply, process)

/-- `remove_hw_breakpoint`, which always reports success. -/
def removeHwBreakpoint (process : TtdProcess σ) (addr : UInt64) : Bool × TtdProcess σ :=
  (true, (process.breakpointCall (.removeBreakpointExact addr 1 .execute)).2)

/-- `add_hw_watchpoint`: the reply is whether the point was inserted. -/
def addHwWatchpoint (process : TtdProcess σ) (addr len : UInt64) (kind : WatchKind) :
    Bool × TtdProcess σ :=
  let (reply, process) :=
    process.breakpointCall (.setDataBreakpoint addr len (breakpointKindFromWatchKind kind))
  (accepted reply, process)

/-- `remove_hw_watchpoint`, which always reports success. -/
def removeHwWatchpoint (process : TtdProcess σ) (addr len : UInt64) (kind : WatchKind) :
    Bool × TtdProcess σ :=
  (true, (process.breakpointCall
    (.removeBreakpointExact addr len (accessMaskFromWatchKind kind))).2)

/-- The answer to a packet. -/
def PointRequest.handle (process : TtdProcess σ) : PointRequest → Bool × TtdProcess σ
  | .addSwBreakpoint addr => Gdb.addSwBreakpoint process addr
  | .removeSwBreakpoint addr => Gdb.removeSwBreakpoint process addr
  | .addHwBreakpoint addr => Gdb.addHwBreakpoint process addr
  | .removeHwBreakpoint addr => Gdb.removeHwBreakpoint process addr
  | .addHwWatchpoint addr len kind => Gdb.addHwWatchpoint process addr len kind
  | .removeHwWatchpoint addr len kind => Gdb.removeHwWatchpoint process addr len kind

end Handlers

/-! ## The client's set -/

/-- What a packet names. -/
structure Triple where
  addr : UInt64
  size : UInt64
  access : DataAccessMask
  deriving DecidableEq, Repr

/-- What the request names: address, size and access. -/
def PointRequest.triple : PointRequest → Triple
  | .addSwBreakpoint addr | .removeSwBreakpoint addr
  | .addHwBreakpoint addr | .removeHwBreakpoint addr => ⟨addr, 1, .execute⟩
  | .addHwWatchpoint addr len kind | .removeHwWatchpoint addr len kind =>
      ⟨addr, len, accessMaskFromWatchKind kind⟩

/-- The request inserts a point. -/
def PointRequest.inserts : PointRequest → Bool
  | .addSwBreakpoint _ | .addHwBreakpoint _ | .addHwWatchpoint .. => true
  | .removeSwBreakpoint _ | .removeHwBreakpoint _ | .removeHwWatchpoint .. => false

/-- A packet with its answer. -/
abbrev PointExchange := PointRequest × Bool

/-- An accepted insertion of the triple. -/
def Inserted (triple : Triple) (exchange : PointExchange) : Prop :=
  exchange.1.triple = triple ∧ exchange.1.inserts = true ∧ exchange.2 = true

/-- A removal of the triple. -/
def Removed (triple : Triple) (exchange : PointExchange) : Prop :=
  exchange.1.triple = triple ∧ exchange.1.inserts = false

/-- An exchange that decides whether the client has the triple. -/
def Concerns (triple : Triple) (exchange : PointExchange) : Prop :=
  Inserted triple exchange ∨ Removed triple exchange

/-- The client has the triples whose last accepted insertion came after their
last removal. -/
def ClientHas (log : List PointExchange) (triple : Triple) : Prop :=
  LatestIs (Concerns triple) (Inserted triple) log

/-- The triple a breakpoint sits at. -/
def tripleOf (bp : Breakpoint) : Triple :=
  ⟨bp.addr, bp.size, bp.access⟩

/-- A hit concerns a triple: the accesses intersect, and an execution is at the
same address while a data access meets the byte range. -/
def Triple.Matches (triple : Triple) (addr size : UInt64) (access : DataAccessMask) : Prop :=
  triple.access.intersects access = true ∧
    if triple.access = .execute then addr = triple.addr
    else Meets triple.addr triple.size addr size

instance (triple : Triple) (addr size : UInt64) (access : DataAccessMask) :
    Decidable (triple.Matches addr size access) :=
  inferInstanceAs (Decidable (_ ∧ if triple.access = .execute then _ else _))

/-! ## Runs of packets and operations -/

/-- What happens next: a packet or an operation. -/
inductive ClientLabel where
  | request (request : PointRequest)
  | op (op : Op)

/-- The step inserts a point. -/
def ClientLabel.inserts : ClientLabel → Bool
  | .request packet => packet.inserts
  | .op _ => false

section Runs

variable {σ : Type} [SdkCursor σ]

/-- One packet, which is logged with its answer, or one operation that is no
breakpoint call. -/
def clientStep : LStep (TtdProcess σ × List PointExchange) ClientLabel :=
  fun (process, log) label =>
    match label with
    | .request request =>
        let (answer, process) := request.handle process
        some (process, log ++ [(request, answer)])
    | .op op => if op.isBreakpoint then none else (process.perform op).map (·, log)

/-- What the client may rely on. -/
structure ClientView (process : TtdProcess σ) (log : List PointExchange) : Prop where
  /-- The triples of the table are those of the client. -/
  table : ∀ triple, (∃ bp ∈ process.breakpoints.manager.active, tripleOf bp = triple) ↔
    ClientHas log triple
  /-- A refused insertion leaves the table as it was. -/
  refused : ∀ request : PointRequest, (request.handle process).1 = false →
    (request.handle process).2.breakpoints.manager.breakpoints =
      process.breakpoints.manager.breakpoints
  /-- A replay is asked to stop at a hit that concerns a triple of the client. -/
  callback : ∀ (hitBpId addr size : UInt64) (access : DataAccessMask) (threadId : UInt32),
    (matchHit process.breakpoints hitBpId addr size access threadId).1 = true ↔
      ∃ triple, ClientHas log triple ∧ triple.Matches addr size access

/-! ## One packet -/

theorem kindAccess_breakpointKindFromWatchKind (kind : WatchKind) :
    BreakpointState.kindAccess (breakpointKindFromWatchKind kind) =
      accessMaskFromWatchKind kind := by
  cases kind <;> rfl

theorem kindAccess_eq_execute_iff (kind : BreakpointKind) :
    BreakpointState.kindAccess kind = .execute ↔ kind = .execute := by
  cases kind <;> decide

theorem accepted_set (result : Except DebugError BreakpointId) :
    accepted (.set result) = true ↔ ∃ id, result = .ok id := by
  cases result <;> simp [accepted]

/-- An insertion registers a breakpoint without a thread filter. -/
theorem handle_insertion (process : TtdProcess σ) {request : PointRequest}
    (inserts : request.inserts = true) :
    ∃ kind, BreakpointState.kindAccess kind = request.triple.access ∧
      (request.handle process).1 = accepted (.set (process.breakpoints.register
        request.triple.addr request.triple.size request.triple.access kind none
        process.cursors.persistent.cursor).1) ∧
      (request.handle process).2.breakpoints = (process.breakpoints.register
        request.triple.addr request.triple.size request.triple.access kind none
        process.cursors.persistent.cursor).2.1 := by
  cases request with
  | addSwBreakpoint addr => exact ⟨.execute, rfl, rfl, rfl⟩
  | addHwBreakpoint addr => exact ⟨.execute, rfl, rfl, rfl⟩
  | addHwWatchpoint addr len kind =>
      refine ⟨breakpointKindFromWatchKind kind, kindAccess_breakpointKindFromWatchKind kind, ?_⟩
      simp only [PointRequest.triple, ← kindAccess_breakpointKindFromWatchKind]
      exact ⟨rfl, rfl⟩
  | _ => contradiction

/-- A removal removes whatever is at the triple. -/
theorem handle_removal (process : TtdProcess σ) {request : PointRequest}
    (removes : request.inserts = false) :
    (request.handle process).1 = true ∧
      (request.handle process).2.breakpoints = (process.breakpoints.syncRemoved
        (process.breakpoints.manager.removeExact request.triple.addr request.triple.size
          request.triple.access) process.cursors.persistent.cursor).2.1 := by
  cases request with
  | removeSwBreakpoint addr => exact ⟨rfl, rfl⟩
  | removeHwBreakpoint addr => exact ⟨rfl, rfl⟩
  | removeHwWatchpoint addr len kind => exact ⟨rfl, rfl⟩
  | _ => contradiction

/-! ## The client's set after one more exchange -/

section Log

variable {log : List PointExchange} {triple : Triple} {request : PointRequest}

theorem not_clientHas_nil : ¬ ClientHas [] triple :=
  not_latestIs_nil

theorem clientHas_inserted (inserts : request.inserts = true) :
    ClientHas (log ++ [(request, true)]) triple ↔
      triple = request.triple ∨ ClientHas log triple := by
  by_cases same : triple = request.triple
  · subst same
    have inserted : Inserted request.triple (request, true) := ⟨rfl, inserts, rfl⟩
    have concerns : Concerns request.triple (request, true) := Or.inl inserted
    simp [ClientHas, latestIs_snoc_of_kind concerns, inserted]
  · have other : ¬ Concerns triple (request, true) := by
      rintro (inserted | removed)
      · exact same inserted.1.symm
      · exact same removed.1.symm
    simp [ClientHas, latestIs_snoc_of_not other, same]

theorem clientHas_refused (inserts : request.inserts = true) :
    ClientHas (log ++ [(request, false)]) triple ↔ ClientHas log triple := by
  have other : ¬ Concerns triple (request, false) := by
    rintro (inserted | removed)
    · exact Bool.false_ne_true inserted.2.2
    · rw [removed.2] at inserts
      contradiction
  exact latestIs_snoc_of_not other

theorem clientHas_removed (removes : request.inserts = false) (answer : Bool) :
    ClientHas (log ++ [(request, answer)]) triple ↔
      ClientHas log triple ∧ triple ≠ request.triple := by
  have notInserted : ¬ Inserted triple (request, answer) := by
    rintro ⟨_, inserts, _⟩
    rw [removes] at inserts
    contradiction
  by_cases same : triple = request.triple
  · subst same
    have concerns : Concerns request.triple (request, answer) := Or.inr ⟨rfl, removes⟩
    simp [ClientHas, latestIs_snoc_of_kind concerns, notInserted]
  · have other : ¬ Concerns triple (request, answer) := by
      rintro (inserted | removed)
      · exact notInserted inserted
      · exact same removed.1.symm
    simp [ClientHas, latestIs_snoc_of_not other, same]

end Log

/-! ## The invariant -/

/-- What holds after `count` insertions. -/
structure Agrees (count : Nat) (process : TtdProcess σ) (log : List PointExchange) : Prop where
  registered : process.breakpoints.Registered
  ids : process.breakpoints.manager.IdsBelow
  nextId : process.breakpoints.manager.nextId.toNat ≤ count + 1
  unrestricted : ∀ bp ∈ process.breakpoints.manager.active,
    bp.threadId = none ∧ bp.access = BreakpointState.kindAccess bp.kind
  table : ∀ triple, (∃ bp ∈ process.breakpoints.manager.active, tripleOf bp = triple) ↔
    ClientHas log triple

theorem mem_active_congr {first second : BreakpointManager}
    (same : first.breakpoints = second.breakpoints) (bp : Breakpoint) :
    bp ∈ first.active ↔ bp ∈ second.active := by
  rw [BreakpointManager.active, BreakpointManager.active, same]

theorem agrees_openTrace (metadata : TraceMetadata) (persistent step : σ) (probe : Option σ) :
    Agrees 0 (TtdProcess.openTrace metadata persistent step probe) [] := by
  have none_ : ∀ bp, bp ∉ (BreakpointState.new metadata.threads).manager.active := by
    simp [BreakpointState.new]
  refine ⟨BreakpointState.registered_new _, BreakpointManager.idsBelow_new, Nat.le_refl 1, ?_, ?_⟩
  · intro bp active
    exact absurd active (none_ bp)
  · intro triple
    constructor
    · rintro ⟨bp, active, _⟩
      exact absurd active (none_ bp)
    · exact fun has => absurd has not_clientHas_nil

variable {process : TtdProcess σ} {log : List PointExchange} {count : Nat}

/-- A larger counter keeps the ids below it. -/
theorem idsBelow_advance {before after : BreakpointManager}
    (ids : before.IdsBelow) (table : after.breakpoints = before.breakpoints)
    (nextId : after.nextId.toNat = before.nextId.toNat + 1) : after.IdsBelow := by
  constructor
  · omega
  · intro id bp found
    rw [table] at found
    have bounds := ids.below id bp found
    omega

theorem Agrees.insert (agrees : Agrees count process log) (room : count + 2 < 2 ^ 64)
    {request : PointRequest} (inserts : request.inserts = true) :
    Agrees (count + 1) (request.handle process).2 (log ++ [(request, (request.handle process).1)]) ∧
      ((request.handle process).1 = false →
        (request.handle process).2.breakpoints.manager.breakpoints =
          process.breakpoints.manager.breakpoints) := by
  obtain ⟨kind, kindEq, answerEq, stateEq⟩ := handle_insertion process inserts
  have fresh := agrees.ids.fresh
  have filed := agrees.registered.register fresh request.triple.addr request.triple.size
    request.triple.access kind none process.cursors.persistent.cursor
  rw [← stateEq] at filed
  have idBound := agrees.nextId
  have counter : (process.breakpoints.manager.nextId + 1).toNat =
      process.breakpoints.manager.nextId.toNat + 1 := by
    rw [UInt64.toNat_add]
    exact Nat.mod_eq_of_lt (by simp; omega)
  have nextId : (request.handle process).2.breakpoints.manager.nextId.toNat =
      process.breakpoints.manager.nextId.toNat + 1 := by
    rw [filed.nextId, counter]
  rcases filed.table with ⟨id, resultEq, tableEq⟩ | ⟨error, resultEq, tableEq⟩
  · have answer : (request.handle process).1 = true := by
      rw [answerEq, accepted_set]
      exact ⟨id, resultEq⟩
    have present := fun bp => (mem_active_congr (tableEq.trans
      (BreakpointManager.breakpoints_add ..).symm) bp).trans
        (BreakpointManager.mem_active_add_iff fresh bp)
    have addIds := agrees.ids.add (by omega) request.triple.addr request.triple.size
      request.triple.access kind none
    refine ⟨⟨filed.registered, ⟨by omega, ?_⟩, by omega, ?_, ?_⟩, ?_⟩
    · intro other bp found
      rw [filed.nextId]
      rw [tableEq] at found
      exact addIds.below other bp found
    · intro bp active
      rcases (present bp).mp active with rfl | earlier
      · exact ⟨rfl, kindEq.symm⟩
      · exact agrees.unrestricted bp earlier
    · intro triple
      rw [answer, clientHas_inserted inserts, ← agrees.table triple]
      constructor
      · rintro ⟨bp, active, rfl⟩
        rcases (present bp).mp active with rfl | earlier
        · exact Or.inl rfl
        · exact Or.inr ⟨bp, earlier, rfl⟩
      · rintro (rfl | ⟨bp, earlier, rfl⟩)
        · exact ⟨_, (present _).mpr (Or.inl rfl), rfl⟩
        · exact ⟨bp, (present bp).mpr (Or.inr earlier), rfl⟩
    · rw [answer]
      intro refused
      contradiction
  · have answer : (request.handle process).1 = false := by
      rw [answerEq, resultEq]
      rfl
    have present := mem_active_congr tableEq
    refine ⟨⟨filed.registered, idsBelow_advance agrees.ids tableEq nextId, by omega, ?_, ?_⟩,
      fun _ => tableEq⟩
    · intro bp active
      exact agrees.unrestricted bp ((present bp).mp active)
    · intro triple
      simp only [answer, clientHas_refused inserts, ← agrees.table triple, present]

theorem tripleOf_eq_iff {bp : Breakpoint} {triple : Triple} :
    tripleOf bp = triple ↔
      BreakpointManager.atTriple triple.addr triple.size triple.access bp = true := by
  rcases triple with ⟨addr, size, access⟩
  simp [tripleOf, BreakpointManager.atTriple, and_assoc]

theorem manager_syncRemoved (state : BreakpointState) (removal : Bool × BreakpointManager)
    (cursor : ReplayCursor σ) :
    (state.syncRemoved removal cursor).2.1.manager = removal.2 := by
  unfold BreakpointState.syncRemoved
  split <;> rfl

theorem Agrees.remove (agrees : Agrees count process log) {request : PointRequest}
    (removes : request.inserts = false) (answer : Bool) :
    Agrees count (request.handle process).2 (log ++ [(request, answer)]) := by
  obtain ⟨_, stateEq⟩ := handle_removal process removes
  have fewer : ∀ bp, bp ∈ (process.breakpoints.manager.removeExact request.triple.addr
      request.triple.size request.triple.access).2.active ↔
        bp ∈ process.breakpoints.manager.active ∧ tripleOf bp ≠ request.triple := by
    intro bp
    rw [BreakpointManager.mem_active_removeExact_iff, Ne, tripleOf_eq_iff,
      Bool.not_eq_true]
  have registered := agrees.registered.syncRemoved (fun bp active => ((fewer bp).mp active).1)
    process.cursors.persistent.cursor
  have manager := manager_syncRemoved process.breakpoints
    (process.breakpoints.manager.removeExact request.triple.addr request.triple.size
      request.triple.access) process.cursors.persistent.cursor
  rw [← stateEq] at registered manager
  refine ⟨registered, ?_, ?_, ?_, ?_⟩
  · rw [manager]
    exact agrees.ids.removeExact ..
  · rw [manager, BreakpointManager.nextId_removeExact]
    exact agrees.nextId
  · intro bp active
    rw [manager] at active
    exact agrees.unrestricted bp ((fewer bp).mp active).1
  · intro triple
    rw [clientHas_removed removes, ← agrees.table triple, manager]
    constructor
    · rintro ⟨bp, active, rfl⟩
      obtain ⟨earlier, other⟩ := (fewer bp).mp active
      exact ⟨⟨bp, earlier, rfl⟩, other⟩
    · rintro ⟨⟨bp, earlier, rfl⟩, other⟩
      exact ⟨bp, (fewer bp).mpr ⟨earlier, other⟩, rfl⟩

theorem Agrees.step (agrees : Agrees count process log) (room : count + 2 < 2 ^ 64)
    {label : ClientLabel} {next : TtdProcess σ × List PointExchange}
    (stepEq : clientStep (process, log) label = some next) :
    Agrees (count + [label].countP ClientLabel.inserts) next.1 next.2 := by
  cases label with
  | request request =>
      cases stepEq
      cases inserts : request.inserts with
      | true =>
          rw [List.countP_singleton, ClientLabel.inserts, if_pos inserts]
          exact (agrees.insert room inserts).1
      | false =>
          rw [List.countP_singleton, ClientLabel.inserts, if_neg (ne_true_of_eq_false inserts)]
          exact agrees.remove inserts _
  | op op =>
      simp only [clientStep] at stepEq
      split at stepEq
      · contradiction
      · rename_i other
        obtain ⟨after, performed, rfl⟩ := Option.map_eq_some_iff.mp stepEq
        have kept := (TtdProcess.frame_perform (by simpa using other) performed).breakpoints
        refine ⟨?_, ?_, ?_, ?_, ?_⟩
        all_goals simp only [kept, ClientLabel.inserts, List.countP_singleton, Bool.false_eq_true,
          if_false, Nat.add_zero]
        · exact agrees.registered
        · exact agrees.ids
        · exact agrees.nextId
        · exact agrees.unrestricted
        · exact agrees.table

theorem agrees_of_run (metadata : TraceMetadata) (persistent step : σ) (probe : Option σ)
    {labels : List ClientLabel} {state : TtdProcess σ × List PointExchange}
    (run : Run clientStep AnyStep (.openTrace metadata persistent step probe, []) labels state)
    (few : labels.countP ClientLabel.inserts + 2 < 2 ^ 64) :
    Agrees (labels.countP ClientLabel.inserts) state.1 state.2 := by
  induction run with
  | nil => exact agrees_openTrace metadata persistent step probe
  | snoc _ _ stepEq ih =>
      rw [List.countP_append] at few ⊢
      exact (ih (by omega)).step (by omega) stepEq

/-! ## Hits -/

/-- Without thread filters the callback stops at whatever matches. -/
theorem stops_iff (breakpoints : BreakpointState)
    (unrestricted : ∀ bp ∈ breakpoints.manager.active, bp.threadId = none)
    (hitBpId addr size : UInt64) (access : DataAccessMask) (threadId : UInt32) :
    (matchHit breakpoints hitBpId addr size access threadId).1 = true ↔
      ∃ bp ∈ breakpoints.manager.active,
        BreakpointManager.matchesAddr addr size access bp = true := by
  have stops : (matchHit breakpoints hitBpId addr size access threadId).1 =
      (breakpoints.findByWatchpointHitAndThread addr size access threadId.toUInt64).isSome := by
    unfold matchHit
    cases breakpoints.findByWatchpointHitAndThread addr size access threadId.toUInt64 <;> rfl
  rw [stops, BreakpointState.findByWatchpointHitAndThread,
    BreakpointManager.findByWatchpointHitAndThread, Option.isSome_or, Bool.or_eq_true,
    List.find?_isSome, List.find?_isSome]
  constructor
  · rintro (⟨bp, candidate, _⟩ | ⟨bp, candidate, _⟩) <;>
      exact ⟨bp, List.mem_filter.mp candidate⟩
  · rintro ⟨bp, active, matches_⟩
    refine Or.inr ⟨bp, List.mem_filter.mpr ⟨active, matches_⟩, ?_⟩
    simp [unrestricted bp active]

omit [SdkCursor σ] in
theorem Agrees.matches_iff (agrees : Agrees count process log) {bp : Breakpoint}
    (active : bp ∈ process.breakpoints.manager.active) (addr size : UInt64)
    (access : DataAccessMask) :
    BreakpointManager.matchesAddr addr size access bp = true ↔
      (tripleOf bp).Matches addr size access := by
  have desired : BreakpointState.watchpointKey process.breakpoints.threads bp ∈
      process.breakpoints.desiredWatchpoints := by
    simp only [BreakpointState.desiredWatchpoints, Std.ExtTreeSet.mem_ofList,
      List.contains_iff_mem, List.mem_map]
    exact ⟨bp, active, rfl⟩
  have safe := agrees.registered.safe _ (agrees.registered.recorded _ desired)
  have kind : (tripleOf bp).access = .execute ↔ bp.kind = .execute := by
    rw [tripleOf, (agrees.unrestricted bp active).2, kindAccess_eq_execute_iff]
  rw [BreakpointManager.matchesAddr_iff safe, Triple.Matches]
  simp only [kind]
  rfl

/-- After every run of packets and other operations, with fewer insertions than
there are ids, the table is the client's set and the callback stops at its
hits. -/
theorem clientView_of_run (metadata : TraceMetadata) (persistent step : σ) (probe : Option σ)
    {labels : List ClientLabel} {process : TtdProcess σ} {log : List PointExchange}
    (run : Run clientStep AnyStep (.openTrace metadata persistent step probe, []) labels
      (process, log))
    (few : labels.countP ClientLabel.inserts + 2 < 2 ^ 64) : ClientView process log := by
  have agrees := agrees_of_run metadata persistent step probe run few
  refine ⟨agrees.table, ?_, ?_⟩
  · intro request refused
    cases inserts : request.inserts with
    | true => exact (agrees.insert few inserts).2 refused
    | false =>
        rw [(handle_removal process inserts).1] at refused
        contradiction
  · intro hitBpId addr size access threadId
    rw [stops_iff _ (fun bp active => (agrees.unrestricted bp active).1)]
    constructor
    · rintro ⟨bp, active, matches_⟩
      exact ⟨tripleOf bp, (agrees.table _).mp ⟨bp, active, rfl⟩,
        (agrees.matches_iff active addr size access).mp matches_⟩
    · rintro ⟨triple, has, matches_⟩
      obtain ⟨bp, active, rfl⟩ := (agrees.table triple).mpr has
      exact ⟨bp, active, (agrees.matches_iff active addr size access).mpr matches_⟩

end Runs

/-- A doubled insertion, a refused one, a step, another insertion and a
removal. -/
def mixedLabels : List ClientLabel :=
  [.request (.addSwBreakpoint 0x1000), .request (.addHwBreakpoint 0x1000),
    .request (.addHwWatchpoint 0x2000 0 .write), .op (.exec .step 1),
    .request (.addHwWatchpoint 0x3000 8 .readWrite), .request (.removeSwBreakpoint 0x1000)]

/-- A trace that was just opened, with an engine that never replays. -/
def clientTrace : TtdProcess ScriptedCursor :=
  .openTrace (.new [] [] ⟨1, 0⟩ ⟨9, 1000⟩) ⟨⟨0, 0⟩, []⟩ ⟨⟨0, 0⟩, []⟩ none

theorem mixedLabels_clientView :
    ∃ process log, exec clientStep (clientTrace, []) mixedLabels = some (process, log) ∧
      log.map Prod.snd = [true, true, false, true, true] ∧ ClientView process log := by
  obtain ⟨⟨process, log⟩, executed, answers⟩ := Option.map_eq_some_iff.mp
    (show (exec clientStep (clientTrace, []) mixedLabels).map (fun state => state.2.map Prod.snd) =
      some [true, true, false, true, true] by decide +kernel)
  exact ⟨process, log, executed, answers,
    clientView_of_run _ _ _ _ (run_of_exec executed) (by decide)⟩

end TtdGdbserver.Gdb
