import TtdGdbserver.Gdb.Monitor.Grammar
import TtdGdbserver.Target.Process.Erasure
import TtdGdbserver.Target.Process.Position

/-!
# The monitor on a debug process

A monitor command is at most one memory query of the process.  Between the
operations of a run it changes nothing that they do or that a later command
says, the counters of `monitor ttd stats` apart.
-/

namespace TtdGdbserver.Gdb.Monitor

open TtdGdbserver.Target TtdGdbserver.Text TtdGdbserver.Ttd

variable {σ : Type} [SdkCursor σ]

/-! ## The view of a process -/

/-- The metadata of a trace, with the tables that only the monitor reads. -/
structure TraceTables where
  metadata : TraceMetadata
  threads : List ThreadLifetime
  modules : List ModuleInfo
  indexStatus : TtdIndexStatus
  /-- The engine counts with 32 bits. -/
  fewExceptions : metadata.exceptions.length < 2 ^ 32
  fewModules : modules.length < 2 ^ 32

/-- A process with all the tables of its trace. -/
structure Introspected (σ : Type) where
  process : TtdProcess σ
  tables : TraceTables
  owned : process.metadata = tables.metadata

/-- `count_u32`, of a length that fits. -/
def countU32 (len : Nat) (fits : len < 2 ^ 32) : UInt32 :=
  UInt32.ofNatLT len fits

/-- `TraceMetadata::diagnostics`. -/
def TraceTables.diagnostics (tables : TraceTables) (current : TtdPosition) :
    TargetDiagnostics where
  firstPosition := tables.metadata.firstPosition
  lastPosition := tables.metadata.lastPosition
  currentPosition := current
  threads := tables.threads
  exceptionCount := countU32 tables.metadata.exceptions.length tables.fewExceptions
  moduleCount := countU32 tables.modules.length tables.fewModules
  indexStatus := tables.indexStatus

theorem metadata_respond {process : TtdProcess σ} {op : Op}
    {responded : Response × TtdProcess σ} (ran : process.respond op = some responded) :
    responded.2.metadata = process.metadata := by
  have performed : process.perform op = some responded.2 := by
    rw [← process.map_snd_respond op, ran]
    rfl
  exact (TtdProcess.tables_perform performed).2

namespace Introspected

/-- The view of the process as it is now. -/
def withProcess (view : Introspected σ) (process : TtdProcess σ)
    (kept : process.metadata = view.process.metadata) : Introspected σ :=
  ⟨process, view.tables, kept.trans view.owned⟩

/-- The view after a query. -/
def ask (view : Introspected σ) (query : Query) : Introspected σ :=
  view.withProcess (view.process.ask query).2 (TtdProcess.frame_ask view.process query).metadata

/-- One operation with its response. -/
def respond (view : Introspected σ) (op : Op) : Option (Response × Introspected σ) :=
  (view.process.respond op).pmap
    (fun responded kept => (responded.1, view.withProcess responded.2 kept))
    fun _ ran => metadata_respond ran

end Introspected

/-- `TraceView` for a debug target: the bytes of a read are the received part of
a zeroed buffer. -/
instance : TraceView (Introspected σ) where
  diagnostics view := view.tables.diagnostics view.process.position
  modules view := view.tables.modules
  exceptions view := view.tables.metadata.exceptions
  stats view := view.process.mergedStats
  readMemoryRanges view addr len :=
    let asked := view.process.readMemoryRanges addr (List.replicate len 0) memRangesCap
    ((asked.1.2.take asked.1.1.1, asked.1.1.2), view.withProcess asked.2
      (TtdProcess.frame_ask view.process
        (.readMemoryRanges addr (List.replicate len 0) memRangesCap)).metadata)

/-- The query behind a dump. -/
def dumpQuery (addr : UInt64) (len : Nat) : Query :=
  .readMemoryRanges addr (List.replicate len 0) memRangesCap

theorem readMemoryRanges_eq (view : Introspected σ) (addr : UInt64) (len : Nat) :
    (TraceView.readMemoryRanges view addr len).2 = view.ask (dumpQuery addr len) :=
  rfl

/-! ## Views that differ in their queries -/

/-- The processes differ in their queries at most, and the tables are the same. -/
structure ViewsAlike (first second : Introspected σ) : Prop where
  process : TtdProcess.UpToQueries first.process second.process
  tables : first.tables = second.tables

theorem ViewsAlike.symm {first second : Introspected σ} (alike : ViewsAlike first second) :
    ViewsAlike second first :=
  ⟨alike.process.symm, alike.tables.symm⟩

theorem ViewsAlike.trans {first second third : Introspected σ} (left : ViewsAlike first second)
    (right : ViewsAlike second third) : ViewsAlike first third :=
  ⟨left.process.trans right.process, left.tables.trans right.tables⟩

variable [LawfulSdkCursor σ] [ForgetfulSdkCursor σ]

/-- A command asks the process one query at most. -/
theorem viewsAlike_render (perQuery : UInt64 → UInt64 → Text) (cmd : Text)
    {view : Introspected σ} (coherent : view.process.Coherent) :
    ViewsAlike (render perQuery cmd view).2 view := by
  by_cases asked : ∃ addr len, Dumps (splitWhitespace cmd) addr len
  · obtain ⟨addr, len, dumped⟩ := asked
    rw [render_dumps dumped, readMemoryRanges_eq]
    exact ⟨coherent.upToQueries_ask (dumpQuery addr len), rfl⟩
  · have quiet : (render perQuery cmd view).2 = view :=
      reply_quiet (fun addr len dumped => asked ⟨addr, len, dumped⟩) view
    rw [quiet]
    exact ⟨TtdProcess.UpToQueries.refl coherent, rfl⟩

/-- The same memory is read. -/
theorem ViewsAlike.readMemoryRanges {first second : Introspected σ}
    (alike : ViewsAlike first second) (addr : UInt64) (len : Nat) :
    (TraceView.readMemoryRanges first addr len).1 =
      (TraceView.readMemoryRanges second addr len).1 := by
  have same := alike.process.answers (dumpQuery addr len)
  have read : (first.process.readMemoryRanges addr (List.replicate len 0) memRangesCap).1 =
      (second.process.readMemoryRanges addr (List.replicate len 0) memRangesCap).1 :=
    Answer.ranges.inj same
  exact congrArg (fun read : (Nat × List TtdMemRange) × List UInt8 =>
    (read.2.take read.1.1, read.1.2)) read

omit [LawfulSdkCursor σ] [ForgetfulSdkCursor σ] in
theorem ViewsAlike.diagnostics {first second : Introspected σ}
    (alike : ViewsAlike first second) :
    TraceView.diagnostics first = TraceView.diagnostics second := by
  simp only [TraceView.diagnostics, alike.process.debugState.position, alike.tables]

theorem ViewsAlike.mem {first second : Introspected σ} (alike : ViewsAlike first second)
    (args : List Text) : (mem first args).1 = (mem second args).1 := by
  cases args with
  | nil => rfl
  | cons text more =>
      cases parsed : parseHex text with
      | none => simp only [Monitor.mem, parsed]
      | some addr =>
          cases asked : memLen more.head? with
          | none => simp only [Monitor.mem, parsed, asked]
          | some len =>
              simp only [Monitor.mem, parsed, asked, alike.diagnostics,
                alike.readMemoryRanges addr len]

/-- Whatever command but that for the counters is answered alike. -/
theorem ViewsAlike.render {first second : Introspected σ} (alike : ViewsAlike first second)
    (perQuery : UInt64 → UInt64 → Text) {cmd : Text}
    (uncounted : ∀ args, splitWhitespace cmd ≠ "ttd".toList :: "stats".toList :: args) :
    (Monitor.render perQuery cmd first).1 = (Monitor.render perQuery cmd second).1 := by
  have exceptions : TraceView.exceptions first = TraceView.exceptions second := by
    simp only [TraceView.exceptions, alike.tables]
  have modules : TraceView.modules first = TraceView.modules second := by
    simp only [TraceView.modules, alike.tables]
  have replied : (reply perQuery cmd first).1 = (reply perQuery cmd second).1 := by
    unfold reply
    generalize splitWhitespace cmd = words at uncounted ⊢
    simp only [alike.diagnostics, exceptions, modules]
    split_ifs with head _ _ _ _ _ stats
    all_goals try rfl
    · exact alike.mem _
    · rw [ne_eq, not_not] at head
      exact absurd (words_eq (by decide) head stats) (uncounted _)
  exact congrArg written replied

/-! ## Runs with monitor commands -/

/-- What a client may ask for between two moments of a session. -/
inductive Request where
  | perform (op : Op)
  | monitor (cmd : Text)

/-- A request that does more than ask. -/
def Request.acts : Request → Bool
  | .perform op => !op.isQuery
  | .monitor _ => false

/-- What a run observes of its actions, whatever was asked between them. -/
def transcript (perQuery : UInt64 → UInt64 → Text) (view : Introspected σ) :
    List Request → Option (List Observation × Introspected σ)
  | [] => some ([], view)
  | .perform op :: requests => do
      let (response, next) ← view.respond op
      let (later, last) ← transcript perQuery next requests
      some (if op.isQuery then later
        else ⟨response, next.process.position, next.process.currentThreadId⟩ :: later, last)
  | .monitor cmd :: requests => transcript perQuery (render perQuery cmd view).2 requests

omit [LawfulSdkCursor σ] [ForgetfulSdkCursor σ] in
theorem transcript_query (perQuery : UInt64 → UInt64 → Text) (view : Introspected σ)
    (query : Query) (requests : List Request) :
    transcript perQuery view (.perform (.query query) :: requests) =
      transcript perQuery (view.ask query) requests := by
  rw [transcript]
  simp [Introspected.respond, Introspected.ask, TtdProcess.respond, Op.isQuery]

omit [LawfulSdkCursor σ] [ForgetfulSdkCursor σ] in
theorem transcript_other (perQuery : UInt64 → UInt64 → Text) (view : Introspected σ) {op : Op}
    (other : op.isQuery = false) (requests : List Request) :
    transcript perQuery view (.perform op :: requests) =
      (view.respond op).bind fun responded =>
        (transcript perQuery responded.2 requests).map
          (Prod.map (TtdProcess.observation responded.1 responded.2.process :: ·) id) := by
  rw [transcript]
  simp only [other, Bool.false_eq_true, if_false, Option.bind_eq_bind, Option.map_eq_bind]
  rfl

theorem ViewsAlike.respond {first second : Introspected σ} (alike : ViewsAlike first second)
    (op : Op) : Option.Rel (SameResult ViewsAlike) (first.respond op) (second.respond op) := by
  have responded := alike.process.respond op
  unfold Introspected.respond
  generalize_proofs kept kept'
  revert kept kept'
  generalize first.process.respond op = left at responded ⊢
  generalize second.process.respond op = right at responded ⊢
  cases responded with
  | none => exact fun _ _ => .none
  | some same => exact fun _ _ => .some ⟨same.1, same.2, alike.tables⟩

/-- A run has the transcript of the run that only acts. -/
theorem ViewsAlike.transcript (perQuery : UInt64 → UInt64 → Text) {first second : Introspected σ}
    (alike : ViewsAlike first second) (requests : List Request) :
    Option.Rel (SameResult ViewsAlike) (Monitor.transcript perQuery first requests)
      (Monitor.transcript perQuery second (requests.filter Request.acts)) := by
  induction requests generalizing first second with
  | nil => exact .some ⟨rfl, alike⟩
  | cons request requests ih =>
      cases request with
      | monitor cmd =>
          rw [List.filter_cons_of_neg (by simp [Request.acts])]
          apply ih
          exact (viewsAlike_render perQuery cmd alike.process.first).trans alike
      | perform op =>
          cases asks : op.isQuery with
          | true =>
              cases op with
              | query query =>
                  rw [transcript_query, List.filter_cons_of_neg (by simp [Request.acts, asks])]
                  apply ih
                  exact ⟨(alike.process.first.upToQueries_ask query).trans alike.process,
                    alike.tables⟩
              | _ => contradiction
          | false =>
              rw [List.filter_cons_of_pos (by simp [Request.acts, asks]),
                transcript_other perQuery first asks, transcript_other perQuery second asks]
              refine SameResult.bind_rel (alike.respond op) ?_
              intro result result' responded
              have same : SameResult TtdProcess.UpToQueries (result.1, result.2.process)
                  (result'.1, result'.2.process) := ⟨responded.1, responded.2.process⟩
              rw [TtdProcess.UpToQueries.observation_eq same]
              apply SameResult.map_rel
              exact ih responded.2

/-- The view of a trace that was just opened. -/
def openView (tables : TraceTables) (persistent step : σ) (probe : Option σ) : Introspected σ :=
  ⟨.openTrace tables.metadata persistent step probe, tables, rfl⟩

/-- Two runs of an opened trace that are the same apart from their monitor
commands and their queries do the same: every step, continue, jump and
breakpoint call responds alike and leaves the same position and thread; and in
the end every query is answered alike and every monitor command, the counters
apart, is replied to with the same text. -/
theorem monitor_leaves_no_trace (perQuery : UInt64 → UInt64 → Text) (tables : TraceTables)
    (persistent step : σ) (probe : Option σ) {first second : List Request}
    (same : first.filter Request.acts = second.filter Request.acts) :
    let opened := openView tables persistent step probe
    Option.Rel (fun left right => left.1 = right.1 ∧
        TtdProcess.SameDebugState left.2.process right.2.process ∧
        (∀ query, (left.2.process.ask query).1 = (right.2.process.ask query).1) ∧
        ∀ cmd, (∀ args, splitWhitespace cmd ≠ "ttd".toList :: "stats".toList :: args) →
          (render perQuery cmd left.2).1 = (render perQuery cmd right.2).1)
      (transcript perQuery opened first) (transcript perQuery opened second) := by
  intro opened
  have start : ViewsAlike opened opened :=
    ⟨.refl (TtdProcess.coherent_openTrace tables.metadata persistent step probe), rfl⟩
  have left := start.transcript perQuery first
  have right := start.transcript perQuery second
  rw [← same] at right
  apply SameResult.join_rel left right
  intro left right bare ended ended'
  have both := ended.2.trans ended'.2.symm
  exact ⟨ended.1.trans ended'.1.symm, both.process.debugState, both.process.answers,
    fun cmd uncounted => both.render perQuery uncounted⟩

/-- Monitor commands around a breakpoint, a continue and a step. -/
def monitoredRequests : List Request :=
  [.monitor "ttd mem 0x1000 2".toList, .perform (.breakpoint (.setBreakpoint 0x1000 none)),
    .monitor "ttd events".toList, .perform (.exec .continueForward 1),
    .perform (.query (.threadState none)), .monitor "ttd mem 1000".toList,
    .perform (.exec .step 1), .monitor "ttd stats".toList]

/-- The trace that is monitored, with the tables of the stub. -/
def monitoredTables : TraceTables where
  metadata := disturbedTrace.metadata
  threads := []
  modules := stub.modules
  indexStatus := .loaded
  fewExceptions := by simp [disturbedTrace, TtdProcess.openTrace, TraceMetadata.new]
  fewModules := by decide

theorem monitored_leaves_no_trace :
    let opened : Introspected ScriptedCursor := ⟨disturbedTrace, monitoredTables, rfl⟩
    (transcript stubQuotient opened monitoredRequests).isSome ∧
      Option.Rel (fun left right => left.1 = right.1 ∧
          TtdProcess.SameDebugState left.2.process right.2.process ∧
          (∀ query, (left.2.process.ask query).1 = (right.2.process.ask query).1) ∧
          ∀ cmd, (∀ args, splitWhitespace cmd ≠ "ttd".toList :: "stats".toList :: args) →
            (render stubQuotient cmd left.2).1 = (render stubQuotient cmd right.2).1)
        (transcript stubQuotient opened monitoredRequests)
        (transcript stubQuotient opened
          [.perform (.breakpoint (.setBreakpoint 0x1000 none)),
            .perform (.exec .continueForward 1), .perform (.exec .step 1)]) :=
  ⟨by decide +kernel, monitor_leaves_no_trace stubQuotient monitoredTables _ _ _ rfl⟩

end TtdGdbserver.Gdb.Monitor
