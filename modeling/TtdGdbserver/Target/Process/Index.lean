import TtdGdbserver.Transition.Core
import TtdGdbserver.Ttd.Types

/-!
# The trace index across open attempts

The index of a trace is a file next to it, `<trace>.idx`, and a build in
progress keeps a second file, `<trace>.idxt`.  Both outlive the process, so the
state here is the disk together with the stage of the open attempt that is
running, if one is.  An event is one file-system call, one answer of the engine
or the death of the process.
-/

namespace TtdGdbserver.Target

open TtdGdbserver.Transition
open TtdGdbserver.Ttd

/-! ## Files -/

/-- A path, split at the last dot of its file name. -/
structure TracePath where
  stem : String
  extension : Option String
  deriving DecidableEq, Repr

namespace TracePath

/-- Replace the extension. -/
def withExtension (path : TracePath) (extension : String) : TracePath :=
  { path with extension := some extension }

/-- The path as text. -/
def display (path : TracePath) : String :=
  match path.extension with
  | none => path.stem
  | some extension => path.stem ++ "." ++ extension

end TracePath

/-- The two files derived from a trace. -/
inductive IndexFile where
  | index
  | partialIndex
  deriving DecidableEq, Repr

/-- `<trace>.idx`, the engine's keyframe table. -/
def indexPath (trace : TracePath) : TracePath :=
  trace.withExtension "idx"

/-- `<trace>.idxt`, the temporary file of a build in progress. -/
def partialIndexPath (trace : TracePath) : TracePath :=
  trace.withExtension "idxt"

/-- Where a file lies. -/
def IndexFile.path (trace : TracePath) : IndexFile → TracePath
  | .index => indexPath trace
  | .partialIndex => partialIndexPath trace

/-- What `<trace>.idx` holds. -/
inductive IndexContents where
  | absent
  | unfinished
  | complete
  deriving DecidableEq, Repr

/-- The two files on the disk. -/
structure IndexDisk where
  index : IndexContents
  partialIndex : Bool
  deriving DecidableEq, Repr

namespace IndexDisk

/-- A trace that was never indexed. -/
def blank : IndexDisk :=
  ⟨.absent, false⟩

/-- The disk after a removal that did not fail. -/
def remove (disk : IndexDisk) : IndexFile → IndexDisk
  | .index => { disk with index := .absent }
  | .partialIndex => { disk with partialIndex := false }

/-- An unfinished index has its build file beside it. -/
def Marked (disk : IndexDisk) : Prop :=
  disk.index = .unfinished → disk.partialIndex = true

end IndexDisk

/-! ## One open attempt -/

/-- Whether the index has to be rebuilt. -/
def indexNeedsBuild (status : TtdIndexStatus) (interrupted : Bool) : Bool :=
  interrupted || status != .loaded

/-- The files `remove_index_files` deletes, in its order. -/
def removedFiles : List IndexFile :=
  [.partialIndex, .index]

/-- Where an open attempt stands. -/
inductive OpenStage where
  /-- No process has the trace open. -/
  | closed
  /-- `ensure_index` is about to look for `<trace>.idxt`. -/
  | lookingForPartial
  /-- It is about to ask the engine for the index state. -/
  | readingState (interrupted : Bool)
  /-- `remove_index_files` has these files left. -/
  | removing (files : List IndexFile)
  /-- `build_index` is running. -/
  | building
  /-- `ensure_index` returned without building. -/
  | kept (status : TtdIndexStatus)
  /-- It returned after a build. -/
  | built
  /-- The open attempt returned an error. -/
  | failed (error : TtdError)
  deriving DecidableEq, Repr

/-- What can happen next to a trace. -/
inductive OpenEvent where
  /-- A process opens the trace file, which is there and loads, or not. -/
  | openTrace (found loads : Bool)
  /-- `ensure_index` looks for `<trace>.idxt`. -/
  | lookForPartial
  /-- The engine answers with the state of the index. -/
  | indexState (status : TtdIndexStatus)
  /-- A removal ends, `none` standing for success or a file that is not there. -/
  | removeFile (failure : Option String)
  /-- The build creates `<trace>.idxt`. -/
  | writePartial
  /-- The build changes `<trace>.idx`. -/
  | writeIndex (contents : IndexContents)
  /-- The build deletes `<trace>.idxt`. -/
  | deletePartial
  /-- The build ends, and this is the state it reports. -/
  | buildEnded (status : TtdIndexStatus)
  /-- The process exits or is killed. -/
  | kill
  deriving DecidableEq, Repr

/-- A trace, its files and the open attempt in progress. -/
structure OpenAttempt where
  trace : TracePath
  disk : IndexDisk
  stage : OpenStage
  deriving DecidableEq, Repr

namespace OpenAttempt

/-- `open_engine` up to `ensure_index`. -/
def openEngine (trace : TracePath) (found loads : Bool) : OpenStage :=
  if !found then .failed (.traceNotFound trace.display)
  else if !loads then .failed (.traceLoadFailed trace.display)
  else .lookingForPartial

/-- The loop of `remove_index_files`, entered with the files left; the build
follows it. -/
def removeIndexFiles : List IndexFile → OpenStage
  | [] => .building
  | file :: rest => .removing (file :: rest)

/-- `ensure_index` once it has both answers. -/
def ensureIndex (status : TtdIndexStatus) (interrupted : Bool) : OpenStage :=
  if !indexNeedsBuild status interrupted then .kept status
  else if interrupted then removeIndexFiles removedFiles
  else .building

/-- One event.  A build keeps `<trace>.idxt` while it writes `<trace>.idx`, and
deletes it only once `<trace>.idx` is complete. -/
def step : LStep OpenAttempt OpenEvent := fun attempt event =>
  match event, attempt.stage with
  | .openTrace found loads, .closed =>
      some { attempt with stage := openEngine attempt.trace found loads }
  | .lookForPartial, .lookingForPartial =>
      some { attempt with stage := .readingState attempt.disk.partialIndex }
  | .indexState status, .readingState interrupted =>
      some { attempt with stage := ensureIndex status interrupted }
  | .removeFile none, .removing (file :: rest) =>
      some { attempt with disk := attempt.disk.remove file, stage := removeIndexFiles rest }
  | .removeFile (some message), .removing (file :: _) =>
      some { attempt with
        stage := .failed (.indexFileAccess (file.path attempt.trace).display message) }
  | .writePartial, .building =>
      some { attempt with disk.partialIndex := true }
  | .writeIndex contents, .building =>
      if attempt.disk.partialIndex then some { attempt with disk.index := contents } else none
  | .deletePartial, .building =>
      if attempt.disk.index = .complete then some { attempt with disk.partialIndex := false }
      else none
  | .buildEnded status, .building =>
      some { attempt with
        stage := if status = .loaded then .built else .failed .indexBuildFailed }
  | .kill, .closed => none
  | .kill, _ => some { attempt with stage := .closed }
  | _, _ => none

/-- A kill or a failed removal, after which nothing more is removed. -/
def endsRemoval : OpenEvent → Bool
  | .kill => true
  | .removeFile (some _) => true
  | _ => false

/-- The removal of an unfinished `<trace>.idx` is cut short when
`<trace>.idxt` is gone already. -/
def CutShort (attempt : OpenAttempt) (event : OpenEvent) : Prop :=
  attempt.stage = .removing [.index] ∧ attempt.disk.index = .unfinished ∧
    endsRemoval event = true

instance (attempt : OpenAttempt) (event : OpenEvent) : Decidable (attempt.CutShort event) :=
  inferInstanceAs (Decidable (_ ∧ _ ∧ _))

/-- The open attempt keeps no unfinished index. -/
def KeepsFinished (attempt : OpenAttempt) : Prop :=
  ∀ status, attempt.stage = .kept status → attempt.disk.index ≠ .unfinished

/-! ## The marker outlives the index it marks -/

/-- What holds between two events, as long as no removal is cut short. -/
structure Guarded (attempt : OpenAttempt) : Prop where
  /-- Only between the two removals can an unfinished index stand alone. -/
  marked : attempt.stage ≠ .removing [.index] → attempt.disk.Marked
  /-- `ensure_index` remembers the lookup rightly. -/
  observed : ∀ interrupted, attempt.stage = .readingState interrupted →
    interrupted = attempt.disk.partialIndex
  /-- Files are removed in the order of the loop. -/
  ordered : ∀ files, attempt.stage = .removing files →
    files = removedFiles ∨ files = [.index]
  /-- A kept index is not an unfinished one. -/
  kept : attempt.KeepsFinished

variable {attempt next : OpenAttempt} {event : OpenEvent}

/-- Asking for the index state leads to one of three stages. -/
theorem ensureIndex_cases (status : TtdIndexStatus) (interrupted : Bool) :
    ensureIndex status interrupted = .kept status ∧ interrupted = false ∨
      ensureIndex status interrupted = .removing removedFiles ∨
      ensureIndex status interrupted = .building ∧ interrupted = false := by
  cases interrupted with
  | false =>
      by_cases needed : indexNeedsBuild status false = true
      · right
        right
        simp [ensureIndex, needed]
      · left
        simp [ensureIndex, needed]
  | true =>
      right
      left
      simp [ensureIndex, indexNeedsBuild, removeIndexFiles, removedFiles]

/-- A stage that keeps nothing, remembers no lookup and removes nothing is
guarded by its disk alone. -/
theorem guarded_of_marked {trace : TracePath} {disk : IndexDisk} {stage : OpenStage}
    (marked : disk.Marked) (reading : ∀ interrupted, stage ≠ .readingState interrupted)
    (removing : ∀ files, stage ≠ .removing files) (kept : ∀ status, stage ≠ .kept status) :
    Guarded ⟨trace, disk, stage⟩ := by
  constructor
  · intro _
    exact marked
  · rintro interrupted at_
    exact absurd at_ (reading interrupted)
  · rintro files at_
    exact absurd at_ (removing files)
  · rintro status at_
    exact absurd at_ (kept status)

/-- A lookup of the build file is remembered rightly. -/
theorem guarded_lookedForPartial (marked : attempt.disk.Marked) :
    Guarded { attempt with stage := .readingState attempt.disk.partialIndex } := by
  constructor
  · intro _
    exact marked
  · rintro interrupted reading
    exact (OpenStage.readingState.inj reading).symm
  · rintro files removing
    cases removing
  · rintro status kept
    cases kept

/-- An index is kept only where no build file was found. -/
theorem guarded_ensureIndex (marked : attempt.disk.Marked) {status : TtdIndexStatus}
    {interrupted : Bool} (observed : interrupted = attempt.disk.partialIndex) :
    Guarded { attempt with stage := ensureIndex status interrupted } := by
  rcases ensureIndex_cases status interrupted with ⟨stage, clear⟩ | stage | ⟨stage, clear⟩
  · constructor
    · intro _
      exact marked
    · rintro _ reading
      simp [stage] at reading
    · rintro _ removing
      simp [stage] at removing
    · rintro _ _ unfinished
      have present := marked unfinished
      rw [← observed, clear] at present
      cases present
  · constructor
    · intro _
      exact marked
    · rintro _ reading
      simp [stage] at reading
    · rintro files removing
      left
      simpa [stage] using removing.symm
    · rintro _ kept
      simp [stage] at kept
  · apply guarded_of_marked marked <;> simp [stage]

/-- The build file goes first, while the index it marks is still there. -/
theorem Guarded.removed (guarded : attempt.Guarded) {file : IndexFile} {rest : List IndexFile}
    (at_ : attempt.stage = .removing (file :: rest)) :
    Guarded { attempt with disk := attempt.disk.remove file, stage := removeIndexFiles rest } := by
  rcases guarded.ordered _ at_ with order | order
  · simp only [removedFiles, List.cons.injEq] at order
    rcases order with ⟨rfl, rfl⟩
    constructor
    · intro elsewhere
      exact absurd rfl elsewhere
    · rintro _ reading
      cases reading
    · rintro files removing
      right
      exact (OpenStage.removing.inj removing).symm
    · rintro _ kept
      cases kept
  · simp only [List.cons.injEq] at order
    rcases order with ⟨rfl, rfl⟩
    apply guarded_of_marked
    · rintro unfinished
      cases unfinished
    all_goals simp [removeIndexFiles]

/-- Where nothing is cut short, the disk stays marked. -/
theorem Guarded.marked_of_spared (guarded : attempt.Guarded) (spared : ¬ attempt.CutShort event)
    (ends : endsRemoval event = true) : attempt.disk.Marked := by
  by_cases between : attempt.stage = .removing [.index]
  · rintro unfinished
    exact absurd ⟨between, unfinished, ends⟩ spared
  · exact guarded.marked between

/-- Every event that does not cut a removal short keeps the guard. -/
theorem Guarded.step (guarded : attempt.Guarded) (spared : ¬ attempt.CutShort event)
    (stepEq : OpenAttempt.step attempt event = some next) : next.Guarded := by
  unfold OpenAttempt.step at stepEq
  split at stepEq
  -- The trace is opened, and `ensure_index` asks its two questions.
  · rename_i found loads at_
    cases stepEq
    apply guarded_of_marked (guarded.marked (by simp [at_]))
    all_goals
      intro _
      simp only [openEngine]
      split
      · simp
      · split <;> simp
  · rename_i at_
    cases stepEq
    exact guarded_lookedForPartial (guarded.marked (by simp [at_]))
  · rename_i status interrupted at_
    cases stepEq
    exact guarded_ensureIndex (guarded.marked (by simp [at_])) (guarded.observed _ at_)
  -- The loop of `remove_index_files`.
  · rename_i file rest at_
    cases stepEq
    exact guarded.removed at_
  · cases stepEq
    apply guarded_of_marked (guarded.marked_of_spared spared rfl) <;> simp
  -- The build.
  · rename_i at_
    cases stepEq
    apply guarded_of_marked (fun _ => rfl) <;> simp [at_]
  · rename_i at_
    split at stepEq
    · rename_i present
      cases stepEq
      apply guarded_of_marked
      · exact fun _ => present
      all_goals simp [at_]
    · cases stepEq
  · rename_i at_
    split at stepEq
    · rename_i complete
      cases stepEq
      apply guarded_of_marked
      · rintro unfinished
        simp [complete] at unfinished
      all_goals simp [at_]
    · cases stepEq
  · rename_i status at_
    cases stepEq
    apply guarded_of_marked (guarded.marked (by simp [at_]))
    all_goals
      intro _
      split <;> simp
  -- The process goes away.
  · cases stepEq
  · cases stepEq
    apply guarded_of_marked (guarded.marked_of_spared spared rfl) <;> simp
  · cases stepEq

/-- In every run in which no removal is cut short, no open attempt keeps an
unfinished index. -/
theorem keepsFinished_of_run {start finish : OpenAttempt} {events : List OpenEvent}
    (closed : start.stage = .closed) (marked : start.disk.Marked)
    (run : Run step (fun attempt event => ¬ attempt.CutShort event) start events finish) :
    finish.KeepsFinished := by
  have initial : start.Guarded := by
    apply guarded_of_marked marked <;> simp [closed]
  have final : finish.Guarded :=
    run.invariant initial fun guarded spared stepEq => guarded.step spared stepEq
  exact final.kept

/-! ## A removal cut short -/

/-- A removal cut short leaves an index that the next open attempt keeps,
should the engine report it as loaded. -/
theorem kept_of_cutShort (cut : attempt.CutShort event) (gone : attempt.disk.partialIndex = false)
    (stepEq : step attempt event = some next) :
    ∃ events finish, Run step AnyStep next events finish ∧ ¬ finish.KeepsFinished := by
  rcases attempt with ⟨trace, ⟨index, partialIndex⟩, stage⟩
  rcases cut with ⟨stageEq, unfinished, ended⟩
  dsimp only at stageEq unfinished gone
  subst stageEq unfinished gone
  have keeps : ¬ KeepsFinished ⟨trace, ⟨.unfinished, false⟩, .kept .loaded⟩ := by
    rintro finished
    exact finished .loaded rfl rfl
  unfold endsRemoval at ended
  split at ended
  · cases stepEq
    exact ⟨[.openTrace true true, .lookForPartial, .indexState .loaded], _,
      run_of_exec rfl, keeps⟩
  · cases stepEq
    exact ⟨[.kill, .openTrace true true, .lookForPartial, .indexState .loaded], _,
      run_of_exec rfl, keeps⟩
  · cases ended

/-- A trace that was never indexed, before its first open attempt. -/
def unindexed : OpenAttempt :=
  ⟨⟨"app", "run"⟩, .blank, .closed⟩

/-- A build that is killed while it writes the index. -/
def killedBuild : List OpenEvent :=
  [.openTrace true true, .lookForPartial, .indexState .notPresent, .writePartial,
    .writeIndex .unfinished, .kill]

/-- A second open attempt that finds what the killed build left. -/
def reopened : List OpenEvent :=
  killedBuild ++ [.openTrace true true, .lookForPartial, .indexState .loaded]

/-- Killed between its two removals, the second open attempt leaves the
truncated index to the third one, which keeps it. -/
theorem killed_between_removals_keeps_unfinished :
    ∃ events finish, Run step AnyStep unindexed events finish ∧ ¬ finish.KeepsFinished := by
  refine ⟨reopened ++ [.removeFile none, .kill, .openTrace true true, .lookForPartial,
    .indexState .loaded], _, run_of_exec rfl, ?_⟩
  rintro finished
  exact finished .loaded rfl rfl

/-- The second open attempt rebuilds the index, and the third one keeps it. -/
def rebuiltRun : List OpenEvent :=
  reopened ++ [.removeFile none, .removeFile none, .writePartial, .writeIndex .complete,
    .deletePartial, .buildEnded .loaded, .kill, .openTrace true true, .lookForPartial,
    .indexState .loaded]

theorem rebuiltRun_keepsFinished :
    ∃ finish, exec step unindexed rebuiltRun = some finish ∧
      finish.stage = .kept .loaded ∧ finish.KeepsFinished := by
  refine ⟨_, rfl, rfl, ?_⟩
  have marked : unindexed.disk.Marked := by
    rintro unfinished
    cases unfinished
  have run : Run step (fun attempt event => ¬ attempt.CutShort event) unindexed rebuiltRun _ :=
    run_of_exec_restrict rfl
  exact keepsFinished_of_run rfl marked run

end OpenAttempt

end TtdGdbserver.Target
