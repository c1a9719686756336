import Mathlib.Data.List.Forall2
import Mathlib.Data.List.Nodup
import TtdGdbserver.Gdb.Commands
import TtdGdbserver.Transition.Core

/-!
# Reading the checkpoint listing back

A client splits the listing at its separators.  Whatever texts the checkpoints
were saved with, it finds one row per live checkpoint in it, and the ids and
positions that a restart uses.
-/

namespace TtdGdbserver.Gdb

open TtdGdbserver.Text TtdGdbserver.Transition TtdGdbserver.Ttd

/-! ## The client's side -/

/-- The position that a text `SEQ:STEPS` stands for. -/
def parsePosition (text : Text) : Option TtdPosition := do
  let (seq, steps) ← splitOnce ':' text
  let sequence ← fromStrRadix 16 seq
  let steps ← fromStrRadix 16 steps
  return ⟨sequence, steps⟩

theorem parsePosition_formatPosition (pos : TtdPosition) :
    parsePosition (formatPosition pos) = some pos := by
  have noColon : ':' ∉ upperHex pos.sequence := fun mem => (spells_upperHex mem).notColon rfl
  simp [parsePosition, formatPosition, splitOnce_append noColon]

/-- A line has three fields, an id, a position and a text. -/
def ReadsRow (line : Text) (id : UInt64) (pos : TtdPosition) : Prop :=
  ∃ num when where_, line.splitOn '\t' = [num, when, where_] ∧
    fromStrRadix 10 num = some id ∧ parsePosition when = some pos

/-- The text between `Checkpoint ` and the next space is the id. -/
def AcknowledgesId (ack : Text) (id : UInt64) : Prop :=
  ∃ num rest, ack = "Checkpoint ".toList ++ num ++ ' ' :: rest ∧ ' ' ∉ num ∧
    fromStrRadix 10 num = some id

namespace CheckpointTable

/-! ## The rows -/

/-- The first line of a listing. -/
def header : Text := "Num\tWhen\tWhere".toList

/-- The text of a row's last field. -/
def whereField (saved : Checkpoint) : Text :=
  if saved.where_.isEmpty then ['-'] else saved.where_

/-- A row without its line feed. -/
def rowLine (id : UInt64) (saved : Checkpoint) : Text :=
  decimal id ++ '\t' :: (saved.when ++ '\t' :: whereField saved)

theorem row_eq (id : UInt64) (saved : Checkpoint) : row id saved = rowLine id saved ++ ['\n'] := by
  simp only [row, rowLine, whereField, List.append_assoc, List.cons_append]

theorem not_mem_whereField {saved : Checkpoint} {separator : Char}
    (separates : separator ∈ separators) : separator ∉ whereField saved := by
  unfold whereField
  split
  · intro mem
    rw [List.mem_singleton.mp mem] at separates
    exact absurd separates (by decide)
  · intro mem
    exact saved.oneField separator mem separates

/-- What is printed for a number or a position has no whitespace in it. -/
theorem not_mem_decimal {separator : Char} (blank : isWhitespace separator = true)
    (id : UInt64) : separator ∉ decimal id := by
  intro mem
  rw [(spells_decimal mem).visible] at blank
  contradiction

theorem not_mem_when {separator : Char} (blank : isWhitespace separator = true)
    (saved : Checkpoint) : separator ∉ saved.when := by
  rw [saved.spelled]
  intro mem
  rw [visible_formatPosition saved.position separator mem] at blank
  contradiction

theorem readsRow_rowLine (id : UInt64) (saved : Checkpoint) :
    ReadsRow (rowLine id saved) id saved.position := by
  refine ⟨decimal id, saved.when, whereField saved, ?_, fromStrRadix_decimal id, ?_⟩
  · rw [rowLine, List.splitOn_append_cons_self_of_not_mem (not_mem_decimal (by decide) id),
      List.splitOn_append_cons_self_of_not_mem (not_mem_when (by decide) saved),
      List.splitOn_eq_singleton (not_mem_whereField (by decide))]
  · rw [saved.spelled, parsePosition_formatPosition]

theorem not_mem_rowLine (id : UInt64) (saved : Checkpoint) : '\n' ∉ rowLine id saved := by
  rw [rowLine, List.mem_append, List.mem_cons, List.mem_append, List.mem_cons]
  rintro (inId | tab | inWhen | tab | inWhere)
  · exact not_mem_decimal (by decide) id inId
  · exact absurd tab (by decide)
  · exact not_mem_when (by decide) saved inWhen
  · exact absurd tab (by decide)
  · exact not_mem_whereField (by decide) inWhere

/-- The listing as a list of terminated lines. -/
theorem render_eq (table : CheckpointTable) :
    table.render =
      (header :: table.byId.toList.map fun (id, saved) => rowLine id saved).flatMap
        fun line => line ++ ['\n'] := by
  have start : table.render =
      header ++ ['\n'] ++ table.byId.toList.flatMap fun (id, saved) => row id saved := rfl
  rw [start, List.flatMap_cons, List.flatMap_map]
  simp only [row_eq]

/-- The lines of the listing: the header, and a row per checkpoint. -/
theorem splitOn_render (table : CheckpointTable) :
    table.render.splitOn '\n' =
      header :: (table.byId.toList.map fun (id, saved) => rowLine id saved) ++ [[]] := by
  rw [render_eq]
  apply splitOn_terminated
  intro line mem
  rcases List.mem_cons.mp mem with rfl | mem
  · decide
  · obtain ⟨⟨id, saved⟩, -, rfl⟩ := List.mem_map.mp mem
    exact not_mem_rowLine id saved

/-- The live checkpoints, in the order of the listing. -/
def entries (table : CheckpointTable) : List (UInt64 × TtdPosition) :=
  table.byId.toList.map fun (id, saved) => (id, saved.position)

theorem ascending_entries (table : CheckpointTable) :
    table.entries.Pairwise fun first second => first.1 < second.1 := by
  rw [entries, List.pairwise_map]
  exact Std.ExtTreeMap.ordered_keys_toList.imp Std.compare_eq_lt.mp

theorem mem_entries_iff (table : CheckpointTable) (id : UInt64) (pos : TtdPosition) :
    (id, pos) ∈ table.entries ↔ table.position id = some pos := by
  rw [entries, position, List.mem_map, Option.map_eq_some_iff]
  constructor
  · rintro ⟨⟨_, saved⟩, mem, same⟩
    cases same
    exact ⟨saved, Std.ExtTreeMap.mem_toList_iff_getElem?_eq_some.mp mem, rfl⟩
  · rintro ⟨saved, found, rfl⟩
    exact ⟨(id, saved), Std.ExtTreeMap.mem_toList_iff_getElem?_eq_some.mpr found, rfl⟩

theorem readsRow_entries (table : CheckpointTable) :
    List.Forall₂ (fun line entry => ReadsRow line entry.1 entry.2)
      (table.byId.toList.map fun (id, saved) => rowLine id saved) table.entries := by
  rw [entries, List.forall₂_map_left_iff, List.forall₂_map_right_iff]
  exact List.forall₂_same.mpr fun entry _ => readsRow_rowLine entry.1 entry.2

/-! ## Acknowledgements -/

theorem acknowledgesId (id : UInt64) (when where_ : Text) :
    AcknowledgesId (acknowledgement id when where_) id := by
  have noSpace := not_mem_decimal (show isWhitespace ' ' = true by decide) id
  have around : " at ".toList = ' ' :: "at ".toList := rfl
  unfold acknowledgement
  rw [around]
  split
  · exact ⟨decimal id, "at ".toList ++ when, by simp, noSpace, fromStrRadix_decimal id⟩
  · exact ⟨decimal id, "at ".toList ++ when ++ ' ' :: where_, by simp, noSpace,
      fromStrRadix_decimal id⟩

/-! ## Every sequence of calls -/

/-- What may happen to the table between two listings. -/
inductive TableRequest where
  | insert (pos : TtdPosition) (where_ : Text)
  | remove (id : UInt64)

/-- The request hands out an id. -/
def TableRequest.inserts : TableRequest → Bool
  | .insert _ _ => true
  | .remove _ => false

/-- A call on the table; what the insertions answered is kept. -/
def requestStep : LStep (CheckpointTable × List (UInt64 × Text)) TableRequest :=
  fun (table, issued) request => some <|
    match request with
    | .insert pos where_ =>
        let (answer, table) := table.insert pos where_
        (table, issued ++ [answer])
    | .remove id => ((table.remove id).2, issued)

/-- The ids handed out are the numbers from 1 on, and the counter is past them. -/
structure Issued (table : CheckpointTable) (issued : List (UInt64 × Text)) : Prop where
  next : table.nextId.toNat = issued.length + 1
  ids : issued.map (fun answer => answer.1.toNat) = List.range' 1 issued.length

theorem Issued.insert {table : CheckpointTable} {issued : List (UInt64 × Text)}
    (counted : Issued table issued) (room : issued.length + 2 < 2 ^ 64) (pos : TtdPosition)
    (where_ : Text) :
    Issued (table.insert pos where_).2 (issued ++ [(table.insert pos where_).1]) where
  next := by
    have next := counted.next
    rw [nextId_insert, UInt64.toNat_add, List.length_append, List.length_singleton, next]
    exact Nat.mod_eq_of_lt (by simpa using room)
  ids := by
    have last : (table.insert pos where_).1.1.toNat = 1 + issued.length := by
      rw [Nat.add_comm]
      exact counted.next
    rw [List.map_append, counted.ids, List.length_append, List.length_singleton,
      List.range'_1_concat, List.map_singleton, last]

/-- As long as the counter does not wrap, it counts the insertions. -/
theorem issued_of_run {requests : List TableRequest}
    {state : CheckpointTable × List (UInt64 × Text)}
    (run : Run requestStep AnyStep (new, []) requests state)
    (few : requests.countP TableRequest.inserts < 2 ^ 64 - 1) :
    state.2.length = requests.countP TableRequest.inserts ∧ Issued state.1 state.2 := by
  induction run with
  | nil => exact ⟨rfl, rfl, rfl⟩
  | @snoc requests middle finish request _ _ stepEq ih =>
      rw [List.countP_append] at few ⊢
      obtain ⟨counted, issued⟩ := ih (lt_of_le_of_lt (Nat.le_add_right ..) few)
      cases stepEq
      cases request with
      | insert pos where_ =>
          have one : [TableRequest.insert pos where_].countP TableRequest.inserts = 1 := rfl
          rw [one] at few ⊢
          refine ⟨?_, issued.insert (by omega) pos where_⟩
          rw [← counted]
          exact List.length_append
      | remove id => exact ⟨counted, issued.next, issued.ids⟩

theorem acknowledges_of_run {requests : List TableRequest}
    {state : CheckpointTable × List (UInt64 × Text)}
    (run : Run requestStep AnyStep (new, []) requests state) :
    ∀ answer ∈ state.2, AcknowledgesId answer.2 answer.1 := by
  induction run with
  | nil => simp
  | @snoc requests middle finish request _ _ stepEq ih =>
      cases stepEq
      cases request with
      | insert pos where_ =>
          intro answer mem
          rcases List.mem_append.mp mem with earlier | last
          · exact ih answer earlier
          · rw [List.mem_singleton.mp last]
            exact acknowledgesId ..
      | remove id => exact ih

/-- The listing parses back to the table, the acknowledgements to the ids, and
no id is handed out twice. -/
theorem listing_parses_back {requests : List TableRequest} {table : CheckpointTable}
    {issued : List (UInt64 × Text)}
    (run : Run requestStep AnyStep (new, []) requests (table, issued))
    (few : requests.countP TableRequest.inserts < 2 ^ 64 - 1) :
    (∃ lines, table.render.splitOn '\n' = header :: lines ++ [[]] ∧
      header.splitOn '\t' = ["Num".toList, "When".toList, "Where".toList] ∧
      List.Forall₂ (fun line entry => ReadsRow line entry.1 entry.2) lines table.entries) ∧
    (table.entries.Pairwise fun first second => first.1 < second.1) ∧
    (∀ id pos, (id, pos) ∈ table.entries ↔ table.position id = some pos) ∧
    (∀ lifetime id pos, table.position id = some pos →
      restartTarget lifetime table (checkpointArgument id) = .ok pos) ∧
    (∀ answer ∈ issued, AcknowledgesId answer.2 answer.1) ∧
    (issued.map Prod.fst).Nodup := by
  refine ⟨⟨_, table.splitOn_render, by decide, table.readsRow_entries⟩, table.ascending_entries,
    table.mem_entries_iff, ?_, acknowledges_of_run run, ?_⟩
  · intro lifetime id pos saved
    exact restartTarget_checkpointArgument lifetime table saved
  · have distinct : (issued.map fun answer => answer.1.toNat).Nodup := by
      rw [(issued_of_run run few).2.ids]
      exact List.nodup_range'
    have same : (issued.map fun answer => answer.1.toNat) =
        (issued.map Prod.fst).map UInt64.toNat := by rw [List.map_map]; rfl
    rw [same] at distinct
    exact List.Nodup.of_map UInt64.toNat distinct

/-- Two texts that try to forge rows, and a removal between them. -/
def forgingRequests : List TableRequest :=
  [.insert ⟨0xcafe, 0x12⟩ "a\n9\t0:0\tb".toList, .remove 1, .insert ⟨1, 2⟩ "\t".toList]

theorem forgingRequests_parse_back :
    ∃ table issued, Run requestStep AnyStep (new, []) forgingRequests (table, issued) ∧
      table.entries = [(2, ⟨1, 2⟩)] ∧ (issued.map Prod.fst).Nodup ∧
      ∃ lines, table.render.splitOn '\n' = header :: lines ++ [[]] ∧
        List.Forall₂ (fun line entry => ReadsRow line entry.1 entry.2) lines table.entries := by
  obtain ⟨⟨table, issued⟩, executed, live⟩ := Option.map_eq_some_iff.mp
    (show (exec requestStep (new, []) forgingRequests).map (fun state => state.1.entries) =
      some [(2, ⟨1, 2⟩)] by decide +kernel)
  have run := run_of_exec executed
  obtain ⟨⟨lines, split, -, rows⟩, -, -, -, -, fresh⟩ :=
    listing_parses_back run (by decide +kernel)
  exact ⟨table, issued, run, live, fresh, lines, split, rows⟩

end CheckpointTable

end TtdGdbserver.Gdb
