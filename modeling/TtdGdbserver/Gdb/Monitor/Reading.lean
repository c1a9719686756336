import TtdGdbserver.Gdb.Listing
import TtdGdbserver.Gdb.Monitor.Core
import TtdGdbserver.Ttd.ContextCodec

/-!
# Reading the monitor's listings back

A script that splits a listing into lines and words gets the records back that
it was printed from: the overview, the threads, the exception events, the
counters, and of a dump also the bytes and the runs that they came in.
-/

namespace TtdGdbserver.Gdb.Monitor

open TtdGdbserver.Target TtdGdbserver.Text TtdGdbserver.Ttd

/-! ## The client's side -/

/-- The lines of a reply. -/
def lines (reply : Text) : List Text :=
  (reply.splitOn '\n').dropLast

/-- The thread of a line. -/
def readThread (line : Text) : Option ThreadLifetime :=
  match splitWhitespace line with
  | [uid, os, first, last] => do
      let uniqueId ← (fromStrRadix 10 uid).bind u32TryFrom
      let osThreadId ← (parseHex os).bind u32TryFrom
      let first ← parsePosition first
      let last ← parsePosition last
      return ⟨⟨uniqueId, osThreadId⟩, (first, last)⟩
  | _ => none

/-- The threads of a listing, below its header. -/
def readThreads (reply : Text) : Option (List ThreadLifetime) :=
  ((lines reply).drop 1).mapM readThread

/-- The exception event of a line. -/
def readEvent (line : Text) : Option TtdExceptionEvent :=
  match splitWhitespace line with
  | [code, _, record, _, pc, _, pos] => do
      let code ← (parseHex code).bind u32TryFrom
      let recordAddress ← parseHex record
      let (pc, _) ← splitOnce ')' pc
      let programCounter ← parseHex pc
      let position ← parsePosition pos
      return ⟨position, code, recordAddress, programCounter⟩
  | _ => none

/-- The events of a listing, below its header. -/
def readEvents (reply : Text) : Option (List TtdExceptionEvent) :=
  ((lines reply).drop 1).mapM readEvent

/-- The number at the end of a line. -/
def readCounter (line : Text) : Option UInt64 :=
  (splitWhitespace line).getLast?.bind (fromStrRadix 10)

/-- The counters of `monitor ttd stats`. -/
def readStats (reply : Text) : Option TargetStats :=
  match ((lines reply).take 6).mapM readCounter with
  | some [queries, cursorSeeks, steps, replays, adds, removes] =>
      some ⟨queries, cursorSeeks, steps, replays, adds, removes⟩
  | _ => none

/-- What `monitor ttd info` tells. -/
structure Info where
  lifetime : TtdPosition × TtdPosition
  current : TtdPosition
  indexStatus : TtdIndexStatus
  modules : UInt64
  threads : UInt64
  exceptions : UInt64
  deriving DecidableEq, Repr

/-- The two positions of the lifetime line. -/
def readLifetime (line : Text) : Option (TtdPosition × TtdPosition) :=
  match splitWhitespace line with
  | [_, first, _, last] => do
      let first ← parsePosition first
      let last ← parsePosition last
      return (first, last)
  | _ => none

/-- The position at the end of a line. -/
def readCurrent (line : Text) : Option TtdPosition :=
  (splitWhitespace line).getLast?.bind parsePosition

/-- The status that the label in the line stands for. -/
def readIndexStatus (line : Text) : Option TtdIndexStatus :=
  (splitOnce ' ' line).bind fun (_, label) =>
    [.loaded, .notPresent, .unloadable, .unknown].find? fun status =>
      indexStatusLabel status = label

/-- The overview, from its eight lines. -/
def readInfo (reply : Text) : Option Info :=
  match lines reply with
  | [_, _, lifetime, current, index, modules, threads, exceptions] => do
      let lifetime ← readLifetime lifetime
      let current ← readCurrent current
      let indexStatus ← readIndexStatus index
      let modules ← readCounter modules
      let threads ← readCounter threads
      let exceptions ← readCounter exceptions
      return ⟨lifetime, current, indexStatus, modules, threads, exceptions⟩
  | _ => none

/-- What a dump tells. -/
structure Dump where
  addr : UInt64
  len : Nat
  current : TtdPosition
  ranges : List TtdMemRange
  bytes : List UInt8
  deriving DecidableEq, Repr

/-- The address, the length and the position of a dump's first line. -/
def readHead (line : Text) : Option (UInt64 × Nat × TtdPosition) :=
  match splitWhitespace line with
  | [addr, _, _, len, _, _, pos] => do
      let (addr, _) ← splitOnce ':' addr
      let addr ← parseHex addr
      let len ← fromStrRadix 10 len
      let current ← parsePosition pos
      return (addr, len.toNat, current)
  | _ => none

/-- The run of bytes of a line. -/
def readRange (line : Text) : Option TtdMemRange :=
  match splitWhitespace line with
  | [address, size, _, sequence] => do
      let address ← parseHex address
      let (_, size) ← splitOnce '+' size
      let size ← parseHex size
      let sequence ← parseHex sequence
      return ⟨address, size, sequence⟩
  | _ => none

/-- What the last line of a dump begins with. -/
def bytesLabel : Text := "bytes:".toList

/-- The bytes of a line, if it is the last one of a dump. -/
def readBytes (line : Text) : Option (List UInt8) :=
  match splitWhitespace line with
  | label :: pairs => if label = bytesLabel then decodeHex (asBytes pairs.flatten) else none
  | [] => none

/-- A dump; a line that is no run of bytes is passed over. -/
def readDump (reply : Text) : Option Dump :=
  match lines reply with
  | [] => none
  | head :: rows => (readHead head).map fun (addr, len, current) =>
      ⟨addr, len, current, rows.filterMap readRange, (rows.findSome? readBytes).getD []⟩

/-! ## Lines -/

/-- A text that a split into lines keeps in one piece. -/
abbrev OneLine (text : Text) : Prop :=
  '\n' ∉ text

theorem OneLine.append {first second : Text} (left : OneLine first) (right : OneLine second) :
    OneLine (first ++ second) := by
  rw [OneLine, List.mem_append, not_or]
  exact ⟨left, right⟩

theorem OneLine.leftpad {text : Text} (oneLine : OneLine text) (width : Nat) :
    OneLine (text.leftpad width ' ') := by
  apply OneLine.append _ oneLine
  intro mem
  exact absurd (List.eq_of_mem_replicate mem) (by decide)

theorem oneLine_of_isWord {text : Text} (word : IsWord text) : OneLine text := by
  intro mem
  have visible := word.visible '\n' mem
  contradiction

theorem lines_written {rows : List Text} (oneLine : ∀ row ∈ rows, OneLine row) :
    lines (written rows) = rows := by
  rw [lines, written, splitOn_terminated oneLine, List.dropLast_concat]

/-- Records that are read back one by one are read back together. -/
theorem mapM_written {α : Type} {write : α → Text} {read : Text → Option α}
    (readBack : ∀ item, read (write item) = some item) (items : List α) :
    (items.map write).mapM read = some items := by
  induction items with
  | nil => rfl
  | cons item items ih => simp [readBack item, ih]

/-! ## Words of a row -/

theorem isWord_count (length : Nat) : IsWord (count length) := by
  have digits : ∀ digit < 10, isWhitespace (Nat.digitChar digit) = false := by decide
  refine ⟨Nat.toDigits_ne_nil, fun char mem => ?_⟩
  obtain ⟨digit, small, rfl⟩ := mem_toDigits (show 1 < 10 by decide) mem
  exact digits digit small

theorem isWord_decimal (value : UInt64) : IsWord (decimal value) :=
  isWord_count value.toNat

theorem isWord_lowerHex (value : UInt64) : IsWord (lowerHex value) :=
  ⟨lowerHex_ne_nil value, fun _ mem => (spells_lowerHex mem).visible⟩

/-- The two characters of the prefix are visible. -/
theorem isWord_prefixed {digits : Text} (visible : ∀ char ∈ digits, isWhitespace char = false) :
    IsWord ('0' :: 'x' :: digits) where
  nonempty := List.cons_ne_nil _ _
  visible := by
    rw [List.forall_mem_cons, List.forall_mem_cons]
    exact ⟨rfl, rfl, visible⟩

theorem isWord_prefixedHex (value : UInt64) : IsWord (prefixedHex value) :=
  isWord_prefixed (isWord_lowerHex value).visible

/-- A column of zeros and digits. -/
theorem visible_column (width : Nat) (value : UInt64) :
    ∀ char ∈ (lowerHex value).leftpad width '0', isWhitespace char = false := fun char mem =>
  (spells_leftpad (fun _ written => spells_lowerHex written) char mem).visible

/-- A number of fixed width behind the prefix. -/
theorem isWord_prefixedColumn (width : Nat) (value : UInt64) :
    IsWord ('0' :: 'x' :: (lowerHex value).leftpad width '0') :=
  isWord_prefixed (visible_column width value)

theorem isWord_position (sequence : UInt64) {steps : Text}
    (visible : ∀ char ∈ steps, isWhitespace char = false) :
    IsWord (lowerHex sequence ++ ':' :: steps) := by
  apply (isWord_lowerHex sequence).append
  rw [List.forall_mem_cons]
  exact ⟨rfl, visible⟩

theorem isWord_displayPosition (pos : TtdPosition) : IsWord (displayPosition pos) :=
  isWord_position pos.sequence (isWord_lowerHex pos.steps).visible

theorem isWord_hexByte (byte : UInt8) : IsWord (hexByte byte) := by
  have digits : ∀ value < 16, isWhitespace (Nat.digitChar value) = false := by decide
  have bound := byte.toNat_lt
  refine ⟨List.cons_ne_nil _ _, ?_⟩
  rw [hexByte, List.forall_mem_cons, List.forall_mem_singleton]
  exact ⟨digits _ (by omega), digits _ (by omega)⟩

/-! ## Numbers and positions -/

/-- An address that the monitor prints is one that it takes. -/
@[simp]
theorem parseHex_prefixedHex (value : UInt64) : parseHex (prefixedHex value) = some value :=
  fromStrRadix_lowerHex value

@[simp]
theorem parseHex_column (width : Nat) (value : UInt64) :
    parseHex ('0' :: 'x' :: (lowerHex value).leftpad width '0') = some value :=
  fromStrRadix_leftpad_lowerHex width value

theorem fromStrRadix_count {length : Nat} (small : length < 2 ^ 64) :
    fromStrRadix 10 (count length) = some (UInt64.ofNat length) := by
  have spelled := fromStrRadix_decimal (UInt64.ofNat length)
  rwa [decimal, UInt64.toNat_ofNat_of_lt' small] at spelled

theorem parsePosition_hex {sequence steps : Text} {pos : TtdPosition}
    (noColon : ':' ∉ sequence) (first : fromStrRadix 16 sequence = some pos.sequence)
    (second : fromStrRadix 16 steps = some pos.steps) :
    parsePosition (sequence ++ ':' :: steps) = some pos := by
  simp [parsePosition, splitOnce_append noColon, first, second]

theorem colon_not_mem_lowerHex (value : UInt64) : ':' ∉ lowerHex value := fun mem =>
  (spells_lowerHex mem).notColon rfl

@[simp]
theorem parsePosition_displayPosition (pos : TtdPosition) :
    parsePosition (displayPosition pos) = some pos :=
  parsePosition_hex (colon_not_mem_lowerHex _) (fromStrRadix_lowerHex _) (fromStrRadix_lowerHex _)

@[simp]
theorem u32TryFrom_widened (value : UInt32) : u32TryFrom value.toUInt64 = some value :=
  u32TryFrom_eq_some_iff.mpr rfl

/-! ## Threads -/

/-- A position in its column, without the blanks that align it. -/
def columnWord (pos : TtdPosition) : Text :=
  lowerHex pos.sequence ++ ':' :: (lowerHex pos.steps).leftpad 4 '0'

theorem isWord_columnWord (pos : TtdPosition) : IsWord (columnWord pos) :=
  isWord_position pos.sequence (visible_column 4 pos.steps)

theorem parsePosition_columnWord (pos : TtdPosition) :
    parsePosition (columnWord pos) = some pos :=
  parsePosition_hex (colon_not_mem_lowerHex _) (fromStrRadix_lowerHex _)
    (fromStrRadix_leftpad_lowerHex 4 _)

theorem columnPosition_eq (pos : TtdPosition) :
    columnPosition pos =
      List.replicate (9 - (lowerHex pos.sequence).length) ' ' ++ columnWord pos :=
  List.append_assoc _ _ _

theorem splitWhitespace_columnPosition (pos : TtdPosition) :
    splitWhitespace (columnPosition pos) = [columnWord pos] := by
  rw [columnPosition_eq, splitWhitespace_blank_append, splitWhitespace_word (isWord_columnWord pos)]
  intro char mem
  rw [List.eq_of_mem_replicate mem]
  rfl

theorem oneLine_columnPosition (pos : TtdPosition) : OneLine (columnPosition pos) := by
  rw [columnPosition_eq]
  apply OneLine.append _ (oneLine_of_isWord (isWord_columnWord pos))
  intro mem
  exact absurd (List.eq_of_mem_replicate mem) (by decide)

/-- The gap between two columns. -/
theorem isGap_column : IsGap "  ".toList where
  nonempty := List.cons_ne_nil _ _
  blank := List.forall_mem_cons.mpr ⟨rfl, isGap_space.blank⟩

theorem splitWhitespace_threadRow (t : ThreadLifetime) :
    splitWhitespace (threadRow t) =
      [decimal t.uniqueId.toUInt64, '0' :: 'x' :: (lowerHex t.osThreadId.toUInt64).leftpad 8 '0',
        columnWord t.activeTime.1, columnWord t.activeTime.2] := by
  rw [threadRow, splitWhitespace_gap isGap_column, splitWhitespace_leftpad,
    splitWhitespace_word (isWord_decimal _), splitWhitespace_gap isGap_column,
    splitWhitespace_word (isWord_prefixedColumn 8 _), splitWhitespace_gap isGap_column,
    splitWhitespace_columnPosition, splitWhitespace_columnPosition]
  rfl

theorem readThread_threadRow (t : ThreadLifetime) : readThread (threadRow t) = some t := by
  simp only [readThread, splitWhitespace_threadRow, fromStrRadix_decimal, parseHex_column,
    Option.bind_some, u32TryFrom_widened, parsePosition_columnWord, Option.bind_eq_bind]
  rfl

theorem oneLine_threadRow (t : ThreadLifetime) : OneLine (threadRow t) := by
  have gap : OneLine "  ".toList := by decide
  have os := oneLine_of_isWord (isWord_prefixedColumn 8 t.osThreadId.toUInt64)
  have uid := oneLine_of_isWord (isWord_decimal t.uniqueId.toUInt64)
  exact (uid.leftpad 6).append (gap.append (os.append (gap.append
    ((oneLine_columnPosition _).append (gap.append (oneLine_columnPosition _))))))

theorem readThreads_threads (d : TargetDiagnostics) :
    readThreads (written (threads d)) = some d.threads := by
  have oneLine : ∀ row ∈ threads d, OneLine row := by
    intro row mem
    rcases List.mem_cons.mp mem with rfl | mem
    · decide
    · obtain ⟨t, -, rfl⟩ := List.mem_map.mp mem
      exact oneLine_threadRow t
  rw [readThreads, lines_written oneLine, threads, List.drop_one, List.tail_cons]
  exact mapM_written readThread_threadRow d.threads

/-! ## Events -/

theorem splitWhitespace_eventRow (ev : TtdExceptionEvent) :
    splitWhitespace (eventRow ev) =
      ['0' :: 'x' :: (lowerHex ev.code.toUInt64).leftpad 8 '0', "at".toList,
        prefixedHex ev.recordAddress, "(pc".toList, prefixedHex ev.programCounter ++ [')'],
        "pos".toList, displayPosition ev.position] := by
  have spaced : eventRow ev =
      '0' :: 'x' :: (lowerHex ev.code.toUInt64).leftpad 8 '0' ++ (' ' :: ("at".toList ++ ' ' ::
        (prefixedHex ev.recordAddress ++ (' ' :: ("(pc".toList ++ ' ' ::
          ((prefixedHex ev.programCounter ++ [')']) ++ (' ' :: ("pos".toList ++ ' ' ::
            displayPosition ev.position)))))))) := by
    rw [List.append_assoc (prefixedHex ev.programCounter)]
    rfl
  have at_ : IsWord "at".toList := isWord_of_all rfl
  have pc : IsWord "(pc".toList := isWord_of_all rfl
  have pos : IsWord "pos".toList := isWord_of_all rfl
  rw [spaced, splitWhitespace_label at_, splitWhitespace_label pc, splitWhitespace_label pos,
    splitWhitespace_word (isWord_prefixedColumn 8 _), splitWhitespace_word (isWord_prefixedHex _),
    splitWhitespace_word ((isWord_prefixedHex _).mark rfl),
    splitWhitespace_word (isWord_displayPosition _)]
  rfl

theorem not_mem_prefixedHex {char : Char} (letter : char ≠ '0' ∧ char ≠ 'x') {value : UInt64}
    (absent : char ∉ lowerHex value) : char ∉ prefixedHex value := by
  rw [prefixedHex, List.mem_cons, List.mem_cons, not_or, not_or]
  exact ⟨letter.1, letter.2, absent⟩

/-- The characters of a hexadecimal number are digits. -/
theorem not_mem_lowerHex {char : Char} (noDigit : toDigit 16 char = none) (value : UInt64) :
    char ∉ lowerHex value := by
  have digits : ∀ digit < 16, toDigit 16 (Nat.digitChar digit) = some digit := by decide
  intro mem
  obtain ⟨digit, small, rfl⟩ := mem_toDigits (show 1 < 16 by decide) mem
  rw [digits digit small] at noDigit
  contradiction

theorem readEvent_eventRow (ev : TtdExceptionEvent) : readEvent (eventRow ev) = some ev := by
  have bracket : splitOnce ')' (prefixedHex ev.programCounter ++ [')']) =
      some (prefixedHex ev.programCounter, []) :=
    splitOnce_append (not_mem_prefixedHex (by decide) (not_mem_lowerHex (by decide) _)) []
  simp only [readEvent, splitWhitespace_eventRow, parseHex_column, Option.bind_some,
    u32TryFrom_widened, parseHex_prefixedHex, bracket, parsePosition_displayPosition,
    Option.bind_eq_bind]
  rfl

theorem oneLine_eventRow (ev : TtdExceptionEvent) : OneLine (eventRow ev) := by
  have code := oneLine_of_isWord (isWord_prefixedColumn 8 ev.code.toUInt64)
  have at_ : OneLine " at ".toList := by decide
  have pc : OneLine " (pc ".toList := by decide
  have pos : OneLine ") pos ".toList := by decide
  exact code.append (at_.append ((oneLine_of_isWord (isWord_prefixedHex _)).append
    (pc.append ((oneLine_of_isWord (isWord_prefixedHex _)).append
      (pos.append (oneLine_of_isWord (isWord_displayPosition _)))))))

theorem readEvents_events {arg : Option Text} {n : Nat} (asked : eventCount arg = some n)
    (all : List TtdExceptionEvent) :
    readEvents (written (events arg all)) = some (all.take n) := by
  have head : OneLine ("exception events: ".toList ++ count all.length ++
      " (showing up to ".toList ++ count n ++ ")".toList) := by
    have number (length : Nat) := oneLine_of_isWord (isWord_count length)
    have label : OneLine "exception events: ".toList := by decide
    have shown : OneLine " (showing up to ".toList := by decide
    exact (((label.append (number _)).append shown).append (number _)).append (by decide)
  have oneLine : ∀ row ∈ events arg all, OneLine row := by
    intro row mem
    simp only [events, asked] at mem
    rcases List.mem_cons.mp mem with rfl | mem
    · exact head
    · obtain ⟨ev, -, rfl⟩ := List.mem_map.mp mem
      exact oneLine_eventRow ev
  rw [readEvents, lines_written oneLine]
  simp only [events, asked, List.drop_one, List.tail_cons]
  exact mapM_written readEvent_eventRow (all.take n)

/-! ## Counters -/

/-- The number is the last word. -/
theorem readCounter_spaced (label : Text) (value : UInt64) :
    readCounter (label ++ ' ' :: decimal value) = some value := by
  rw [readCounter, splitWhitespace_append_cons _ _ rfl,
    splitWhitespace_word (isWord_decimal value), List.getLast?_concat, Option.bind_some,
    fromStrRadix_decimal]

/-- A label ends in a blank. -/
theorem readCounter_labelled {row label : Text} (spaced : row = label ++ [' ']) (value : UInt64) :
    readCounter (row ++ decimal value) = some value := by
  rw [spaced, List.append_assoc, List.singleton_append, readCounter_spaced]

theorem readCounter_counterRow (label : Text) (value : UInt64) :
    readCounter (counterRow label value) = some value := by
  have spaced : counterRow label value = (label ++ [':']) ++ ' ' :: decimal value := by
    rw [List.append_assoc]
    rfl
  rw [spaced, readCounter_spaced]

theorem oneLine_counterRow {label : Text} (oneLine : OneLine label) (value : UInt64) :
    OneLine (counterRow label value) := by
  have colon : OneLine ": ".toList := by decide
  exact oneLine.append (colon.append (oneLine_of_isWord (isWord_decimal value)))

theorem oneLine_stats {perQuery : UInt64 → UInt64 → Text}
    (oneLine : ∀ seeks queries, OneLine (perQuery seeks queries)) (s : TargetStats) :
    ∀ row ∈ stats perQuery s, OneLine row := by
  rw [stats, List.forall_mem_append]
  constructor
  · simp only [List.forall_mem_cons]
    refine ⟨?_, ?_, ?_, ?_, ?_, ?_, List.forall_mem_nil _⟩
    all_goals
      apply oneLine_counterRow
      decide
  · split
    case isTrue =>
      have label : OneLine "seeks per query: ".toList := by decide
      exact List.forall_mem_singleton.mpr (label.append (oneLine _ _))
    case isFalse => exact List.forall_mem_nil _

theorem readStats_stats {perQuery : UInt64 → UInt64 → Text}
    (oneLine : ∀ seeks queries, OneLine (perQuery seeks queries)) (s : TargetStats) :
    readStats (written (stats perQuery s)) = some s := by
  rw [readStats, lines_written (oneLine_stats oneLine s)]
  simp only [stats, List.cons_append, List.nil_append, List.take_succ_cons, List.take_zero,
    List.mapM_cons, List.mapM_nil, readCounter_counterRow, Option.bind_eq_bind, Option.bind_some,
    Option.pure_def]

/-! ## The overview -/

theorem readLifetime_row (first last : TtdPosition) :
    readLifetime ("lifetime: ".toList ++ displayPosition first ++ " .. ".toList ++
      displayPosition last) = some (first, last) := by
  have spaced : "lifetime: ".toList ++ displayPosition first ++ " .. ".toList ++
      displayPosition last = "lifetime:".toList ++ ' ' :: (displayPosition first ++
        (' ' :: ("..".toList ++ ' ' :: displayPosition last))) := by
    rw [List.append_assoc, List.append_assoc]
    rfl
  have label : IsWord "lifetime:".toList := isWord_of_all rfl
  have dots : IsWord "..".toList := isWord_of_all rfl
  rw [readLifetime, spaced, splitWhitespace_append_cons _ _ rfl, splitWhitespace_word label,
    splitWhitespace_label dots, splitWhitespace_word (isWord_displayPosition first),
    splitWhitespace_word (isWord_displayPosition last)]
  simp only [List.cons_append, List.nil_append, parsePosition_displayPosition,
    Option.bind_eq_bind, Option.bind_some, Option.pure_def]

theorem readCurrent_row (current : TtdPosition) :
    readCurrent ("current: ".toList ++ displayPosition current) = some current := by
  have spaced : "current: ".toList ++ displayPosition current =
      "current:".toList ++ ' ' :: displayPosition current := rfl
  rw [readCurrent, spaced, splitWhitespace_append_cons _ _ rfl,
    splitWhitespace_word (isWord_displayPosition current), List.getLast?_concat, Option.bind_some,
    parsePosition_displayPosition]

/-- No two statuses share a label. -/
theorem readIndexStatus_row (status : TtdIndexStatus) :
    readIndexStatus ("index: ".toList ++ indexStatusLabel status) = some status := by
  have spaced : "index: ".toList ++ indexStatusLabel status =
      "index:".toList ++ ' ' :: indexStatusLabel status := rfl
  have absent : ' ' ∉ "index:".toList := by decide
  rw [readIndexStatus, spaced, splitOnce_append absent, Option.bind_some]
  cases status with
  | loaded | notPresent | unloadable | unknown => decide +kernel

theorem oneLine_info (d : TargetDiagnostics) : ∀ row ∈ info d, OneLine row := by
  have position (pos : TtdPosition) : OneLine (displayPosition pos) :=
    oneLine_of_isWord (isWord_displayPosition pos)
  simp only [info, List.forall_mem_cons]
  refine ⟨?loaded, ?version, ?lifetime, ?current, ?index, ?modules, ?threads, ?exceptions,
    List.forall_mem_nil _⟩
  case loaded | version => decide +kernel
  case lifetime =>
    have label : OneLine "lifetime: ".toList := by decide
    have dots : OneLine " .. ".toList := by decide
    exact ((label.append (position _)).append dots).append (position _)
  case current =>
    have label : OneLine "current: ".toList := by decide
    exact label.append (position _)
  case index =>
    cases d.indexStatus with
    | loaded | notPresent | unloadable | unknown => decide +kernel
  case modules =>
    have label : OneLine "modules: ".toList := by decide
    exact label.append (oneLine_of_isWord (isWord_decimal _))
  case threads =>
    have label : OneLine "threads (lifetime): ".toList := by decide
    exact label.append (oneLine_of_isWord (isWord_count _))
  case exceptions =>
    have label : OneLine "exception events: ".toList := by decide
    exact label.append (oneLine_of_isWord (isWord_decimal _))

/-- The overview of a target. -/
def infoOf (d : TargetDiagnostics) : Info where
  lifetime := (d.firstPosition, d.lastPosition)
  current := d.currentPosition
  indexStatus := d.indexStatus
  modules := d.moduleCount.toUInt64
  threads := UInt64.ofNat d.threads.length
  exceptions := d.exceptionCount.toUInt64

theorem readInfo_info {d : TargetDiagnostics} (fits : d.threads.length < 2 ^ 64) :
    readInfo (written (info d)) = some (infoOf d) := by
  have modules : "modules: ".toList = "modules:".toList ++ [' '] := by decide +kernel
  have threads : "threads (lifetime): ".toList = "threads (lifetime):".toList ++ [' '] := by
    decide +kernel
  have exceptions : "exception events: ".toList = "exception events:".toList ++ [' '] := by
    decide +kernel
  have counted : count d.threads.length = decimal (UInt64.ofNat d.threads.length) := by
    rw [decimal, UInt64.toNat_ofNat_of_lt' fits]
    rfl
  rw [readInfo, lines_written (oneLine_info d)]
  simp only [info, readLifetime_row, readCurrent_row, readIndexStatus_row, counted,
    readCounter_labelled modules, readCounter_labelled threads, readCounter_labelled exceptions,
    Option.bind_eq_bind, Option.bind_some]
  rfl

/-! ## Dumps -/

theorem memLen_le {arg : Option Text} {len : Nat} (asked : memLen arg = some len) :
    len ≤ memLenCap := by
  cases arg with
  | none =>
      cases asked
      decide
  | some s =>
      obtain ⟨-, small⟩ := Option.filter_eq_some_iff.mp asked
      exact (of_decide_eq_true small).2

theorem splitWhitespace_memHead (addr : UInt64) (read len : Nat) (current : TtdPosition) :
    splitWhitespace (memHead addr read len current) =
      [prefixedHex addr ++ [':'], count read, "of".toList, count len, "byte(s)".toList,
        "at".toList, displayPosition current] := by
  have spaced : memHead addr read len current =
      (prefixedHex addr ++ [':']) ++ ' ' :: (count read ++ (' ' :: ("of".toList ++ ' ' ::
        (count len ++ (' ' :: ("byte(s)".toList ++ ' ' :: ("at".toList ++ ' ' ::
          displayPosition current))))))) := by
    rw [List.append_assoc (prefixedHex addr)]
    rfl
  have of_ : IsWord "of".toList := isWord_of_all rfl
  have bytes : IsWord "byte(s)".toList := isWord_of_all rfl
  have at_ : IsWord "at".toList := isWord_of_all rfl
  have blank : isWhitespace ' ' = true := rfl
  rw [spaced, splitWhitespace_append_cons _ _ blank, splitWhitespace_label of_,
    splitWhitespace_label bytes, splitWhitespace_append_cons _ _ blank, splitWhitespace_word at_,
    splitWhitespace_word ((isWord_prefixedHex _).mark rfl), splitWhitespace_word (isWord_count _),
    splitWhitespace_word (isWord_count _), splitWhitespace_word (isWord_displayPosition _)]
  rfl

theorem readHead_memHead (addr : UInt64) (read : Nat) {len : Nat} (small : len ≤ memLenCap)
    (current : TtdPosition) :
    readHead (memHead addr read len current) = some (addr, len, current) := by
  have fits : len < 2 ^ 64 := lt_of_le_of_lt small (by decide)
  have colon : splitOnce ':' (prefixedHex addr ++ [':']) = some (prefixedHex addr, []) :=
    splitOnce_append (not_mem_prefixedHex (by decide) (colon_not_mem_lowerHex _)) []
  simp only [readHead, splitWhitespace_memHead, colon, parseHex_prefixedHex,
    fromStrRadix_count fits, parsePosition_displayPosition, Option.bind_eq_bind, Option.bind_some,
    UInt64.toNat_ofNat_of_lt' fits]
  rfl

theorem splitWhitespace_rangeRow (r : TtdMemRange) :
    splitWhitespace (rangeRow r) =
      [prefixedHex r.address, '+' :: prefixedHex r.size, "seq".toList,
        prefixedHex r.sequence] := by
  have spaced : rangeRow r = "  ".toList ++ (prefixedHex r.address ++ ' ' ::
      ('+' :: prefixedHex r.size ++ (' ' :: ("seq".toList ++ ' ' ::
        prefixedHex r.sequence)))) := rfl
  have size : IsWord ('+' :: prefixedHex r.size) :=
    ⟨List.cons_ne_nil _ _, List.forall_mem_cons.mpr ⟨rfl, (isWord_prefixedHex _).visible⟩⟩
  have seq : IsWord "seq".toList := isWord_of_all rfl
  rw [spaced, splitWhitespace_blank_append isGap_column.blank, splitWhitespace_append_cons _ _ rfl,
    splitWhitespace_label seq, splitWhitespace_word (isWord_prefixedHex _),
    splitWhitespace_word size, splitWhitespace_word (isWord_prefixedHex _)]
  rfl

theorem readRange_rangeRow (r : TtdMemRange) : readRange (rangeRow r) = some r := by
  have plus : splitOnce '+' ('+' :: prefixedHex r.size) = some ([], prefixedHex r.size) := rfl
  simp only [readRange, splitWhitespace_rangeRow, plus, parseHex_prefixedHex,
    Option.bind_eq_bind, Option.bind_some]
  rfl

theorem readBytes_rangeRow (r : TtdMemRange) : readBytes (rangeRow r) = none := by
  have other : prefixedHex r.address ≠ bytesLabel := fun same =>
    absurd (List.cons.inj same).1 (by decide)
  simp only [readBytes, splitWhitespace_rangeRow, other, if_false]

/-- A remark is indented like a run and begins with a word of its own. -/
theorem splitWhitespace_remark {label : Text} (word : IsWord label) (rest : Text) :
    splitWhitespace (("  ".toList ++ label) ++ ' ' :: rest) = label :: splitWhitespace rest := by
  rw [splitWhitespace_append_cons _ _ rfl, splitWhitespace_blank_append isGap_column.blank,
    splitWhitespace_word word, List.singleton_append]

theorem readRange_remark {line label : Text} {words : List Text}
    (split_ : splitWhitespace line = label :: words) (noNumber : parseHex label = none) :
    readRange line = none := by
  rw [readRange, split_]
  split
  case h_1 address size seq sequence same =>
    rw [← (List.cons.inj same).1, noNumber]
    rfl
  case h_2 => rfl

theorem readBytes_remark {line label : Text} {words : List Text}
    (split_ : splitWhitespace line = label :: words) (other : label ≠ bytesLabel) :
    readBytes line = none := by
  rw [readBytes, split_]
  exact if_neg other

theorem isWord_bytesLabel : IsWord bytesLabel :=
  isWord_of_all rfl

theorem splitWhitespace_bytesRow (bytes : List UInt8) :
    splitWhitespace (bytesRow bytes) = bytesLabel :: bytes.map hexByte := by
  have words : ∀ word ∈ bytes.map hexByte, IsWord word := by
    intro word mem
    obtain ⟨byte, -, rfl⟩ := List.mem_map.mp mem
    exact isWord_hexByte byte
  have spaced : bytesRow bytes =
      ("  ".toList ++ bytesLabel) ++ ' ' :: [' '].intercalate (bytes.map hexByte) := rfl
  rw [spaced, splitWhitespace_remark isWord_bytesLabel, splitWhitespace_intercalate words]

theorem oneLine_intercalate {words : List Text} (oneLine : ∀ word ∈ words, OneLine word) :
    OneLine ([' '].intercalate words) := by
  induction words with
  | nil => decide
  | cons word words ih =>
      have here : OneLine word := oneLine word (List.mem_cons_self ..)
      have later := ih fun next mem => oneLine next (List.mem_cons_of_mem _ mem)
      cases words with
      | nil => rwa [List.intercalate_singleton]
      | cons next words =>
          rw [List.intercalate_cons_cons]
          exact (here.append (by decide)).append later

theorem oneLine_bytesRow (bytes : List UInt8) : OneLine (bytesRow bytes) := by
  apply OneLine.append (by decide)
  apply oneLine_intercalate
  intro word mem
  obtain ⟨byte, -, rfl⟩ := List.mem_map.mp mem
  exact oneLine_of_isWord (isWord_hexByte byte)

theorem readBytes_bytesRow (bytes : List UInt8) : readBytes (bytesRow bytes) = some bytes := by
  have digits : (bytes.map hexByte).flatten = encodeHex bytes :=
    List.flatMap_def.symm
  simp only [readBytes, splitWhitespace_bytesRow, if_true, digits, decodeHex_encodeHex]

theorem readRange_bytesRow (bytes : List UInt8) : readRange (bytesRow bytes) = none :=
  readRange_remark (splitWhitespace_bytesRow bytes) (by decide)

theorem splitWhitespace_unavailable :
    ∃ words, splitWhitespace unavailableRow = "provenance".toList :: words := by
  have word : IsWord "provenance".toList := isWord_of_all rfl
  exact ⟨_, splitWhitespace_remark word
    "unavailable (backend cannot attribute bytes to a position)".toList⟩

theorem splitWhitespace_capped : ∃ words, splitWhitespace cappedRow = "(range".toList :: words := by
  have word : IsWord "(range".toList := isWord_of_all rfl
  exact ⟨_, splitWhitespace_remark word
    ("list capped at ".toList ++ decimal memRangesCap.toUInt64 ++ ")".toList)⟩

theorem oneLine_rangeRow (r : TtdMemRange) : OneLine (rangeRow r) := by
  have number (value : UInt64) := oneLine_of_isWord (isWord_prefixedHex value)
  have gap : OneLine "  ".toList := by decide
  have plus : OneLine " +".toList := by decide
  have seq : OneLine " seq ".toList := by decide
  exact gap.append ((number _).append (plus.append ((number _).append (seq.append (number _)))))

theorem oneLine_capped : OneLine cappedRow := by
  have label : OneLine "  (range list capped at ".toList := by decide
  exact (label.append (oneLine_of_isWord (isWord_decimal _))).append (by decide)

/-- The lines about the provenance give the runs back, and no bytes. -/
theorem read_provenance (ranges : List TtdMemRange) :
    (provenance ranges).filterMap readRange = ranges ∧
      (provenance ranges).findSome? readBytes = none ∧
      ∀ row ∈ provenance ranges, OneLine row := by
  have rows : (ranges.map rangeRow).filterMap readRange = ranges := by
    rw [List.filterMap_map]
    exact (List.filterMap_congr fun r _ => readRange_rangeRow r).trans List.filterMap_some
  have noBytes : (ranges.map rangeRow).findSome? readBytes = none := by
    rw [List.findSome?_eq_none_iff, List.forall_mem_map]
    exact fun r _ => readBytes_rangeRow r
  have oneLine : ∀ row ∈ ranges.map rangeRow, OneLine row :=
    List.forall_mem_map.mpr fun r _ => oneLine_rangeRow r
  unfold provenance
  by_cases empty : ranges.isEmpty = true
  · obtain ⟨words, split_⟩ := splitWhitespace_unavailable
    have noRun : readRange unavailableRow = none := readRange_remark split_ (by decide)
    have noByte : readBytes unavailableRow = none := readBytes_remark split_ (by decide)
    have row : OneLine unavailableRow := by decide
    rw [if_pos empty, List.isEmpty_iff.mp empty]
    exact ⟨List.filterMap_cons_none noRun, List.findSome?_cons_of_isNone (by rw [noByte]; rfl),
      List.forall_mem_singleton.mpr row⟩
  · rw [if_neg empty, List.filterMap_append, rows, List.findSome?_append, noBytes, Option.none_or,
      List.forall_mem_append]
    by_cases full : ranges.length = memRangesCap.toNat
    · obtain ⟨words, split_⟩ := splitWhitespace_capped
      have noRun : readRange cappedRow = none := readRange_remark split_ (by decide)
      have noByte : readBytes cappedRow = none := readBytes_remark split_ (by decide)
      have passed : [cappedRow].filterMap readRange = [] := List.filterMap_cons_none noRun
      rw [if_pos full]
      refine ⟨(congrArg (ranges ++ ·) passed).trans (List.append_nil _), ?_, oneLine,
        List.forall_mem_singleton.mpr oneLine_capped⟩
      exact List.findSome?_cons_of_isNone (by rw [noByte]; rfl)
    · rw [if_neg full]
      exact ⟨List.append_nil _, rfl, oneLine, List.forall_mem_nil _⟩

theorem readDump_dump (addr : UInt64) {len : Nat} (small : len ≤ memLenCap)
    (current : TtdPosition) (bytes : List UInt8) (ranges : List TtdMemRange) :
    readDump (written (dump addr len current bytes ranges)) =
      some ⟨addr, len, current, ranges, bytes⟩ := by
  obtain ⟨readRanges, noBytes, oneLine⟩ := read_provenance ranges
  have headLine : OneLine (memHead addr bytes.length len current) := by
    have number (length : Nat) := oneLine_of_isWord (isWord_count length)
    have colon : OneLine ": ".toList := by decide
    have of_ : OneLine " of ".toList := by decide
    have at_ : OneLine " byte(s) at ".toList := by decide
    exact (oneLine_of_isWord (isWord_prefixedHex _)).append (colon.append ((number _).append
      (of_.append ((number _).append (at_.append
        (oneLine_of_isWord (isWord_displayPosition _)))))))
  have rows : ∀ row ∈ dump addr len current bytes ranges, OneLine row := by
    rw [dump, List.cons_append, List.forall_mem_cons, List.forall_mem_append]
    refine ⟨headLine, oneLine, ?_⟩
    split
    case isTrue => exact List.forall_mem_nil _
    case isFalse => exact List.forall_mem_singleton.mpr (oneLine_bytesRow bytes)
  rw [readDump, lines_written rows, dump, List.cons_append]
  simp only [readHead_memHead addr bytes.length small current, Option.map_some,
    List.filterMap_append, List.findSome?_append, readRanges, noBytes, Option.none_or]
  cases bytes with
  | nil => simp
  | cons byte more => simp [readRange_bytesRow, readBytes_bytesRow]

/-! ## The listings -/

section View

variable {T : Type} [TraceView T] {perQuery : UInt64 → UInt64 → Text} {cmd : Text}

/-- A subcommand gets the words behind it. -/
theorem reply_mem {args : List Text} (words : splitWhitespace cmd =
    "ttd".toList :: "mem".toList :: args) (view : T) :
    reply perQuery cmd view = mem view args := by
  rw [reply, words]
  rfl

/-- Whatever the monitor lists is read back from its text: the overview, the
threads, the first events, the counters, and of a memory dump the runs and the
bytes as they were read. -/
theorem listings_readBack (oneLine : ∀ seeks queries, '\n' ∉ perQuery seeks queries) (view : T) :
    (∀ args, splitWhitespace cmd = "ttd".toList :: "info".toList :: args →
      (TraceView.diagnostics view).threads.length < 2 ^ 64 →
      readInfo (render perQuery cmd view).1 = some (infoOf (TraceView.diagnostics view))) ∧
    (∀ args, splitWhitespace cmd = "ttd".toList :: "threads".toList :: args →
      readThreads (render perQuery cmd view).1 = some (TraceView.diagnostics view).threads) ∧
    (∀ args n, splitWhitespace cmd = "ttd".toList :: "events".toList :: args →
      eventCount args.head? = some n →
      readEvents (render perQuery cmd view).1 = some ((TraceView.exceptions view).take n)) ∧
    (∀ args, splitWhitespace cmd = "ttd".toList :: "stats".toList :: args →
      readStats (render perQuery cmd view).1 = some (TraceView.stats view)) ∧
    ∀ text more addr len, splitWhitespace cmd = "ttd".toList :: "mem".toList :: text :: more →
      parseHex text = some addr → memLen more.head? = some len →
      let ((bytes, ranges), _) := TraceView.readMemoryRanges view addr len
      readDump (render perQuery cmd view).1 =
        some ⟨addr, len, (TraceView.diagnostics view).currentPosition, ranges, bytes⟩ := by
  refine ⟨fun args words fits => ?_, fun args words => ?_, fun args n words asked => ?_,
    fun args words => ?_, fun text more addr len words parsed asked => ?_⟩
  · have replied : render perQuery cmd view =
        (written (info (TraceView.diagnostics view)), view) := by
      rw [render, reply, words]
      rfl
    rw [replied]
    exact readInfo_info fits
  · have replied : render perQuery cmd view =
        (written (threads (TraceView.diagnostics view)), view) := by
      rw [render, reply, words]
      rfl
    rw [replied]
    exact readThreads_threads _
  · have replied : render perQuery cmd view =
        (written (events args.head? (TraceView.exceptions view)), view) := by
      rw [render, reply, words]
      rfl
    rw [replied]
    exact readEvents_events asked _
  · have replied : render perQuery cmd view =
        (written (stats perQuery (TraceView.stats view)), view) := by
      rw [render, reply, words]
      rfl
    rw [replied]
    exact readStats_stats oneLine _
  · rw [render, reply_mem words]
    simp only [mem, parsed, asked]
    exact readDump_dump addr (memLen_le asked) _ _ _

end View

/-- The counters of the stub come to this quotient. -/
def stubQuotient (_seeks _queries : UInt64) : Text :=
  "0.033".toList

theorem stub_readDump :
    readDump (render stubQuotient "ttd mem 0x178756700090 8".toList stub).1 =
      some ⟨0x178756700090, 8, ⟨0x10, 5⟩, stub.memory.2, stub.memory.1⟩ := by
  have oneLine : ∀ seeks queries, '\n' ∉ stubQuotient seeks queries := by
    intro seeks queries
    rw [stubQuotient]
    decide
  have words : splitWhitespace "ttd mem 0x178756700090 8".toList =
      "ttd".toList :: "mem".toList :: "0x178756700090".toList :: ["8".toList] := by
    decide +kernel
  exact (listings_readBack oneLine stub).2.2.2.2 _ _ 0x178756700090 8 words (by decide +kernel)
    (by decide +kernel)

end TtdGdbserver.Gdb.Monitor
