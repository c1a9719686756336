import TtdGdbserver.Target.Process.Core
import TtdGdbserver.Text.Words

/-!
# The monitor commands

`monitor ttd …` answers in plain text, one line per record.  Rendering needs a
small slice of the target only.  Of that slice, a memory read alone may move a
cursor of the target.
-/

namespace TtdGdbserver.Gdb.Monitor

open TtdGdbserver.Target TtdGdbserver.Text TtdGdbserver.Ttd

/-! ## What the commands read -/

/-- A module in the trace's load list. -/
structure ModuleInfo where
  baseAddr : UInt64
  size : UInt64
  name : Text
  deriving DecidableEq, Repr

/-- A thread of the trace with the first and the last position it ran at. -/
structure ThreadLifetime extends ThreadDiagnostics where
  activeTime : TtdPosition × TtdPosition
  deriving DecidableEq, Repr

/-- What `monitor ttd info` and `threads` show of a trace. -/
structure TargetDiagnostics where
  firstPosition : TtdPosition
  lastPosition : TtdPosition
  currentPosition : TtdPosition
  threads : List ThreadLifetime
  exceptionCount : UInt32
  moduleCount : UInt32
  indexStatus : TtdIndexStatus
  deriving DecidableEq, Repr

/-- What the commands read out of a target. -/
class TraceView (T : Type) where
  diagnostics : T → TargetDiagnostics
  modules : T → List ModuleInfo
  exceptions : T → List TtdExceptionEvent
  stats : T → TargetStats
  /-- The bytes read from an address, and where each run of them came from. -/
  readMemoryRanges : T → UInt64 → Nat → (List UInt8 × List TtdMemRange) × T

/-! ## Texts -/

/-- Shown for anything that is not understood. -/
def usage : Text :=
  ("supported: ttd info | ttd threads | ttd module <addr> | ttd mem <addr> [len] | " ++
    "ttd events [n] | ttd stats").toList

/-- The version of the package. -/
def version : Text := "0.1.0".toList

/-- Byte count of a dump whose caller gives no length. -/
def defaultMemLen : Nat := 16

/-- Upper bound on the length of a dump. -/
def memLenCap : Nat := 256

/-- Ranges requested for one dump. -/
def memRangesCap : UInt32 := 16

/-- `{}` of a length. -/
def count (length : Nat) : Text :=
  Nat.toDigits 10 length

/-- `{:#x}`. -/
def prefixedHex (value : UInt64) : Text :=
  '0' :: 'x' :: lowerHex value

/-- `Display` of a position. -/
def displayPosition (pos : TtdPosition) : Text :=
  lowerHex pos.sequence ++ ':' :: lowerHex pos.steps

/-- `{:>9x}:{:>04x}`; the zero flag takes the place of the alignment. -/
def columnPosition (pos : TtdPosition) : Text :=
  (lowerHex pos.sequence).leftpad 9 ' ' ++ ':' :: (lowerHex pos.steps).leftpad 4 '0'

/-- What a sequence of `writeln!` leaves behind. -/
def written (lines : List Text) : Text :=
  lines.flatMap fun line => line ++ ['\n']

/-! ## The subcommands -/

/-- The index line of `monitor ttd info`. -/
def indexStatusLabel : TtdIndexStatus → Text
  | .loaded => "loaded".toList
  | .notPresent => "missing (memory reads are unreliable)".toList
  | .unloadable => "unusable (memory reads are unreliable)".toList
  | .unknown => "unknown (memory reads may be unreliable)".toList

/-- `monitor ttd info`. -/
def info (d : TargetDiagnostics) : List Text :=
  ["trace: loaded (TTD replay engine)".toList,
    "version: ".toList ++ version,
    "lifetime: ".toList ++ displayPosition d.firstPosition ++ " .. ".toList ++
      displayPosition d.lastPosition,
    "current: ".toList ++ displayPosition d.currentPosition,
    "index: ".toList ++ indexStatusLabel d.indexStatus,
    "modules: ".toList ++ decimal d.moduleCount.toUInt64,
    "threads (lifetime): ".toList ++ count d.threads.length,
    "exception events: ".toList ++ decimal d.exceptionCount.toUInt64]

/-- The first line of `monitor ttd threads`. -/
def threadsHeader : Text :=
  "UTID".toList.leftpad 6 ' ' ++ "  ".toList ++ "OS_TID".toList.leftpad 10 ' ' ++ "  ".toList ++
    "active_min".toList.leftpad 14 ' ' ++ "  ".toList ++ "active_max".toList.leftpad 14 ' '

/-- A thread's line: both ids and the positions it ran between. -/
def threadRow (t : ThreadLifetime) : Text :=
  (decimal t.uniqueId.toUInt64).leftpad 6 ' ' ++ ("  ".toList ++
    ('0' :: 'x' :: (lowerHex t.osThreadId.toUInt64).leftpad 8 '0' ++ ("  ".toList ++
      (columnPosition t.activeTime.1 ++ ("  ".toList ++ columnPosition t.activeTime.2)))))

/-- `monitor ttd threads`: every thread that ever existed, in TTD's order. -/
def threads (d : TargetDiagnostics) : List Text :=
  threadsHeader :: d.threads.map threadRow

/-- Parse a hex address with one optional `0x` in front. -/
def parseHex (text : Text) : Option UInt64 :=
  let hex := match text with
    | '0' :: 'x' :: hex => hex
    | '0' :: 'X' :: hex => hex
    | _ => text
  fromStrRadix 16 hex

/-- Whether a module's range contains the address.  The sum of base and size
may wrap, the difference cannot. -/
def ModuleInfo.contains (m : ModuleInfo) (addr : UInt64) : Bool :=
  addr ≥ m.baseAddr && addr - m.baseAddr < m.size

/-- `u64::saturating_add`. -/
def saturatingAdd (a b : UInt64) : UInt64 :=
  if a.toNat + b.toNat < 2 ^ 64 then a + b else 0xffffffffffffffff

/-- A module's line: base, end, size and name. -/
def moduleRow (m : ModuleInfo) : Text :=
  prefixedHex m.baseAddr ++ ("..".toList ++ (prefixedHex (saturatingAdd m.baseAddr m.size) ++
    (" (+".toList ++ (prefixedHex m.size ++ (") ".toList ++ m.name)))))

/-- `monitor ttd module <hex-addr>`. -/
def module (arg : Option Text) (modules : List ModuleInfo) : List Text :=
  match arg with
  | none => ["usage: monitor ttd module <hex-addr>".toList]
  | some rest =>
      match parseHex rest with
      | none => ["ttd: bad address '".toList ++ rest ++ "'".toList]
      | some addr =>
          match modules.find? (ModuleInfo.contains · addr) with
          | some m => [moduleRow m]
          | none => ["no module contains ".toList ++ prefixedHex addr]

/-- The length argument of a dump. -/
def memLen (arg : Option Text) : Option Nat :=
  match arg with
  | none => some defaultMemLen
  | some s =>
      ((fromStrRadix 10 s).map UInt64.toNat).filter fun v => decide (0 < v ∧ v ≤ memLenCap)

/-- The first line of a dump. -/
def memHead (addr : UInt64) (read len : Nat) (current : TtdPosition) : Text :=
  prefixedHex addr ++ (": ".toList ++ (count read ++ (" of ".toList ++ (count len ++
    (" byte(s) at ".toList ++ displayPosition current)))))

/-- A line of a dump: one run of bytes and where it came from. -/
def rangeRow (r : TtdMemRange) : Text :=
  "  ".toList ++ (prefixedHex r.address ++ (" +".toList ++ (prefixedHex r.size ++
    (" seq ".toList ++ prefixedHex r.sequence))))

/-- Printed when no run is known. -/
def unavailableRow : Text :=
  "  provenance unavailable (backend cannot attribute bytes to a position)".toList

/-- Printed when there may be more runs. -/
def cappedRow : Text :=
  "  (range list capped at ".toList ++ decimal memRangesCap.toUInt64 ++ ")".toList

/-- Where the bytes of a dump came from. -/
def provenance (ranges : List TtdMemRange) : List Text :=
  if ranges.isEmpty then [unavailableRow]
  else
    ranges.map rangeRow ++ if ranges.length = memRangesCap.toNat then [cappedRow] else []

/-- `{:02x}` of a byte. -/
def hexByte (byte : UInt8) : Text :=
  [Nat.digitChar (byte.toNat / 16), Nat.digitChar (byte.toNat % 16)]

/-- The last line of a dump. -/
def bytesRow (bytes : List UInt8) : Text :=
  "  bytes: ".toList ++ [' '].intercalate (bytes.map hexByte)

/-- The lines of a dump. -/
def dump (addr : UInt64) (len : Nat) (current : TtdPosition) (bytes : List UInt8)
    (ranges : List TtdMemRange) : List Text :=
  memHead addr bytes.length len current :: provenance ranges ++
    if bytes.isEmpty then [] else [bytesRow bytes]

/-- A counter's line. -/
def counterRow (label : Text) (value : UInt64) : Text :=
  label ++ (": ".toList ++ decimal value)

/-- `monitor ttd stats`. -/
def stats (perQuery : UInt64 → UInt64 → Text) (s : TargetStats) : List Text :=
  [counterRow "queries".toList s.queries,
    counterRow "cursor seeks".toList s.cursorSeeks,
    counterRow "steps".toList s.steps,
    counterRow "replays".toList s.replays,
    counterRow "watchpoint adds".toList s.watchpointAdds,
    counterRow "watchpoint removes".toList s.watchpointRemoves] ++
    if s.queries > 0 then ["seeks per query: ".toList ++ perQuery s.cursorSeeks s.queries] else []

/-- The count argument of an event listing. -/
def eventCount (arg : Option Text) : Option Nat :=
  match arg with
  | none => some 20
  | some s => (fromStrRadix 10 s).map UInt64.toNat

/-- An exception event's line. -/
def eventRow (ev : TtdExceptionEvent) : Text :=
  '0' :: 'x' :: (lowerHex ev.code.toUInt64).leftpad 8 '0' ++ (" at ".toList ++
    (prefixedHex ev.recordAddress ++ (" (pc ".toList ++ (prefixedHex ev.programCounter ++
      (") pos ".toList ++ displayPosition ev.position)))))

/-- `monitor ttd events [n]`. -/
def events (arg : Option Text) (all : List TtdExceptionEvent) : List Text :=
  match eventCount arg with
  | none => ["ttd: bad event count '".toList ++ arg.getD [] ++ "'".toList]
  | some n =>
      ("exception events: ".toList ++ count all.length ++ " (showing up to ".toList ++ count n ++
        ")".toList) :: (all.take n).map eventRow

section View

variable {T : Type} [TraceView T]

/-- `monitor ttd mem <hex-addr> [len]`. -/
def mem (view : T) (args : List Text) : List Text × T :=
  match args with
  | [] => (["usage: monitor ttd mem <hex-addr> [len]".toList], view)
  | rest :: more =>
      match parseHex rest with
      | none => (["ttd: bad address '".toList ++ rest ++ "'".toList], view)
      | some addr =>
          match memLen more.head? with
          | none =>
              (["ttd: bad length '".toList ++ more.headD [] ++ "' (1..=".toList ++
                count memLenCap ++ ")".toList], view)
          | some len =>
              let current := (TraceView.diagnostics view).currentPosition
              let ((bytes, ranges), view) := TraceView.readMemoryRanges view addr len
              (dump addr len current bytes ranges, view)

/-- The lines of the reply.  How a quotient of two counters is printed is left
to the caller, since it goes through a floating-point number. -/
def reply (perQuery : UInt64 → UInt64 → Text) (cmd : Text) (view : T) : List Text × T :=
  let words := splitWhitespace cmd
  let head := words.headD []
  if head ≠ "ttd".toList then
    (["ttd-gdbserver: unknown monitor subcommand '".toList ++ head ++ "'".toList, usage], view)
  else
    let sub := (words.drop 1).headD []
    let args := words.drop 2
    if sub = "info".toList then (info (TraceView.diagnostics view), view)
    else if sub = "threads".toList then (threads (TraceView.diagnostics view), view)
    else if sub = "module".toList then (module args.head? (TraceView.modules view), view)
    else if sub = "mem".toList then mem view args
    else if sub = "events".toList then (events args.head? (TraceView.exceptions view), view)
    else if sub = "stats".toList then (stats perQuery (TraceView.stats view), view)
    else (["ttd: unknown subcommand '".toList ++ sub ++ "'".toList, usage], view)

/-- `render`: the reply to a monitor command. -/
def render (perQuery : UInt64 → UInt64 → Text) (cmd : Text) (view : T) : Text × T :=
  (reply perQuery cmd view).map written id

end View

/-! ## A view without a target -/

/-- A view that serves every memory read from one place. -/
structure Stub where
  diagnostics : TargetDiagnostics
  modules : List ModuleInfo
  exceptions : List TtdExceptionEvent
  stats : TargetStats
  memory : List UInt8 × List TtdMemRange

instance : TraceView Stub where
  diagnostics := Stub.diagnostics
  modules := Stub.modules
  exceptions := Stub.exceptions
  stats := Stub.stats
  readMemoryRanges view _ _ := (view.memory, view)

/-- A view with one thread, two modules, one event and one dump. -/
def stub : Stub where
  diagnostics :=
    { firstPosition := ⟨1, 0⟩
      lastPosition := ⟨0x2f3, 0x1a⟩
      currentPosition := ⟨0x10, 5⟩
      threads := [⟨⟨2, 0x3784⟩, (⟨1, 0⟩, ⟨0x2f3, 0x1a⟩)⟩]
      exceptionCount := 1
      moduleCount := 2
      indexStatus := .loaded }
  modules :=
    [⟨0x140000000, 0x1000, "sample.exe".toList⟩, ⟨0x7ff0000, 0x2000, "ntdll.dll".toList⟩]
  exceptions := [⟨⟨0x12, 3⟩, 0xc0000005, 0xdead, 0x140001000⟩]
  stats := ⟨120, 4, 30, 2, 3, 2⟩
  memory :=
    ([0x40, 0xab, 0x68, 0x56, 0x87, 0x17, 0x00, 0x00],
      [⟨0x178756700090, 4, 0x7be⟩, ⟨0x178756700094, 4, 0x7bf⟩])

end TtdGdbserver.Gdb.Monitor
