import TtdGdbserver.Ttd.Registers
import Std.Data.ExtTreeMap

/-!
# The immutable thread catalog

GDB speaks OS thread ids, watchpoint filters speak TTD's unique thread ids.
The catalog is a hash map in the source; it is only ever asked for one key, so
an ordered map models it.
-/

namespace TtdGdbserver.Target

open TtdGdbserver.Ttd

/-- OS tid to TTD unique thread id, from the trace's lifetime thread list. -/
structure ThreadTable where
  osToUid : Std.ExtTreeMap UInt32 UInt32

namespace ThreadTable

/-- Later entries of the list replace earlier ones of the same OS tid. -/
def fromEngineThreads (threads : List TtdThreadInfo) : ThreadTable :=
  ⟨threads.foldl (fun osToUid thread => osToUid.insert thread.id thread.uniqueId) ∅⟩

/-- Whether `osTid` ever appears in the trace. -/
def containsOsTid (table : ThreadTable) (osTid : UInt32) : Bool :=
  table.osToUid.contains osTid

/-- The unique thread id of `osTid`, if the thread exists in the trace. -/
def uidForOsTid (table : ThreadTable) (osTid : UInt32) : Option UInt32 :=
  table.osToUid[osTid]?

end ThreadTable

end TtdGdbserver.Target
