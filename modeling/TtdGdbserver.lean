import TtdGdbserver.Gdb.Breakpoints
import TtdGdbserver.Gdb.Interrupt.InTime
import TtdGdbserver.Gdb.Listing
import TtdGdbserver.Gdb.Pe
import TtdGdbserver.Gdb.Regs.Agreement
import TtdGdbserver.Gdb.RestartGrammar
import TtdGdbserver.Gdb.Server
import TtdGdbserver.Gdb.Session.Refinement
import TtdGdbserver.Gdb.Target.Determined
import TtdGdbserver.Gdb.Xml
import TtdGdbserver.Target.Process.FirstStop
import TtdGdbserver.Target.Process.Seeks
import TtdGdbserver.Target.Process.Index
import TtdGdbserver.Target.Process.Interruptible
import TtdGdbserver.Target.Process.RangeStep
import TtdGdbserver.Target.Process.Rollback
import TtdGdbserver.Ttd.Callback
import TtdGdbserver.Gdb.Monitor.Process
