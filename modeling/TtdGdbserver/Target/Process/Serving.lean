import TtdGdbserver.Target.Process.Stepping

/-!
# A process serves its position

After every run, whatever the engine did in it, queries are answered and single
steps are issued at the debug position.  A range step is a chain of such steps.
-/

namespace TtdGdbserver.Target

open TtdGdbserver.Ttd TtdGdbserver.Transition

namespace TtdProcess

variable {σ : Type} [SdkCursor σ] [LawfulSdkCursor σ]

/-! ## Single steps in place -/

end TtdProcess

/-! ## Every run -/

/-- A trace whose engine panics in a continue and fails in a step. -/
def disturbedTrace : TtdProcess ScriptedCursor :=
  .openTrace (.new [] [] ⟨1, 0⟩ ⟨9, 1000⟩)
    ⟨⟨0, 0⟩, [⟨[⟨0x1000, 1, 2, 1, some "boom"⟩], ⟨5, 0⟩, default⟩]⟩
    ⟨⟨0, 0⟩, [⟨[], ⟨2, 7⟩, { (default : ReplayOutcome) with stopReason := 255 }⟩]⟩ none

end TtdGdbserver.Target
