import TtdGdbserver.Ttd.Cursor

/-!
# Lazily positioned cursors

A cursor together with the position it is known to be at, so that it is only
repositioned when the debug position moved.
-/

namespace TtdGdbserver.Target

open TtdGdbserver.Ttd

/-- The exception classes a step or continue stops on. -/
def exceptionMask : ExceptionMask := .all

section Cursor

variable {σ : Type} [SdkCursor σ]

/-- Position `cursor` at `position`. -/
def seek (cursor : ReplayCursor σ) (position : TtdPosition) : ReplayCursor σ :=
  cursor.setPosition position

/-- Replay `cursor` toward `limit`, stopping on a subscribed event. -/
def replayTo {τ : Type} (cursor : ReplayCursor σ) (limit : TtdPosition) (forward : Bool)
    (callback : WatchpointFn τ) (state : τ) :
    Unwind (Except TtdError TtdReplayResult) × ReplayCursor σ × τ :=
  if forward then cursor.replayForward limit callback state
  else cursor.replayBackward limit callback state

/-- `position_of`. -/
def positionOf (cursor : ReplayCursor σ) : TtdPosition :=
  cursor.position

/-- OS thread id of the cursor's current thread, 0 if none. -/
def currentTid (cursor : ReplayCursor σ) : UInt32 :=
  cursor.threadInfo.id

end Cursor

/-- A cursor plus the last position it is known to be at; `none` means that it
must seek before its next use. -/
structure PositionedCursor (σ : Type) where
  cursor : ReplayCursor σ
  knownAt : Option TtdPosition

namespace PositionedCursor

variable {σ : Type} [SdkCursor σ]

/-- `PositionedCursor::new`: nothing is known of the cursor. -/
def new (cursor : ReplayCursor σ) : PositionedCursor σ :=
  ⟨cursor, none⟩

/-- Ensure that the cursor is at `position`, seeking when the cache says
otherwise.  The landing position is read back.  The result says whether a seek
was issued. -/
def prepare (self : PositionedCursor σ) (position : TtdPosition) : Bool × PositionedCursor σ :=
  if self.knownAt = some position then (false, self)
  else
    let cursor := seek self.cursor position
    (true, ⟨cursor, some (positionOf cursor)⟩)

/-- Forget the cached position. -/
def invalidate (self : PositionedCursor σ) : PositionedCursor σ :=
  { self with knownAt := none }

/-- Record the landing position after a successful move. -/
def notePosition (self : PositionedCursor σ) (position : TtdPosition) : PositionedCursor σ :=
  { self with knownAt := some position }

/-- Replace the cursor by one it turned into. -/
def withCursor (self : PositionedCursor σ) (cursor : ReplayCursor σ) : PositionedCursor σ :=
  { self with cursor := cursor }

end PositionedCursor

/-- The persistent query cursor, which carries the clients' watchpoints, and
the watchpoint-free step cursor. -/
structure CursorPair (σ : Type) where
  persistent : PositionedCursor σ
  step : PositionedCursor σ

/-- The masks of the step cursor are set once and for all. -/
def CursorPair.new {σ : Type} [SdkCursor σ] (persistent step : ReplayCursor σ) :
    CursorPair σ where
  persistent := .new persistent
  step := .new ((step.setExceptionMask exceptionMask).setEventMask .exception)

end TtdGdbserver.Target
