import TtdGdbserver.Ttd.Scripted

/-!
# Counting the seeks of an engine

A seek may replay from a keyframe, so what a target costs is counted in
`SetPosition` calls.  An engine with a `SeekMeter` knows how many it served, and
every engine becomes one by counting them beside it.
-/

namespace TtdGdbserver.Ttd

open TtdGdbserver.Transition

/-- Cursors that count the `SetPosition` calls they served. -/
class SeekMeter (σ : Type) [SdkCursor σ] where
  seeks : σ → Nat
  seeks_setPosition : ∀ (cursor : σ) (position : TtdPosition),
    seeks (SdkCursor.setPosition cursor position) = seeks cursor + 1
  seeks_replay : ∀ {τ : Type} (answer : τ → WatchpointHit → Bool × τ) (cursor : σ)
    (request : ReplayRequest) (state : τ),
    seeks ((SdkCursor.replay cursor request).run answer state).1.1 = seeks cursor
  seeks_setEventMask : ∀ (cursor : σ) (mask : EventMask),
    seeks (SdkCursor.setEventMask cursor mask) = seeks cursor
  seeks_setExceptionMask : ∀ (cursor : σ) (mask : ExceptionMask),
    seeks (SdkCursor.setExceptionMask cursor mask) = seeks cursor
  seeks_addMemoryWatchpoint : ∀ (cursor : σ) (address size : UInt64) (mask : DataAccessMask)
    (thread : UInt32),
    seeks (SdkCursor.addMemoryWatchpoint cursor address size mask thread).2 = seeks cursor
  seeks_removeMemoryWatchpoint : ∀ (cursor : σ) (address size : UInt64) (mask : DataAccessMask)
    (thread : UInt32),
    seeks (SdkCursor.removeMemoryWatchpoint cursor address size mask thread).2 = seeks cursor

/-- A cursor with the number of its `SetPosition` calls. -/
structure MeteredCursor (σ : Type) where
  cursor : σ
  seeks : Nat

namespace MeteredCursor

variable {σ : Type} [SdkCursor σ]

instance : SdkCursor (MeteredCursor σ) where
  architecture := SdkCursor.architecture σ
  getPosition metered := SdkCursor.getPosition metered.cursor
  setPosition metered position :=
    ⟨SdkCursor.setPosition metered.cursor position, metered.seeks + 1⟩
  replay metered request :=
    (SdkCursor.replay metered.cursor request).map fun (cursor, outcome) =>
      (⟨cursor, metered.seeks⟩, outcome)
  setEventMask metered mask := ⟨SdkCursor.setEventMask metered.cursor mask, metered.seeks⟩
  setExceptionMask metered mask := ⟨SdkCursor.setExceptionMask metered.cursor mask, metered.seeks⟩
  addMemoryWatchpoint metered address size mask thread :=
    let (accepted, cursor) :=
      SdkCursor.addMemoryWatchpoint metered.cursor address size mask thread
    (accepted, ⟨cursor, metered.seeks⟩)
  removeMemoryWatchpoint metered address size mask thread :=
    let (accepted, cursor) :=
      SdkCursor.removeMemoryWatchpoint metered.cursor address size mask thread
    (accepted, ⟨cursor, metered.seeks⟩)
  view metered := SdkCursor.view metered.cursor

instance : SeekMeter (MeteredCursor σ) where
  seeks := seeks
  seeks_setPosition _ _ := rfl
  seeks_replay answer metered request state := by
    simp only [SdkCursor.replay, Dialogue.run_map]
    rfl
  seeks_setEventMask _ _ := rfl
  seeks_setExceptionMask _ _ := rfl
  seeks_addMemoryWatchpoint _ _ _ _ _ := rfl
  seeks_removeMemoryWatchpoint _ _ _ _ _ := rfl

/-- Counting changes nothing that the target relies on. -/
instance [LawfulSdkCursor σ] : LawfulSdkCursor (MeteredCursor σ) where
  round := LawfulSdkCursor.round σ
  getPosition_setPosition metered position :=
    LawfulSdkCursor.getPosition_setPosition metered.cursor position
  round_getPosition metered := LawfulSdkCursor.round_getPosition metered.cursor
  getPosition_setEventMask metered mask :=
    LawfulSdkCursor.getPosition_setEventMask metered.cursor mask
  getPosition_setExceptionMask metered mask :=
    LawfulSdkCursor.getPosition_setExceptionMask metered.cursor mask
  getPosition_addMemoryWatchpoint metered address size mask thread :=
    LawfulSdkCursor.getPosition_addMemoryWatchpoint metered.cursor address size mask thread
  getPosition_removeMemoryWatchpoint metered address size mask thread :=
    LawfulSdkCursor.getPosition_removeMemoryWatchpoint metered.cursor address size mask thread
  view_congr first second same :=
    LawfulSdkCursor.view_congr first.cursor second.cursor same

end MeteredCursor

/-! ## The seeks of a wrapped cursor -/

namespace ReplayCursor

variable {σ : Type} [SdkCursor σ] [SeekMeter σ]

/-- The `SetPosition` calls that the cursor served. -/
def seeks (self : ReplayCursor σ) : Nat :=
  SeekMeter.seeks self.cursor

@[simp]
theorem seeks_setPosition (self : ReplayCursor σ) (position : TtdPosition) :
    (self.setPosition position).seeks = self.seeks + 1 :=
  SeekMeter.seeks_setPosition self.cursor position

@[simp]
theorem seeks_setEventMask (self : ReplayCursor σ) (mask : EventMask) :
    (self.setEventMask mask).seeks = self.seeks :=
  SeekMeter.seeks_setEventMask self.cursor mask

@[simp]
theorem seeks_setExceptionMask (self : ReplayCursor σ) (mask : ExceptionMask) :
    (self.setExceptionMask mask).seeks = self.seeks :=
  SeekMeter.seeks_setExceptionMask self.cursor mask

@[simp]
theorem seeks_watchpoint (self : ReplayCursor σ) (address size : UInt64)
    (access : DataAccessMask) (thread : UInt32) :
    (self.watchpoint address size access thread).2.seeks = self.seeks :=
  SeekMeter.seeks_addMemoryWatchpoint self.cursor address size access thread

@[simp]
theorem seeks_removeWatchpoint (self : ReplayCursor σ) (address size : UInt64)
    (access : DataAccessMask) (thread : UInt32) :
    (self.removeWatchpoint address size access thread).2.seeks = self.seeks :=
  SeekMeter.seeks_removeMemoryWatchpoint self.cursor address size access thread

/-- A replay call seeks nowhere, however it ends. -/
theorem seeks_replay {τ : Type} (self : ReplayCursor σ) (limit : TtdPosition) (steps : UInt64)
    (forward : Bool) (callback : Option (WatchpointFn τ)) (state : τ) :
    (self.replay limit steps forward callback state).2.1.seeks = self.seeks := by
  have kept := SeekMeter.seeks_replay (watchpointShim callback) self.cursor
    ⟨limit, steps, forward⟩ (state, none)
  unfold replay
  split
  rename_i ran
  rw [ran] at kept
  exact kept

end ReplayCursor

end TtdGdbserver.Ttd
