import TtdGdbserver.Ttd.Cursor

/-!
# Panic escalation across the callback boundary

A panicking callback leaves its payload in a slot of the thread, and the guard
of the call that invoked it throws the payload again.  The slot outlives the
calls; between two guarded calls it may hold a payload that no guard took.
-/

namespace TtdGdbserver.Ttd

open TtdGdbserver.Transition

section

variable {ε α : Type}

/-- One use of `callGuarded`: how the closure ends, a panic with its payload as
an error, and the value that stands in for a panic. -/
structure Invocation (ε α : Type) where
  f : Except ε α
  onPanic : α

/-- Run `f`, converting a panic into a stashed payload and `onPanic`.  A pending
payload is kept. -/
def callGuarded (stashed : Option ε) (invocation : Invocation ε α) : α × Option ε :=
  match invocation.f with
  | .ok r => (r, stashed)
  | .error payload =>
      if stashed.isSome then (invocation.onPanic, stashed)
      else (invocation.onPanic, some payload)

/-- Arm panic escalation for one FFI call.  A stale payload is dropped. -/
def callbackPanicGuard (stashed : Option ε) : Option ε :=
  if stashed.isSome then none else stashed

/-- Drop the guard: take what is stashed and throw it. -/
def CallbackPanicGuard.drop (stashed : Option ε) : Option ε × Option ε :=
  (stashed, none)

/-- The callbacks of one FFI call, one after the other. -/
def callAll (stashed : Option ε) : List (Invocation ε α) → List α × Option ε
  | [] => ([], stashed)
  | invocation :: rest =>
      let (value, stashed) := callGuarded stashed invocation
      let (values, stashed) := callAll stashed rest
      (value :: values, stashed)

/-- What a thread does with the slot. -/
inductive Operation (ε α : Type) where
  /-- An FFI call that holds a guard. -/
  | guarded (invocations : List (Invocation ε α))
  /-- A callback that runs while nothing holds a guard. -/
  | unguarded (invocation : Invocation ε α)

/-- What an operation is seen to do: the values its callbacks yield, and the
payload it throws. -/
structure Report (ε α : Type) where
  values : List α
  thrown : Option ε

/-- Perform an operation; a guard is around its callbacks, or none. -/
def Operation.perform (stashed : Option ε) : Operation ε α → Report ε α × Option ε
  | .guarded invocations =>
      let stashed := callbackPanicGuard stashed
      let (values, stashed) := callAll stashed invocations
      let (thrown, stashed) := CallbackPanicGuard.drop stashed
      (⟨values, thrown⟩, stashed)
  | .unguarded invocation =>
      let (value, stashed) := callGuarded stashed invocation
      (⟨[value], none⟩, stashed)

/-- The operations of a thread in order. -/
def performAll (stashed : Option ε) : List (Operation ε α) → List (Report ε α) × Option ε
  | [] => ([], stashed)
  | operation :: rest =>
      let (report, stashed) := operation.perform stashed
      let (reports, stashed) := performAll stashed rest
      (report :: reports, stashed)

/-! ## One call -/

namespace Invocation

/-- The payload of a panicking callback. -/
def payload? (invocation : Invocation ε α) : Option ε :=
  match invocation.f with
  | .ok _ => none
  | .error payload => some payload

/-- What the caller of the callback gets. -/
def yielded (invocation : Invocation ε α) : α :=
  match invocation.f with
  | .ok r => r
  | .error _ => invocation.onPanic

end Invocation

theorem callGuarded_eq (stashed : Option ε) (invocation : Invocation ε α) :
    callGuarded stashed invocation = (invocation.yielded, stashed.or invocation.payload?) := by
  unfold callGuarded Invocation.yielded Invocation.payload?
  cases invocation.f with
  | ok r => rw [Option.or_none]
  | error payload => cases stashed <;> rfl

@[simp]
theorem callbackPanicGuard_eq (stashed : Option ε) : callbackPanicGuard stashed = none := by
  cases stashed <;> rfl

/-- The slot keeps the first payload that reaches it. -/
theorem callAll_eq (stashed : Option ε) (invocations : List (Invocation ε α)) :
    callAll stashed invocations = (invocations.map Invocation.yielded,
      stashed.or (invocations.findSome? Invocation.payload?)) := by
  induction invocations generalizing stashed with
  | nil => rw [callAll, List.findSome?_nil, Option.or_none, List.map_nil]
  | cons invocation rest ih =>
      have first : (invocation :: rest).findSome? Invocation.payload? =
          invocation.payload?.or (rest.findSome? Invocation.payload?) := by
        cases panicked : invocation.payload? <;> simp [panicked]
      simp only [callAll, callGuarded_eq, ih, List.map_cons, first, Option.or_assoc]

/-- A guarded call starts from an empty slot and leaves one, whatever it finds. -/
theorem perform_guarded (stashed : Option ε) (invocations : List (Invocation ε α)) :
    (Operation.guarded invocations).perform stashed =
      (⟨invocations.map Invocation.yielded, invocations.findSome? Invocation.payload?⟩,
        none) := by
  simp only [Operation.perform, callbackPanicGuard_eq, callAll_eq, CallbackPanicGuard.drop,
    Option.none_or]

theorem perform_unguarded (stashed : Option ε) (invocation : Invocation ε α) :
    (Operation.unguarded invocation).perform stashed =
      (⟨[invocation.yielded], none⟩, stashed.or invocation.payload?) := by
  simp only [Operation.perform, callGuarded_eq]

/-! ## Every sequence of calls -/

/-- `payload` comes from the first callback of a call that panics. -/
def FirstPanic (invocations : List (Invocation ε α)) (payload : ε) : Prop :=
  ∃ before invocation after, invocations = before ++ invocation :: after ∧
    (∀ earlier ∈ before, ∃ r, earlier.f = .ok r) ∧ invocation.f = .error payload

/-- A call throws what its own callbacks call for, and a callback without a
guard throws nothing. -/
def Escalates : Operation ε α → Report ε α → Prop
  | .guarded invocations, report =>
      report.values = invocations.map Invocation.yielded ∧
        ((∃ payload, report.thrown = some payload) ↔
          ∃ invocation ∈ invocations, ∃ payload, invocation.f = .error payload) ∧
        ∀ payload, report.thrown = some payload → FirstPanic invocations payload
  | .unguarded invocation, report =>
      report.values = [invocation.yielded] ∧ report.thrown = none

theorem Invocation.payload?_eq_none_iff (invocation : Invocation ε α) :
    invocation.payload? = none ↔ ∃ r, invocation.f = .ok r := by
  unfold Invocation.payload?
  cases invocation.f <;> simp

theorem Invocation.payload?_eq_some_iff (invocation : Invocation ε α) (payload : ε) :
    invocation.payload? = some payload ↔ invocation.f = .error payload := by
  unfold Invocation.payload?
  cases invocation.f <;> simp

theorem exists_findSome?_iff (invocations : List (Invocation ε α)) :
    (∃ payload, invocations.findSome? Invocation.payload? = some payload) ↔
      ∃ invocation ∈ invocations, ∃ payload, invocation.f = .error payload := by
  simp only [← Invocation.payload?_eq_some_iff, ← Option.isSome_iff_exists,
    List.isSome_findSome?, List.any_eq_true]

theorem firstPanic_of_findSome? {invocations : List (Invocation ε α)} {payload : ε}
    (found : invocations.findSome? Invocation.payload? = some payload) :
    FirstPanic invocations payload := by
  obtain ⟨before, invocation, after, split, here, quiet⟩ := List.findSome?_eq_some_iff.mp found
  refine ⟨before, invocation, after, split, ?_, (invocation.payload?_eq_some_iff payload).mp here⟩
  intro earlier mem
  exact earlier.payload?_eq_none_iff.mp (quiet earlier mem)

theorem escalates_perform (stashed : Option ε) (operation : Operation ε α) :
    Escalates operation (operation.perform stashed).1 := by
  cases operation with
  | guarded invocations =>
      rw [perform_guarded]
      exact ⟨rfl, exists_findSome?_iff invocations, fun _ => firstPanic_of_findSome?⟩
  | unguarded invocation =>
      rw [perform_unguarded]
      exact ⟨rfl, rfl⟩

theorem performAll_append (stashed : Option ε) (first second : List (Operation ε α)) :
    (performAll stashed (first ++ second)).2 =
      (performAll (performAll stashed first).2 second).2 := by
  induction first generalizing stashed with
  | nil => rfl
  | cons operation rest ih => exact ih (operation.perform stashed).2

/-- Whatever is stashed at first, every call of a sequence throws the first
panic of its own callbacks or nothing, and nothing is left to throw after it. -/
theorem performAll_escalates (stashed : Option ε) (operations : List (Operation ε α)) :
    List.Forall₂ Escalates operations (performAll stashed operations).1 ∧
      ∀ (earlier : List (Operation ε α)) (invocations : List (Invocation ε α)),
        (performAll stashed (earlier ++ [.guarded invocations])).2 = none := by
  constructor
  · induction operations generalizing stashed with
    | nil => exact .nil
    | cons operation rest ih =>
        exact .cons (escalates_perform stashed operation) (ih (operation.perform stashed).2)
  · intro earlier invocations
    rw [performAll_append]
    simp only [performAll, perform_guarded]

end

/-! ## Replay calls -/

section Replay

variable {σ τ ρ : Type} [SdkCursor σ]

/-- What the bridge of the hit callback guards. -/
def hitInvocation (callback : WatchpointFn τ) (state : τ) (hit : WatchpointHit) :
    Invocation String Bool where
  f := match hit.panics with
    | some payload => .error payload
    | none => .ok (callback state hit.address hit.size (DataAccessType.ofU8 hit.access).mask
        hit.thread).1
  onPanic := true

theorem watchpointShim_eq_callGuarded (callback : WatchpointFn τ) (state : τ)
    (stashed : Option String) (hit : WatchpointHit) :
    ((watchpointShim (some callback) (state, stashed) hit).1,
        (watchpointShim (some callback) (state, stashed) hit).2.2) =
      callGuarded stashed (hitInvocation callback state hit) := by
  rw [callGuarded_eq]
  unfold watchpointShim hitInvocation Invocation.yielded Invocation.payload?
  cases hit.panics with
  | some payload => rfl
  | none => simp

/-- The uses of `callGuarded` in a replay call. -/
def hitInvocations (callback : WatchpointFn τ) :
    Dialogue WatchpointHit Bool ρ → τ × Option String → List (Invocation String Bool)
  | .done _, _ => []
  | .ask hit next, state =>
      let reply := watchpointShim (some callback) state hit
      hitInvocation callback state.1 hit :: hitInvocations callback (next reply.1) reply.2

theorem stashed_run (callback : WatchpointFn τ) (dialogue : Dialogue WatchpointHit Bool ρ)
    (state : τ × Option String) :
    (dialogue.run (watchpointShim (some callback)) state).2.2 =
      (callAll state.2 (hitInvocations callback dialogue state)).2 := by
  induction dialogue generalizing state with
  | done result => rfl
  | ask hit next ih =>
      have guarded := watchpointShim_eq_callGuarded callback state.1 state.2 hit
      simp only [Dialogue.run, hitInvocations, callAll, ← guarded]
      exact ih _ _

/-- A replay call is a guarded call: it unwinds with what the guard throws,
whatever an earlier call left in the slot. -/
theorem ReplayCursor.replay_eq_panicked_iff (self : ReplayCursor σ) (limit : TtdPosition)
    (steps : UInt64) (forward : Bool) (callback : WatchpointFn τ) (state : τ)
    (stale : Option String) (payload : String) :
    (self.replay limit steps forward (some callback) state).1 = .panicked payload ↔
      ((Operation.guarded (hitInvocations callback
        (SdkCursor.replay self.cursor ⟨limit, steps, forward⟩) (state, none))).perform
          stale).1.thrown = some payload := by
  rw [perform_guarded]
  have stashed := stashed_run callback (SdkCursor.replay self.cursor ⟨limit, steps, forward⟩)
    (state, none)
  simp only [callAll_eq, Option.none_or] at stashed
  simp only [← stashed]
  simp only [replay]
  cases ((SdkCursor.replay self.cursor ⟨limit, steps, forward⟩).run
      (watchpointShim (some callback)) (state, none)).2.2 with
  | some thrown => simp
  | none =>
      dsimp only
      split <;> simp

end Replay

end TtdGdbserver.Ttd
