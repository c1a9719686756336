import TtdGdbserver.Transition.Dialogue

/-!
# Calls that scan a list of events

A call that goes through a list of events in order.  Some events halt it, others
it may put to its caller as a question, and the answer decides whether it halts
there.  It has to ask about the watched events and may ask about any other.  A
caller that wants to halt at watched events only cannot tell such calls apart:
each of them ends at the first event that halts it or that the caller accepts.

The module names nothing of the program it is used for.
-/

namespace TtdGdbserver.Transition

universe u v w x

/-- What a call does about the events it comes across. -/
structure Scan (ε : Type u) (α : Type v) where
  question : ε → Option α
  watched : ε → Bool
  halts : ε → Bool

namespace Scan

variable {ε : Type u} {α : Type v}

/-- The event ends a scan for a caller that accepts the given questions. -/
def ends (scan : Scan ε α) (accepts : α → Bool) (event : ε) : Bool :=
  scan.halts event || (scan.question event).any accepts

/-- The caller accepts no event that might not be put to it. -/
def Covers (scan : Scan ε α) (accepts : α → Bool) (events : List ε) : Prop :=
  ∀ event ∈ events, (scan.question event).any accepts = true → scan.watched event = true

theorem Covers.tail {scan : Scan ε α} {accepts : α → Bool} {event : ε} {rest : List ε}
    (covers : scan.Covers accepts (event :: rest)) : scan.Covers accepts rest :=
  fun other later => covers other (List.mem_cons_of_mem event later)

end Scan

namespace Dialogue

variable {ε : Type u} {α : Type v} {ρ : Type w} {scan : Scan ε α}
  {result : Option ε → ρ → Prop}

/-- The call scans the events; `result` relates where it ends, if it ends at an
event, to what it ends with. -/
inductive Scans (scan : Scan ε α) (result : Option ε → ρ → Prop) :
    List ε → Dialogue α Bool ρ → Prop
  | exhausted {value : ρ} (ended : result none value) : Scans scan result [] (.done value)
  | halted {event : ε} {rest : List ε} {value : ρ} (halts : scan.halts event = true)
      (ended : result (some event) value) : Scans scan result (event :: rest) (.done value)
  | asked {event : ε} {rest : List ε} {question : α} {next : Bool → Dialogue α Bool ρ}
      {value : ρ} (goesOn : scan.halts event = false) (put : scan.question event = some question)
      (stops : next true = .done value) (ended : result (some event) value)
      (further : Scans scan result rest (next false)) :
      Scans scan result (event :: rest) (.ask question next)
  | passed {event : ε} {rest : List ε} {dialogue : Dialogue α Bool ρ}
      (goesOn : scan.halts event = false) (unwatched : scan.watched event = false)
      (further : Scans scan result rest dialogue) : Scans scan result (event :: rest) dialogue

section Run

variable {τ : Type x} {answer : τ → α → Bool × τ} {accepts : α → Bool}

/-- What the caller's state is after a scan that ended at the given event, if its
state changes at the questions it accepts only. -/
def stateAfter (scan : Scan ε α) (answer : τ → α → Bool × τ) (state : τ) : Option ε → τ
  | none => state
  | some event =>
      if scan.halts event then state
      else ((scan.question event).map fun question => (answer state question).2).getD state

/-- A scan ends at the first event that halts it or that the caller accepts. -/
theorem Scans.run {good : α → Prop}
    (decides : ∀ state question, good question → (answer state question).1 = accepts question)
    (ignores : ∀ state question, good question → accepts question = false →
      (answer state question).2 = state)
    {events : List ε} {dialogue : Dialogue α Bool ρ}
    (goods : ∀ event ∈ events, ∀ question, scan.question event = some question → good question)
    (covers : scan.Covers accepts events) (scans : Scans scan result events dialogue)
    (state : τ) :
    result (events.find? (scan.ends accepts)) (dialogue.run answer state).1 ∧
      (dialogue.run answer state).2 =
        stateAfter scan answer state (events.find? (scan.ends accepts)) := by
  induction scans with
  | exhausted ended => exact ⟨ended, rfl⟩
  | @halted event rest value halts ended =>
      have found : scan.ends accepts event = true := by rw [Scan.ends, halts, Bool.true_or]
      rw [List.find?_cons_of_pos found]
      exact ⟨ended, by rw [stateAfter, if_pos halts]; rfl⟩
  | @asked event rest question next value goesOn put stops ended further ih =>
      have good_ := goods event (List.mem_cons_self ..) question put
      have decided := decides state question good_
      have later := ih (fun other member => goods other (List.mem_cons_of_mem _ member))
        covers.tail
      cases accepted : accepts question with
      | true =>
          have found : scan.ends accepts event = true := by simp [Scan.ends, put, accepted]
          rw [List.find?_cons_of_pos found, Dialogue.run, decided, accepted, stops]
          refine ⟨ended, ?_⟩
          simp [stateAfter, goesOn, put, Dialogue.run]
      | false =>
          have missed : ¬ scan.ends accepts event = true := by
            simp [Scan.ends, goesOn, put, accepted]
          rw [List.find?_cons_of_neg missed, Dialogue.run, decided, accepted,
            ignores state question good_ accepted]
          exact later
  | @passed event rest dialogue goesOn unwatched further ih =>
      have missed : ¬ scan.ends accepts event = true := by
        intro ends
        rw [Scan.ends, goesOn, Bool.false_or] at ends
        rw [covers event (List.mem_cons_self ..) ends] at unwatched
        contradiction
      rw [List.find?_cons_of_neg missed]
      exact ih (fun other member => goods other (List.mem_cons_of_mem _ member)) covers.tail

end Run

/-- The scan that asks about the watched events only. -/
def ofScan (scan : Scan ε α) (value : Option ε → ρ) : List ε → Dialogue α Bool ρ
  | [] => .done (value none)
  | event :: rest =>
      if scan.halts event then .done (value (some event))
      else
        match scan.watched event, scan.question event with
        | true, some question =>
            .ask question fun stop =>
              if stop then .done (value (some event)) else ofScan scan value rest
        | _, _ => ofScan scan value rest

/-- Whatever the caller answers, it ends with one of the values. -/
theorem run_ofScan {τ : Type x} (answer : τ → α → Bool × τ) (value : Option ε → ρ)
    (events : List ε) (state : τ) :
    ∃ stop, ((ofScan scan value events).run answer state).1 = value stop := by
  induction events generalizing state with
  | nil => exact ⟨none, rfl⟩
  | cons event rest ih =>
      unfold ofScan
      split
      · exact ⟨some event, rfl⟩
      · split
        · rename_i question _ _
          rw [Dialogue.run]
          cases (answer state question).1 with
          | true => exact ⟨some event, rfl⟩
          | false => exact ih _
        · exact ih state

theorem scans_ofScan {value : Option ε → ρ} {events : List ε} (none_ : result none (value none))
    (some_ : ∀ event ∈ events, result (some event) (value (some event)))
    (askable : ∀ event ∈ events, scan.watched event = true → (scan.question event).isSome) :
    Scans scan result events (ofScan scan value events) := by
  induction events with
  | nil => exact .exhausted none_
  | cons event rest ih =>
      have later := ih (fun other member => some_ other (List.mem_cons_of_mem _ member))
        fun other member => askable other (List.mem_cons_of_mem _ member)
      have ended := some_ event (List.mem_cons_self ..)
      have asks := askable event (List.mem_cons_self ..)
      unfold ofScan
      cases halts : scan.halts event with
      | true => exact .halted halts ended
      | false =>
          cases watched : scan.watched event with
          | false => exact .passed halts watched later
          | true =>
              obtain ⟨question, put⟩ := Option.isSome_iff_exists.mp (asks watched)
              rw [put]
              exact .asked halts put rfl ended later

end Dialogue

end TtdGdbserver.Transition
