import TtdGdbserver.Transition.Latest

/-!
# Cancelling a loop of calls

A loop issues one call after the other, and a request wants to end it.  What is
requested first only raises a flag that the loop does not read; some time later
the request looks for a call in flight and tells it, if there is one.  A call
that was told is the last one of the loop.

The request cancels the loop if no call is issued after it without being told.
It does so exactly if it looks in time: while a call is in flight or the loop is
over, and before a call that was issued in the meantime has returned.

The module names nothing of the program it is used for.
-/

namespace TtdGdbserver.Transition

/-! ## The loop and the request -/

/-- Calls are numbered in the order in which they are issued. -/
inductive CallEvent where
  | issued (call : Nat)
  /-- The call returned, and the loop is over if it was the last one. -/
  | returned (call : Nat) (last : Bool)
  | requested
  /-- The request looked for a call in flight, and told the one it found. -/
  | looked (told : Option Nat)
  deriving DecidableEq, Repr

/-- Where the caller stands: between its calls, in one of them, or past the last. -/
inductive CallPhase where
  | between
  | calling (call : Nat) (told : Bool)
  | finished
  deriving DecidableEq, Repr

/-- Where the request stands. -/
inductive RequestPhase where
  | idle
  | pending
  | done
  deriving DecidableEq, Repr

/-- The events that lead the loop to a phase, with so many calls issued, and the
request to another. -/
inductive CallLoop : List CallEvent → CallPhase → Nat → RequestPhase → Prop where
  | start : CallLoop [] .between 0 .idle
  | issue {events : List CallEvent} {issued : Nat} {request : RequestPhase}
      (before : CallLoop events .between issued request) :
      CallLoop (events ++ [.issued issued]) (.calling issued false) (issued + 1) request
  | goOn {events : List CallEvent} {call issued : Nat} {request : RequestPhase}
      (before : CallLoop events (.calling call false) issued request) :
      CallLoop (events ++ [.returned call false]) .between issued request
  | finish {events : List CallEvent} {call issued : Nat} {told : Bool} {request : RequestPhase}
      (before : CallLoop events (.calling call told) issued request) :
      CallLoop (events ++ [.returned call true]) .finished issued request
  | request {events : List CallEvent} {phase : CallPhase} {issued : Nat}
      (before : CallLoop events phase issued .idle) :
      CallLoop (events ++ [.requested]) phase issued .pending
  | tell {events : List CallEvent} {call issued : Nat} {told : Bool}
      (before : CallLoop events (.calling call told) issued .pending) :
      CallLoop (events ++ [.looked (some call)]) (.calling call true) issued .done
  | miss {events : List CallEvent} {phase : CallPhase} {issued : Nat}
      (before : CallLoop events phase issued .pending)
      (quiet : ∀ call told, phase ≠ .calling call told) :
      CallLoop (events ++ [.looked none]) phase issued .done

/-! ## What is required -/

/-- Every call that is issued after the request is told. -/
def Cancelled (events : List CallEvent) : Prop :=
  ∀ call, List.Sublist [.requested, .issued call] events → .looked (some call) ∈ events

/-- The request looks while a call is in flight or the loop is over, and no call
has come and gone since it was made. -/
structure InTime (events : List CallEvent) : Prop where
  hit : (∃ call, .looked (some call) ∈ events) ∨
    ∃ call, List.Sublist [.returned call true, .looked none] events
  prompt : ∀ call last told,
    ¬List.Sublist [.requested, .issued call, .returned call last, .looked told] events

/-! ## Invariants -/

namespace CallLoop

variable {events : List CallEvent} {phase : CallPhase} {issued : Nat} {request : RequestPhase}

theorem calling_lt (loop : CallLoop events phase issued request) {call : Nat} {told : Bool}
    (inside : phase = .calling call told) : call < issued := by
  induction loop generalizing told with
  | start => cases inside
  | issue before =>
      cases inside
      exact Nat.lt_succ_self _
  | goOn before => cases inside
  | finish before => cases inside
  | request before ih => exact ih inside
  | tell before ih =>
      cases inside
      exact ih rfl
  | miss before quiet ih => exact ih inside

/-- A call that has returned is not in flight. -/
theorem returned_lt (loop : CallLoop events phase issued request) {call : Nat} {last : Bool}
    (returned : .returned call last ∈ events) :
    call < issued ∧ ∀ told, phase ≠ .calling call told := by
  induction loop with
  | start => simp at returned
  | issue before ih =>
      obtain ⟨earlier, -⟩ := ih (by simpa using returned)
      refine ⟨Nat.lt_succ_of_lt earlier, ?_⟩
      rintro told same
      cases same
      exact Nat.lt_irrefl _ earlier
  | goOn before ih =>
      refine ⟨?_, by simp⟩
      rcases List.mem_append.mp returned with older | newest
      · exact (ih older).1
      · cases List.mem_singleton.mp newest
        exact before.calling_lt rfl
  | finish before ih =>
      refine ⟨?_, by simp⟩
      rcases List.mem_append.mp returned with older | newest
      · exact (ih older).1
      · cases List.mem_singleton.mp newest
        exact before.calling_lt rfl
  | request before ih => exact ih (by simpa using returned)
  | tell before ih =>
      obtain ⟨earlier, elsewhere⟩ := ih (by simpa using returned)
      refine ⟨earlier, ?_⟩
      rintro told same
      cases same
      exact elsewhere _ rfl
  | miss before quiet ih => exact ih (by simpa using returned)

theorem finished_iff (loop : CallLoop events phase issued request) :
    phase = .finished ↔ ∃ call, .returned call true ∈ events := by
  induction loop with
  | start => simp
  | issue before ih => simpa using ih
  | goOn before ih => simpa using ih
  | finish before => simp
  | request before ih => simpa using ih
  | tell before ih => simpa using ih
  | miss before quiet ih => simpa using ih

/-- A call that was issued earlier than the newest event. -/
theorem made_of_snoc {event : CallEvent} {call : Nat} (other : .issued call ≠ event)
    (made : List.Sublist [.requested, .issued call] (events ++ [event])) :
    List.Sublist [.requested, .issued call] events := by
  have newest : List.Sublist ([.requested] ++ [.issued call]) (events ++ [event]) := made
  exact sublist_of_append (by simpa using other) newest

/-- A call that was issued has returned or is in flight. -/
theorem returned_or_calling (loop : CallLoop events phase issued request) {call : Nat}
    (made : List.Sublist [.requested, .issued call] events) :
    (∃ last, List.Sublist [.requested, .issued call, .returned call last] events) ∨
      ∃ told, phase = .calling call told := by
  have still {events : List CallEvent} (event : CallEvent) {last : Bool}
      (gone : List.Sublist [.requested, .issued call, .returned call last] events) :
      ∃ last, List.Sublist [.requested, .issued call, .returned call last] (events ++ [event]) :=
    ⟨last, gone.trans (List.sublist_append_left _ _)⟩
  induction loop with
  | start => simp at made
  | @issue events issued request before ih =>
      by_cases same : call = issued
      · exact .inr ⟨false, by rw [same]⟩
      · rcases ih (made_of_snoc (by simpa using same) made) with ⟨last, gone⟩ | ⟨told, inside⟩
        · exact .inl (still _ gone)
        · cases inside
  | goOn before ih =>
      have earlier := made_of_snoc (by simp) made
      rcases ih earlier with ⟨last, gone⟩ | ⟨told, inside⟩
      · exact .inl (still _ gone)
      · cases inside
        exact .inl ⟨false, earlier.append (List.Sublist.refl _)⟩
  | finish before ih =>
      have earlier := made_of_snoc (by simp) made
      rcases ih earlier with ⟨last, gone⟩ | ⟨told, inside⟩
      · exact .inl (still _ gone)
      · cases inside
        exact .inl ⟨true, earlier.append (List.Sublist.refl _)⟩
  | request before ih =>
      rcases ih (made_of_snoc (by simp) made) with ⟨last, gone⟩ | inside
      · exact .inl (still _ gone)
      · exact .inr inside
  | tell before ih =>
      rcases ih (made_of_snoc (by simp) made) with ⟨last, gone⟩ | ⟨told, inside⟩
      · exact .inl (still _ gone)
      · cases inside
        exact .inr ⟨true, rfl⟩
  | miss before quiet ih =>
      rcases ih (made_of_snoc (by simp) made) with ⟨last, gone⟩ | inside
      · exact .inl (still _ gone)
      · exact .inr inside

theorem unlooked (loop : CallLoop events phase issued request) (waiting : request ≠ .done)
    (told : Option Nat) : .looked told ∉ events := by
  induction loop with
  | start => simp
  | issue before ih => simpa using ih waiting
  | goOn before ih => simpa using ih waiting
  | finish before ih => simpa using ih waiting
  | request before ih => simpa using ih (by simp)
  | tell before => exact absurd rfl waiting
  | miss before => exact absurd rfl waiting

theorem requested_mem (loop : CallLoop events phase issued request) (made : request ≠ .idle) :
    .requested ∈ events := by
  induction loop with
  | start => exact absurd rfl made
  | issue before ih => simpa using ih made
  | goOn before ih => simpa using ih made
  | finish before ih => simpa using ih made
  | request before => simp
  | tell before ih => simpa using ih (by simp)
  | miss before quiet ih => simpa using ih (by simp)

/-! ## Before and after the look -/

/-- What comes after a look that found the loop in a phase. -/
inductive Aftermath (after : List CallEvent) (phase : CallPhase) :
    Option Nat → CallPhase → Prop where
  | told {call : Nat} {before : Bool} (quiet : ∀ later, .issued later ∉ after)
      (closing : phase = .calling call true ∨ phase = .finished) :
      Aftermath after phase (some call) (.calling call before)
  | finished (quiet : ∀ later, .issued later ∉ after) (ended : phase = .finished) :
      Aftermath after phase none .finished
  | between (goesOn : phase = .between ∨ ∃ later, .issued later ∈ after) :
      Aftermath after phase none .between

/-- The look splits the events. -/
structure Looked (events : List CallEvent) (phase : CallPhase) (before : List CallEvent)
    (told : Option Nat) (after : List CallEvent) : Prop where
  split : events = (before ++ [.looked told]) ++ after
  loop : ∃ found issued, CallLoop before found issued .pending ∧ Aftermath after phase told found
  once : ∀ other, .looked other ∉ after

/-- An event of the loop comes after the look. -/
theorem Looked.snoc {before after : List CallEvent} {told : Option Nat} {next : CallPhase}
    {event : CallEvent} (look : Looked events phase before told after)
    (other : ∀ told, event ≠ .looked told)
    (goesOn : ∀ found, Aftermath after phase told found →
      Aftermath (after ++ [event]) next told found) :
    Looked (events ++ [event]) next before told (after ++ [event]) := by
  obtain ⟨found, issued, begun, aftermath⟩ := look.loop
  refine ⟨?_, ⟨found, issued, begun, goesOn found aftermath⟩, ?_⟩
  · rw [look.split, List.append_assoc]
  · intro told mem
    rcases List.mem_append.mp mem with earlier | newest
    · exact look.once told earlier
    · exact other told (List.mem_singleton.mp newest).symm

theorem looked (loop : CallLoop events phase issued request) (done : request = .done) :
    ∃ before told after, Looked events phase before told after := by
  induction loop with
  | start => cases done
  | @issue events issued request earlier ih =>
      obtain ⟨before, told, after, look⟩ := ih done
      refine ⟨before, told, _, look.snoc (by simp) fun found aftermath => ?_⟩
      cases aftermath with
      | told quiet closing => simp at closing
      | finished quiet ended => cases ended
      | between goesOn => exact .between (.inr ⟨issued, by simp⟩)
  | @goOn events call issued request earlier ih =>
      obtain ⟨before, told, after, look⟩ := ih done
      refine ⟨before, told, _, look.snoc (by simp) fun found aftermath => ?_⟩
      cases aftermath with
      | told quiet closing => simp at closing
      | finished quiet ended => cases ended
      | between goesOn => exact .between (.inl rfl)
  | @finish events call issued told request earlier ih =>
      obtain ⟨before, told, after, look⟩ := ih done
      refine ⟨before, told, _, look.snoc (by simp) fun found aftermath => ?_⟩
      cases aftermath with
      | told quiet closing => exact .told (by simpa using quiet) (.inr rfl)
      | finished quiet ended => cases ended
      | between goesOn =>
          obtain ⟨later, issued⟩ := goesOn.resolve_left (by simp)
          exact .between (.inr ⟨later, by simp [issued]⟩)
  | request earlier => cases done
  | @tell events call issued told earlier =>
      exact ⟨events, some call, [], by simp, ⟨_, _, earlier, .told (by simp) (.inl rfl)⟩, by simp⟩
  | @miss events phase issued earlier quiet =>
      refine ⟨events, none, [], by simp, ⟨_, _, earlier, ?_⟩, by simp⟩
      cases phase with
      | between => exact .between (.inl rfl)
      | calling call told => exact absurd rfl (quiet call told)
      | finished => exact .finished (by simp) rfl

section Look

variable {before after : List CallEvent} {told : Option Nat}

/-- There was no other look. -/
theorem Looked.eq_of_mem (look : Looked events phase before told after) {other : Option Nat}
    (mem : .looked other ∈ events) : other = told := by
  obtain ⟨found, issued, loop, -⟩ := look.loop
  rw [look.split, List.mem_append, List.mem_append, List.mem_singleton] at mem
  rcases mem with (earlier | here) | later
  · exact absurd earlier (loop.unlooked (by simp) other)
  · cases here
    rfl
  · exact absurd later (look.once other)

/-- What precedes a look precedes the look. -/
theorem Looked.sublist_before (look : Looked events phase before told after)
    {front : List CallEvent} {other : Option Nat}
    (sub : List.Sublist (front ++ [.looked other]) events) :
    other = told ∧ List.Sublist front before := by
  obtain ⟨found, issued, loop, -⟩ := look.loop
  rw [look.split] at sub
  rcases sublist_snoc_iff.mp (sublist_of_append (look.once other) sub) with older | ⟨here, front⟩
  · exact absurd (older.subset (by simp)) (loop.unlooked (by simp) other)
  · cases here
    exact ⟨rfl, front⟩

/-- A call is issued before the look if none is issued after it. -/
theorem Looked.made_before (look : Looked events phase before told after)
    (quiet : ∀ later, .issued later ∉ after) {call : Nat}
    (made : List.Sublist [.requested, .issued call] events) :
    List.Sublist [.requested, .issued call] before := by
  have newest : List.Sublist ([.requested] ++ [.issued call])
      (before ++ [.looked told] ++ after) := look.split ▸ made
  exact made_of_snoc (by simp) (sublist_of_append (quiet call) newest)

end Look

/-- A request that looks in time cancels the loop. -/
theorem cancelled_of_inTime (loop : CallLoop events phase issued .done) (inTime : InTime events) :
    Cancelled events := by
  obtain ⟨before, told, after, look⟩ := loop.looked rfl
  obtain ⟨found, count, begun, aftermath⟩ := look.loop
  intro call made
  -- A call that came before the look is in flight there, or it is one too many.
  have inFlight (quiet : ∀ later, .issued later ∉ after) : ∃ t, found = .calling call t := by
    rcases begun.returned_or_calling (look.made_before quiet made) with ⟨last, gone⟩ | inside
    · have late := gone.append (List.Sublist.refl [CallEvent.looked told])
      refine absurd (late.trans ?_) (inTime.prompt call last told)
      rw [look.split]
      exact List.sublist_append_left _ _
    · exact inside
  cases aftermath with
  | told quiet closing =>
      obtain ⟨t, same⟩ := inFlight quiet
      cases same
      rw [look.split]
      simp
  | finished quiet ended =>
      obtain ⟨t, same⟩ := inFlight quiet
      cases same
  | between goesOn =>
      rcases inTime.hit with ⟨other, hit⟩ | ⟨other, ended⟩
      · cases look.eq_of_mem hit
      · have newest : List.Sublist ([.returned other true] ++ [.looked none]) events := ended
        have returned := (look.sublist_before newest).2
        cases begun.finished_iff.mpr ⟨other, List.singleton_sublist.mp returned⟩

/-- If the request cancels the loop, it looked in time. -/
theorem inTime_of_cancelled (loop : CallLoop events .finished issued .done)
    (cancelled : Cancelled events) : InTime events := by
  obtain ⟨before, told, after, look⟩ := loop.looked rfl
  obtain ⟨found, count, begun, aftermath⟩ := look.loop
  constructor
  · cases aftermath with
    | @told call _ quiet closing =>
        refine .inl ⟨call, ?_⟩
        rw [look.split]
        simp
    | finished quiet ended =>
        obtain ⟨call, returned⟩ := begun.finished_iff.mp rfl
        refine .inr ⟨call, ?_⟩
        rw [look.split]
        exact ((List.singleton_sublist.mpr returned).append (List.Sublist.refl _)).trans
          (List.sublist_append_left _ _)
    | between goesOn =>
        obtain ⟨later, issued⟩ := goesOn.resolve_left (by simp)
        have requested := begun.requested_mem (by simp)
        have made : List.Sublist [.requested, .issued later] events := by
          rw [look.split]
          exact (List.singleton_sublist.mpr (List.mem_append_left _ requested)).append
            (List.singleton_sublist.mpr issued)
        exact .inl ⟨later, cancelled later made⟩
  · intro call last other gone
    have newest : List.Sublist
        ([.requested, .issued call, .returned call last] ++ [.looked other]) events := gone
    have earlier := (look.sublist_before newest).2
    have made : List.Sublist [.requested, .issued call] events :=
      List.Sublist.trans (by simp) gone
    have hit := look.eq_of_mem (cancelled call made)
    have returned : .returned call last ∈ before := earlier.subset (by simp)
    obtain ⟨-, elsewhere⟩ := begun.returned_lt returned
    cases aftermath with
    | told quiet closing =>
        cases hit
        exact elsewhere _ rfl
    | finished => cases hit
    | between => cases hit

end CallLoop

end TtdGdbserver.Transition
