import Mathlib.Data.List.Induction

/-!
# The latest event of a kind

A history is a list of events, the oldest first.  Many a requirement on a
system that keeps flags speaks of the latest event of some kind: the flag is up
exactly if that event is one of those that raise it.

The module names nothing of the program it is used for.
-/

namespace TtdGdbserver.Transition

universe u

variable {ε : Type u} {kind : ε → Prop} {history : List ε} {event found : ε}

/-- `found` is the latest event of the kind. -/
def Latest (kind : ε → Prop) (history : List ε) (found : ε) : Prop :=
  ∃ before after, history = before ++ found :: after ∧ kind found ∧
    ∀ later ∈ after, ¬ kind later

theorem not_latest_nil : ¬ Latest kind [] found := by
  rintro ⟨before, after, split, _⟩
  simp at split

/-- An event of the kind is the latest one once it happens. -/
theorem latest_snoc_of_kind (holds : kind event) :
    Latest kind (history ++ [event]) found ↔ found = event := by
  constructor
  · rintro ⟨before, after, split, _, none_⟩
    rcases List.eq_nil_or_concat after with rfl | ⟨front, last, rfl⟩
    · exact (List.singleton_inj.mp (List.append_inj' split rfl).2).symm
    · have regroup :
          before ++ found :: front.concat last = (before ++ found :: front) ++ [last] := by
        simp
      rw [regroup] at split
      have same := List.singleton_inj.mp (List.append_inj' split rfl).2
      exact absurd holds (none_ event (by simp [same]))
  · rintro rfl
    exact ⟨history, [], rfl, holds, by simp⟩

/-- An event of another kind changes nothing. -/
theorem latest_snoc_of_not (other : ¬ kind event) :
    Latest kind (history ++ [event]) found ↔ Latest kind history found := by
  constructor
  · rintro ⟨before, after, split, holds, none_⟩
    rcases List.eq_nil_or_concat after with rfl | ⟨front, last, rfl⟩
    · have same := List.singleton_inj.mp (List.append_inj' split rfl).2
      rw [same] at other
      exact absurd holds other
    · have regroup :
          before ++ found :: front.concat last = (before ++ found :: front) ++ [last] := by
        simp
      rw [regroup] at split
      refine ⟨before, front, (List.append_inj' split rfl).1, holds, ?_⟩
      intro later present
      exact none_ later (by simp [present])
  · rintro ⟨before, after, rfl, holds, none_⟩
    refine ⟨before, after ++ [event], by simp, holds, ?_⟩
    intro later present
    rcases List.mem_append.mp present with earlier | now
    · exact none_ later earlier
    · rw [List.mem_singleton.mp now]
      exact other

/-- The latest event of the kind meets a condition. -/
def LatestIs (kind good : ε → Prop) (history : List ε) : Prop :=
  ∃ found, Latest kind history found ∧ good found

variable {good : ε → Prop}

theorem not_latestIs_nil : ¬ LatestIs kind good [] := by
  rintro ⟨found, latest, _⟩
  exact not_latest_nil latest

theorem latestIs_snoc_of_kind (holds : kind event) :
    LatestIs kind good (history ++ [event]) ↔ good event := by
  simp [LatestIs, latest_snoc_of_kind holds]

theorem latestIs_snoc_of_not (other : ¬ kind event) :
    LatestIs kind good (history ++ [event]) ↔ LatestIs kind good history := by
  simp [LatestIs, latest_snoc_of_not other]

/-! ## Events that the ones before them allow -/

variable {allowed : List ε → ε → Prop}

/-- Each event is one that the events before it allow. -/
def Follows (allowed : List ε → ε → Prop) (history : List ε) : Prop :=
  ∀ before event after, history = before ++ event :: after → allowed before event

theorem follows_nil : Follows allowed [] := by
  rintro before event after split
  simp at split

theorem follows_snoc :
    Follows allowed (history ++ [event]) ↔ Follows allowed history ∧ allowed history event := by
  constructor
  · intro follows
    constructor
    · rintro before earlier after rfl
      exact follows before earlier (after ++ [event]) (by simp)
    · exact follows history event [] rfl
  · rintro ⟨follows, last⟩ before found after split
    rcases List.eq_nil_or_concat after with rfl | ⟨front, final, rfl⟩
    · obtain ⟨rfl, same⟩ := List.append_inj' split rfl
      rw [← List.singleton_inj.mp same]
      exact last
    · have regroup : before ++ found :: front.concat final =
          (before ++ found :: front) ++ [final] := by simp
      rw [regroup] at split
      exact follows before found front (List.append_inj' split rfl).1

/-! ## Events in order -/

/-- A sequence of events that ends with the newest event, or is older. -/
theorem sublist_snoc_iff {front list : List ε} {last item : ε} :
    List.Sublist (front ++ [last]) (list ++ [item]) ↔
      List.Sublist (front ++ [last]) list ∨ last = item ∧ List.Sublist front list := by
  constructor
  · intro sub
    rw [← List.reverse_sublist] at sub
    simp only [List.reverse_append, List.reverse_singleton, List.singleton_append] at sub
    rcases List.sublist_cons_iff.mp sub with within | ⟨rest, same, within⟩
    · left
      rw [← List.reverse_sublist]
      simpa using within
    · right
      rw [List.cons.injEq] at same
      rcases same with ⟨rfl, rfl⟩
      exact ⟨rfl, List.reverse_sublist.mp within⟩
  · rintro (within | ⟨rfl, within⟩)
    · exact within.trans (List.sublist_append_left list [item])
    · exact within.append (List.Sublist.refl [last])

/-- The events before the newest one of a sequence are older than what comes
without it. -/
theorem sublist_of_append {front list more : List ε} {last : ε} (absent : last ∉ more)
    (sub : List.Sublist (front ++ [last]) (list ++ more)) :
    List.Sublist (front ++ [last]) list := by
  induction more using List.reverseRecOn with
  | nil => simpa using sub
  | append_singleton more item ih =>
      rw [List.mem_append, List.mem_singleton, not_or] at absent
      rw [← List.append_assoc, sublist_snoc_iff] at sub
      rcases sub with older | ⟨same, -⟩
      · exact ih absent.1 older
      · exact absurd same absent.2

end TtdGdbserver.Transition
