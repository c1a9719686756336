import Mathlib.Data.List.Forall2
import TtdGdbserver.Text.Number

/-!
# Words and columns

Splitting a line into its words, and the columns that such a split undoes:
numbers padded with blanks or with zeros, and gaps of any width between them.

The module names nothing of the program it is used for.
-/

namespace TtdGdbserver.Text

/-! ## Words -/

/-- `str::split_whitespace`. -/
def splitWhitespace (text : Text) : List Text :=
  (text.splitOnP isWhitespace).filter fun word => !word.isEmpty

/-- A text that a split keeps in one piece. -/
structure IsWord (text : Text) : Prop where
  nonempty : text ≠ []
  visible : ∀ char ∈ text, isWhitespace char = false

/-- What separates two words. -/
structure IsGap (text : Text) : Prop where
  nonempty : text ≠ []
  blank : ∀ char ∈ text, isWhitespace char = true

/-- A single blank. -/
theorem isGap_space : IsGap [' '] where
  nonempty := List.cons_ne_nil _ _
  blank := by
    intro char mem
    rw [List.mem_singleton.mp mem]
    rfl

theorem IsWord.append {first second : Text} (left : IsWord first)
    (visible : ∀ char ∈ second, isWhitespace char = false) : IsWord (first ++ second) where
  nonempty := List.append_ne_nil_of_left_ne_nil left.nonempty second
  visible := List.forall_mem_append.mpr ⟨left.visible, visible⟩

/-- A word that is written out. -/
theorem isWord_of_all {text : Text}
    (checked : (!text.isEmpty && text.all fun char => !isWhitespace char) = true) :
    IsWord text := by
  obtain ⟨nonempty, visible⟩ := Bool.and_eq_true_iff.mp checked
  refine ⟨fun empty => ?_, fun char mem => ?_⟩
  · rw [empty] at nonempty
    contradiction
  · have here := List.all_eq_true.mp visible char mem
    rwa [Bool.not_eq_true'] at here

theorem splitWhitespace_word {text : Text} (word : IsWord text) :
    splitWhitespace text = [text] := by
  rw [splitWhitespace, List.splitOnP_eq_singleton word.visible]
  simp [word.nonempty]

/-- A blank ends a word. -/
theorem splitWhitespace_append_cons (before after : Text) {char : Char}
    (blank : isWhitespace char = true) :
    splitWhitespace (before ++ char :: after) =
      splitWhitespace before ++ splitWhitespace after := by
  rw [splitWhitespace, List.splitOnP_append_cons _ _ blank, List.filter_append]
  rfl

theorem splitWhitespace_blank_append {blanks : Text}
    (blank : ∀ char ∈ blanks, isWhitespace char = true) (text : Text) :
    splitWhitespace (blanks ++ text) = splitWhitespace text := by
  induction blanks with
  | nil => rfl
  | cons char blanks ih =>
      have first : isWhitespace char = true := blank char (List.mem_cons_self ..)
      have rest := ih fun later mem => blank later (List.mem_cons_of_mem _ mem)
      exact (splitWhitespace_append_cons [] (blanks ++ text) first).trans rest

/-- The words on the two sides of a gap. -/
theorem splitWhitespace_gap {gap : Text} (isGap : IsGap gap) (before after : Text) :
    splitWhitespace (before ++ (gap ++ after)) =
      splitWhitespace before ++ splitWhitespace after := by
  obtain ⟨char, rest, rfl⟩ := List.exists_cons_of_ne_nil isGap.nonempty
  have first : isWhitespace char = true := isGap.blank char (List.mem_cons_self ..)
  rw [List.cons_append, splitWhitespace_append_cons _ _ first,
    splitWhitespace_blank_append fun later mem => isGap.blank later (List.mem_cons_of_mem _ mem)]

/-- A column is padded on its left. -/
theorem splitWhitespace_leftpad (width : Nat) (text : Text) :
    splitWhitespace (text.leftpad width ' ') = splitWhitespace text := by
  apply splitWhitespace_blank_append
  intro char mem
  rw [List.eq_of_mem_replicate mem]
  rfl

theorem splitWhitespace_intercalate {words : List Text} (areWords : ∀ word ∈ words, IsWord word) :
    splitWhitespace ([' '].intercalate words) = words := by
  induction words with
  | nil => rfl
  | cons word words ih =>
      have here := splitWhitespace_word (areWords word (List.mem_cons_self ..))
      have later := ih fun next mem => areWords next (List.mem_cons_of_mem _ mem)
      cases words with
      | nil => rw [List.intercalate_singleton, here]
      | cons next words =>
          rw [List.intercalate_cons_cons, List.append_assoc, splitWhitespace_gap isGap_space,
            here, later, List.singleton_append]

/-- A word with a punctuation mark behind it. -/
theorem IsWord.mark {text : Text} (word : IsWord text) {char : Char}
    (visible : isWhitespace char = false) : IsWord (text ++ [char]) :=
  word.append (List.forall_mem_singleton.mpr visible)

/-- A label between two fields. -/
theorem splitWhitespace_label {label : Text} (word : IsWord label) (before after : Text) :
    splitWhitespace (before ++ (' ' :: (label ++ ' ' :: after))) =
      splitWhitespace before ++ label :: splitWhitespace after := by
  rw [splitWhitespace_append_cons _ _ rfl, splitWhitespace_append_cons _ _ rfl,
    splitWhitespace_word word, List.singleton_append]

/-! ## Hexadecimal columns -/

/-- `{:x}` of an unsigned integer. -/
def lowerHex (value : UInt64) : Text :=
  Nat.toDigits 16 value.toNat

theorem spells_lowerHex {value : UInt64} {char : Char} (mem : char ∈ lowerHex value) :
    Spells char := by
  obtain ⟨digit, small, rfl⟩ := mem_toDigits (show 1 < 16 by decide) mem
  have digits : ∀ digit < 16, Spells (Nat.digitChar digit) := by decide
  exact digits digit small

theorem lowerHex_ne_nil (value : UInt64) : lowerHex value ≠ [] :=
  Nat.toDigits_ne_nil

@[simp]
theorem fromStrRadix_lowerHex (value : UInt64) :
    fromStrRadix 16 (lowerHex value) = some value := by
  have digits : ∀ digit < 16, toDigit 16 (id (Nat.digitChar digit)) = some digit := by decide
  rw [fromStrRadix_spelling (lowerHex_ne_nil value) fun _ mem => (spells_lowerHex mem).notPlus,
    lowerHex, ← List.map_id (Nat.toDigits 16 value.toNat),
    foldlM_toDigits (by decide) digits value.toNat_lt, UInt64.ofNat_toNat]

/-- Zeros in front do not count. -/
theorem foldlM_zeros (radix count : Nat) (positive : 0 < radix) (text : Text) :
    (List.replicate count '0' ++ text).foldlM (pushDigit radix) 0 =
      text.foldlM (pushDigit radix) 0 := by
  have zero : pushDigit radix 0 '0' = some 0 := by
    have digit : toDigit radix '0' = some 0 := by simp [toDigit, positive]
    simp [pushDigit, digit]
  induction count with
  | zero => rfl
  | succ count ih =>
      rw [List.replicate_succ, List.cons_append, List.foldlM_cons, zero, Option.bind_eq_bind,
        Option.bind_some, ih]

theorem fromStrRadix_leftpad {radix : Nat} (positive : 0 < radix) (width : Nat) {text : Text}
    (nonempty : text ≠ []) (unsigned : ∀ char ∈ text, char ≠ '+') :
    fromStrRadix radix (text.leftpad width '0') = fromStrRadix radix text := by
  have padded : ∀ char ∈ text.leftpad width '0', char ≠ '+' := by
    intro char mem
    rcases List.mem_append.mp mem with zero | written
    · rw [List.eq_of_mem_replicate zero]
      decide
    · exact unsigned char written
  have filled : text.leftpad width '0' ≠ [] := List.append_ne_nil_of_right_ne_nil _ nonempty
  rw [fromStrRadix_spelling filled padded, fromStrRadix_spelling nonempty unsigned]
  exact foldlM_zeros radix _ positive text

@[simp]
theorem fromStrRadix_leftpad_lowerHex (width : Nat) (value : UInt64) :
    fromStrRadix 16 ((lowerHex value).leftpad width '0') = some value := by
  rw [fromStrRadix_leftpad (by decide) width (lowerHex_ne_nil value)
    fun _ mem => (spells_lowerHex mem).notPlus, fromStrRadix_lowerHex]

theorem spells_leftpad {width : Nat} {text : Text} (spells : ∀ char ∈ text, Spells char) :
    ∀ char ∈ text.leftpad width '0', Spells char := by
  intro char mem
  rcases List.mem_append.mp mem with zero | written
  · rw [List.eq_of_mem_replicate zero]
    decide
  · exact spells char written

end TtdGdbserver.Text
