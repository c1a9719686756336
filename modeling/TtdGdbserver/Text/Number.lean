import Mathlib.Data.List.DropRight
import Mathlib.Data.Nat.Digits.Defs
import TtdGdbserver.Text.Utf8

/-!
# Numbers in text

The integer parser, which takes an optional plus sign and fails on overflow,
and the decimal and hexadecimal spellings that it reads back.  Trimming and
splitting are here as well, since a spelling survives both.

The module names nothing of the program it is used for.
-/

namespace TtdGdbserver.Text

/-! ## Trimming and splitting -/

/-- `char::is_whitespace`, the Unicode property `White_Space`. -/
def isWhitespace (char : Char) : Bool :=
  let code := char.toNat
  (0x09 ≤ code && code ≤ 0x0d) || (0x2000 ≤ code && code ≤ 0x200a) ||
    [0x20, 0x85, 0xa0, 0x1680, 0x2028, 0x2029, 0x202f, 0x205f, 0x3000].contains code

/-- `str::trim`. -/
def trim (text : Text) : Text :=
  (text.dropWhile isWhitespace).rdropWhile isWhitespace

theorem trim_eq_self {text : Text} (visible : ∀ char ∈ text, isWhitespace char = false) :
    trim text = text := by
  have front : text.dropWhile isWhitespace = text := by
    cases text with
    | nil => rfl
    | cons char rest => rw [List.dropWhile_cons_of_neg (by simp [visible char])]
  rw [trim, front, List.rdropWhile_eq_self_iff]
  intro nonempty
  rw [visible _ (List.getLast_mem nonempty)]
  exact Bool.false_ne_true

/-- `str::split_once`. -/
def splitOnce (separator : Char) : Text → Option (Text × Text)
  | [] => none
  | char :: rest =>
      if char = separator then some ([], rest)
      else (splitOnce separator rest).map (Prod.map (char :: ·) id)

theorem splitOnce_append {separator : Char} {before : Text} (absent : separator ∉ before)
    (after : Text) :
    splitOnce separator (before ++ separator :: after) = some (before, after) := by
  induction before with
  | nil => simp [splitOnce]
  | cons char before ih =>
      obtain ⟨other, absent⟩ := not_or.mp (List.mem_cons.not.mp absent)
      rw [List.cons_append, splitOnce, if_neg (Ne.symm other), ih absent]
      rfl

theorem splitOnce_eq_none {separator : Char} {text : Text} (absent : separator ∉ text) :
    splitOnce separator text = none := by
  induction text with
  | nil => rfl
  | cons char text ih =>
      obtain ⟨other, absent⟩ := not_or.mp (List.mem_cons.not.mp absent)
      rw [splitOnce, if_neg (Ne.symm other), ih absent, Option.map_none]

/-- Splitting terminated lines leaves an empty piece behind the last one. -/
theorem splitOn_terminated {separator : Char} {lines : List Text}
    (absent : ∀ line ∈ lines, separator ∉ line) :
    (lines.flatMap fun line => line ++ [separator]).splitOn separator = lines ++ [[]] := by
  induction lines with
  | nil => rfl
  | cons line lines ih =>
      rw [List.flatMap_cons, List.append_assoc, List.singleton_append,
        List.splitOn_append_cons_self_of_not_mem (absent line (List.mem_cons_self ..)),
        ih fun later mem => absent later (List.mem_cons_of_mem _ mem), List.cons_append]

/-! ## The parser -/

/-- `char::to_digit`. -/
def toDigit (radix : Nat) (char : Char) : Option Nat :=
  let code := char.toNat
  let digit :=
    if 0x30 ≤ code ∧ code ≤ 0x39 then some (code - 0x30)
    else if 0x61 ≤ code ∧ code ≤ 0x7a then some (code - 0x61 + 10)
    else if 0x41 ≤ code ∧ code ≤ 0x5a then some (code - 0x41 + 10)
    else none
  digit.filter (· < radix)

/-- One turn of the parser's loop; the value may not leave the type. -/
def pushDigit (radix : Nat) (result : UInt64) (char : Char) : Option UInt64 :=
  (toDigit radix char).bind fun digit =>
    let value := result.toNat * radix + digit
    if value < 2 ^ 64 then some (UInt64.ofNat value) else none

/-- `u64::from_str_radix`. -/
def fromStrRadix (radix : Nat) (src : Text) : Option UInt64 :=
  let digits := match src with
    | '+' :: digits => digits
    | _ => src
  if digits.isEmpty then none else digits.foldlM (pushDigit radix) 0

/-! ## What the parser accepts -/

/-- A text of digits only, with the number they stand for. -/
def Numeral (radix : Nat) (text : Text) (value : Nat) : Prop :=
  text ≠ [] ∧ ∃ digits : List Nat, text.map (toDigit radix) = digits.map some ∧
    Nat.ofDigits radix digits.reverse = value

/-- A numeral whose number fits, behind an optional plus sign. -/
def ReadsAs (radix : Nat) (text : Text) (value : UInt64) : Prop :=
  ∃ numeral, (text = numeral ∨ text = '+' :: numeral) ∧ Numeral radix numeral value.toNat

/-- The text of a number has digits and perhaps a sign in it, nothing else. -/
theorem ReadsAs.not_mem {radix : Nat} {text : Text} {value : UInt64}
    (reads : ReadsAs radix text value) {char : Char} (noDigit : toDigit radix char = none)
    (noSign : char ≠ '+') : char ∉ text := by
  obtain ⟨numeral, form, -, digits, read, -⟩ := reads
  have absent : char ∉ numeral := by
    intro mem
    have image : none ∈ digits.map some := read ▸ noDigit ▸ List.mem_map_of_mem mem
    simp at image
  rcases form with rfl | rfl
  · exact absent
  · rw [List.mem_cons, not_or]
    exact ⟨noSign, absent⟩

/-- Horner's rule, from the most significant digit on. -/
def horner (radix : Nat) (value : Nat) (digits : List Nat) : Nat :=
  digits.foldl (fun value digit => value * radix + digit) value

theorem horner_zero (radix : Nat) (digits : List Nat) :
    horner radix 0 digits = Nat.ofDigits radix digits.reverse := by
  rw [Nat.ofDigits_eq_foldr, List.foldr_reverse, horner]
  simp only [Nat.mul_comm radix, Nat.add_comm, Nat.cast_id]

theorem le_horner {radix : Nat} (positive : 0 < radix) (value : Nat) (digits : List Nat) :
    value ≤ horner radix value digits := by
  induction digits generalizing value with
  | nil => exact le_rfl
  | cons digit digits ih =>
      calc value ≤ value * radix := Nat.le_mul_of_pos_right value positive
        _ ≤ value * radix + digit := Nat.le_add_right ..
        _ ≤ horner radix (value * radix + digit) digits := ih _

/-- The loop succeeds on digits whose number fits: a value that has left the
type does not come back. -/
theorem foldlM_pushDigit_eq_some_iff {radix : Nat} (positive : 0 < radix) (text : Text)
    (result value : UInt64) :
    text.foldlM (pushDigit radix) result = some value ↔
      ∃ digits : List Nat, text.map (toDigit radix) = digits.map some ∧
        horner radix result.toNat digits = value.toNat := by
  induction text generalizing result with
  | nil =>
      constructor
      · intro same
        cases same
        exact ⟨[], rfl, rfl⟩
      · rintro ⟨digits, empty, same⟩
        cases List.map_eq_nil_iff.mp empty.symm
        exact congrArg some (UInt64.toNat_inj.mp same)
  | cons char text ih =>
      rw [List.foldlM_cons, pushDigit]
      cases read : toDigit radix char with
      | none =>
          refine iff_of_false (by simp) ?_
          rintro ⟨digits, same, -⟩
          cases digits <;> simp [read] at same
      | some digit =>
          have unfolded : (∃ digits : List Nat,
              (char :: text).map (toDigit radix) = digits.map some ∧
                horner radix result.toNat digits = value.toNat) ↔
              ∃ digits : List Nat, text.map (toDigit radix) = digits.map some ∧
                horner radix (result.toNat * radix + digit) digits = value.toNat := by
            constructor
            · rintro ⟨_ | ⟨first, digits⟩, same, number⟩
              · simp at same
              · rw [List.map_cons, List.map_cons, read, List.cons.injEq, Option.some.injEq] at same
                exact ⟨digits, same.2, same.1 ▸ number⟩
            · rintro ⟨digits, same, number⟩
              exact ⟨digit :: digits, by rw [List.map_cons, List.map_cons, read, same], number⟩
          rw [unfolded, Option.bind_some]
          by_cases fits : result.toNat * radix + digit < 2 ^ 64
          · have next := ih (UInt64.ofNat (result.toNat * radix + digit))
            rw [UInt64.toNat_ofNat_of_lt' fits] at next
            simp only [fits, if_true, Option.bind_eq_bind, Option.bind_some]
            exact next
          · simp only [fits, if_false, Option.bind_eq_bind, Option.bind_none, reduceCtorEq,
              false_iff]
            rintro ⟨digits, -, number⟩
            have grown := le_horner positive (result.toNat * radix + digit) digits
            have bound := value.toNat_lt
            omega

theorem foldlM_pushDigit_iff_numeral {radix : Nat} (positive : 0 < radix) {text : Text}
    (nonempty : text ≠ []) (value : UInt64) :
    text.foldlM (pushDigit radix) 0 = some value ↔ Numeral radix text value.toNat := by
  rw [foldlM_pushDigit_eq_some_iff positive, Numeral, UInt64.toNat_zero]
  simp only [horner_zero, ne_eq, nonempty, not_false_eq_true, true_and]

/-- Without a sign, the parser goes straight to its loop. -/
theorem fromStrRadix_unsigned {radix : Nat} {char : Char} (noSign : char ≠ '+') (rest : Text) :
    fromStrRadix radix (char :: rest) = (char :: rest).foldlM (pushDigit radix) 0 := by
  unfold fromStrRadix
  split
  case h_1 signed => exact absurd (List.cons.inj signed).1 noSign
  case h_2 => rfl

theorem Numeral.head_ne_plus {radix value : Nat} {char : Char} {rest : Text}
    (numeral : Numeral radix (char :: rest) value) : char ≠ '+' := by
  rintro rfl
  obtain ⟨-, digits, read, -⟩ := numeral
  have noDigit : toDigit radix '+' = none := rfl
  cases digits <;> simp [noDigit] at read

/-- The parser accepts exactly the numerals that fit, with an optional sign. -/
theorem fromStrRadix_eq_some_iff {radix : Nat} (positive : 0 < radix) (text : Text)
    (value : UInt64) : fromStrRadix radix text = some value ↔ ReadsAs radix text value := by
  constructor
  · intro read
    rcases text with _ | ⟨char, rest⟩
    · simp [fromStrRadix] at read
    · by_cases signed : char = '+'
      · subst char
        rcases rest with _ | ⟨first, rest⟩
        · simp [fromStrRadix] at read
        · exact ⟨_, .inr rfl,
            (foldlM_pushDigit_iff_numeral positive (List.cons_ne_nil _ _) value).mp read⟩
      · rw [fromStrRadix_unsigned signed] at read
        exact ⟨_, .inl rfl,
          (foldlM_pushDigit_iff_numeral positive (List.cons_ne_nil _ _) value).mp read⟩
  · rintro ⟨digits, form, numeral⟩
    rcases digits with _ | ⟨char, rest⟩
    · exact absurd rfl numeral.1
    · have looped := (foldlM_pushDigit_iff_numeral positive numeral.1 value).mpr numeral
      rcases form with rfl | rfl
      · rw [fromStrRadix_unsigned numeral.head_ne_plus, looped]
      · exact looped

/-! ## Spellings -/

/-- `{}` of an unsigned integer. -/
def decimal (value : UInt64) : Text :=
  Nat.toDigits 10 value.toNat

/-- `{:X}` of an unsigned integer. -/
def upperHex (value : UInt64) : Text :=
  (Nat.toDigits 16 value.toNat).map Char.toUpper

theorem mem_toDigits {radix value : Nat} (large : 1 < radix) {char : Char}
    (mem : char ∈ Nat.toDigits radix value) : ∃ digit < radix, char = Nat.digitChar digit := by
  induction value using Nat.strongRecOn with
  | ind value ih =>
      rw [Nat.toDigits_eq_if large] at mem
      split at mem
      case isTrue small => exact ⟨value, small, List.mem_singleton.mp mem⟩
      case isFalse small =>
        rcases List.mem_append.mp mem with earlier | last
        · exact ih (value / radix) (Nat.div_lt_self (by omega) large) earlier
        · exact ⟨value % radix, Nat.mod_lt _ (by omega), List.mem_singleton.mp last⟩

/-- What the characters of a spelling have in common. -/
structure Spells (char : Char) : Prop where
  ascii : char.toNat < 128
  visible : isWhitespace char = false
  notColon : char ≠ ':'
  notPlus : char ≠ '+'

instance (char : Char) : Decidable (Spells char) :=
  decidable_of_iff (char.toNat < 128 ∧ isWhitespace char = false ∧ char ≠ ':' ∧ char ≠ '+')
    ⟨fun ⟨ascii, visible, notColon, notPlus⟩ => ⟨ascii, visible, notColon, notPlus⟩,
      fun spells => ⟨spells.ascii, spells.visible, spells.notColon, spells.notPlus⟩⟩

theorem spells_decimal {value : UInt64} {char : Char} (mem : char ∈ decimal value) :
    Spells char := by
  obtain ⟨digit, small, rfl⟩ := mem_toDigits (show 1 < 10 by decide) mem
  have digits : ∀ digit < 10, Spells (Nat.digitChar digit) := by decide
  exact digits digit small

theorem spells_upperHex {value : UInt64} {char : Char} (mem : char ∈ upperHex value) :
    Spells char := by
  obtain ⟨lower, written, rfl⟩ := List.mem_map.mp mem
  obtain ⟨digit, small, rfl⟩ := mem_toDigits (show 1 < 16 by decide) written
  have digits : ∀ digit < 16, Spells (Nat.digitChar digit).toUpper := by decide
  exact digits digit small

/-- The parser's loop reads the digits of a number, in either case. -/
theorem foldlM_toDigits {radix : Nat} (large : 1 < radix) {letter : Char → Char}
    (reads : ∀ digit < radix, toDigit radix (letter (Nat.digitChar digit)) = some digit)
    {value : Nat} (small : value < 2 ^ 64) :
    ((Nat.toDigits radix value).map letter).foldlM (pushDigit radix) 0 =
      some (UInt64.ofNat value) := by
  induction value using Nat.strongRecOn with
  | ind value ih =>
      rw [Nat.toDigits_eq_if large]
      split
      case isTrue single =>
        simp only [List.map_cons, List.map_nil, List.foldlM_cons, List.foldlM_nil, pushDigit,
          reads value single, Option.bind_some, UInt64.toNat_zero, Nat.zero_mul, Nat.zero_add,
          small, if_true, Option.bind_eq_bind, Option.pure_def]
      case isFalse several =>
        have shorter : value / radix < value := Nat.div_lt_self (by omega) large
        have parts : value / radix * radix + value % radix = value := Nat.div_add_mod' ..
        have readBack : (UInt64.ofNat (value / radix)).toNat = value / radix :=
          UInt64.toNat_ofNat_of_lt' (lt_trans shorter small)
        have last := reads (value % radix) (Nat.mod_lt _ (by omega))
        rw [List.map_append, List.foldlM_append, ih _ shorter (lt_trans shorter small)]
        simp only [List.map_cons, List.map_nil, Option.bind_eq_bind, Option.bind_some,
          List.foldlM_cons, List.foldlM_nil, pushDigit, last, readBack, parts, small, if_true,
          Option.pure_def]

theorem fromStrRadix_spelling {radix : Nat} {text : Text} (nonempty : text ≠ [])
    (unsigned : ∀ char ∈ text, char ≠ '+') :
    fromStrRadix radix text = text.foldlM (pushDigit radix) 0 := by
  cases text with
  | nil => contradiction
  | cons char rest => exact fromStrRadix_unsigned (unsigned char (List.mem_cons_self ..)) rest

theorem decimal_ne_nil (value : UInt64) : decimal value ≠ [] :=
  Nat.toDigits_ne_nil

theorem upperHex_ne_nil (value : UInt64) : upperHex value ≠ [] := fun empty =>
  Nat.toDigits_ne_nil (List.map_eq_nil_iff.mp empty)

/-- A decimal spelling is read back. -/
@[simp]
theorem fromStrRadix_decimal (value : UInt64) : fromStrRadix 10 (decimal value) = some value := by
  have digits : ∀ digit < 10, toDigit 10 (id (Nat.digitChar digit)) = some digit := by decide
  rw [fromStrRadix_spelling (decimal_ne_nil value) fun _ mem => (spells_decimal mem).notPlus,
    decimal, ← List.map_id (Nat.toDigits 10 value.toNat),
    foldlM_toDigits (by decide) digits value.toNat_lt, UInt64.ofNat_toNat]

/-- A hexadecimal spelling is read back. -/
@[simp]
theorem fromStrRadix_upperHex (value : UInt64) :
    fromStrRadix 16 (upperHex value) = some value := by
  have digits : ∀ digit < 16,
      toDigit 16 (Char.toUpper (Nat.digitChar digit)) = some digit := by decide
  rw [fromStrRadix_spelling (upperHex_ne_nil value) fun _ mem => (spells_upperHex mem).notPlus,
    upperHex, foldlM_toDigits (by decide) digits value.toNat_lt, UInt64.ofNat_toNat]

end TtdGdbserver.Text
