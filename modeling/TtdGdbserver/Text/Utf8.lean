import Mathlib.Data.List.Basic

/-!
# UTF-8 text

Text is a list of characters.  Bytes are decoded to text with a replacement
character for every maximal part that is no character, and the bytes of a text
decode to that text.

The module names nothing of the program it is used for.
-/

namespace TtdGdbserver

/-- A text as the list of its characters. -/
abbrev Text := List Char

namespace Text

/-- The bytes of a text. -/
def asBytes (text : Text) : List UInt8 :=
  text.flatMap String.utf8EncodeChar

/-! ## Lossy decoding -/

/-- The length of a character's encoding by its first byte; `0` for a byte that
starts no character. -/
def charWidth (first : UInt8) : Nat :=
  if first < 0x80 then 1
  else if 0xc2 ≤ first ∧ first ≤ 0xdf then 2
  else if 0xe0 ≤ first ∧ first ≤ 0xef then 3
  else if 0xf0 ≤ first ∧ first ≤ 0xf4 then 4
  else 0

/-- A second byte that may follow the first byte of a long character. -/
def mayFollow (first second : UInt8) : Bool :=
  if first = 0xe0 then 0xa0 ≤ second ∧ second ≤ 0xbf
  else if first = 0xed then 0x80 ≤ second ∧ second ≤ 0x9f
  else if first = 0xf0 then 0x90 ≤ second ∧ second ≤ 0xbf
  else if first = 0xf4 then 0x80 ≤ second ∧ second ≤ 0x8f
  else 0x80 ≤ second ∧ second ≤ 0xbf

/-- A continuation byte. -/
def isContinuation (byte : UInt8) : Bool :=
  byte &&& 0xc0 = 0x80

/-- The length of the part that one replacement character stands for, where no
character starts with the byte: as many bytes as a character could start with. -/
def invalidLength (first : UInt8) (rest : List UInt8) : Nat :=
  let second := rest.getD 0 0
  let third := rest.getD 1 0
  match charWidth first with
  | 3 => if mayFollow first second then 2 else 1
  | 4 => if mayFollow first second then if isContinuation third then 3 else 2 else 1
  | _ => 1

/-- Decode after so many bytes that belong to the previous character. -/
def fromUtf8LossyAfter : (skip : Nat) → List UInt8 → Text
  | _, [] => []
  | skip + 1, _ :: rest => fromUtf8LossyAfter skip rest
  | 0, first :: rest =>
      match (first :: rest).toByteArray.utf8DecodeChar? 0 with
      | some char => char :: fromUtf8LossyAfter (char.utf8Size - 1) rest
      | none => '\uFFFD' :: fromUtf8LossyAfter (invalidLength first rest - 1) rest

/-- `String::from_utf8_lossy`. -/
def fromUtf8Lossy (bytes : List UInt8) : Text :=
  fromUtf8LossyAfter 0 bytes

theorem fromUtf8LossyAfter_append (front bytes : List UInt8) :
    fromUtf8LossyAfter front.length (front ++ bytes) = fromUtf8LossyAfter 0 bytes := by
  induction front with
  | nil => rfl
  | cons byte front ih => exact ih

theorem fromUtf8Lossy_char (char : Char) (bytes : List UInt8) :
    fromUtf8Lossy (String.utf8EncodeChar char ++ bytes) = char :: fromUtf8Lossy bytes := by
  have decoded : (String.utf8EncodeChar char ++ bytes).toByteArray.utf8DecodeChar? 0 =
      some char := by
    rw [List.toByteArray_append]
    exact ByteArray.utf8DecodeChar?_utf8EncodeChar_append
  have length := String.length_utf8EncodeChar char
  cases encoded : String.utf8EncodeChar char with
  | nil =>
      rw [encoded, List.length_nil] at length
      exact absurd char.utf8Size_pos (by omega)
  | cons first rest =>
      have rest_length : char.utf8Size - 1 = rest.length := by
        rw [encoded, List.length_cons] at length
        omega
      rw [encoded, List.cons_append] at decoded
      rw [List.cons_append, fromUtf8Lossy, fromUtf8LossyAfter, decoded]
      simp only [rest_length, fromUtf8LossyAfter_append]
      rfl

/-- The bytes of a text decode to the text. -/
@[simp]
theorem fromUtf8Lossy_asBytes (text : Text) : fromUtf8Lossy (asBytes text) = text := by
  induction text with
  | nil => rfl
  | cons char text ih => rw [asBytes, List.flatMap_cons, fromUtf8Lossy_char, ← asBytes, ih]

/-! ## ASCII -/

/-- An ASCII character is its own byte. -/
theorem utf8EncodeChar_ascii {char : Char} (ascii : char.toNat < 128) :
    String.utf8EncodeChar char = [UInt8.ofNat char.toNat] := by
  have small : char.toNat ≤ 127 := Nat.le_of_lt_succ ascii
  simp [String.utf8EncodeChar, small]

/-- The bytes of an ASCII text are its characters. -/
theorem asBytes_ascii {text : Text} (ascii : ∀ char ∈ text, char.toNat < 128) :
    asBytes text = text.map fun char => UInt8.ofNat char.toNat := by
  induction text with
  | nil => rfl
  | cons char text ih =>
      obtain ⟨first, rest⟩ := List.forall_mem_cons.mp ascii
      rw [asBytes, List.flatMap_cons, utf8EncodeChar_ascii first, ← asBytes, ih rest]
      rfl

end Text

end TtdGdbserver
