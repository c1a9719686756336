import Mathlib.Data.Nat.Bitwise

/-!
# Little-endian numbers

Numbers as byte lists of a given width, the least significant byte first.

The module names nothing of the program it is used for.
-/

namespace TtdGdbserver.Bytes

/-- The `width` low bytes of a number. -/
def leBytes : (width : Nat) → Nat → List UInt8
  | 0, _ => []
  | width + 1, value => UInt8.ofNat value :: leBytes width (value / 256)

/-- The number that a list of bytes stands for. -/
def ofLeBytes : List UInt8 → Nat
  | [] => 0
  | byte :: bytes => byte.toNat + 256 * ofLeBytes bytes

@[simp]
theorem length_leBytes (width value : Nat) : (leBytes width value).length = width := by
  induction width generalizing value with
  | zero => rfl
  | succ width ih => simp [leBytes, ih]

theorem ofLeBytes_lt (bytes : List UInt8) : ofLeBytes bytes < 256 ^ bytes.length := by
  induction bytes with
  | nil => decide
  | cons byte bytes ih =>
      have bound := byte.toNat_lt
      rw [ofLeBytes, List.length_cons, pow_succ]
      omega

@[simp]
theorem ofLeBytes_leBytes (width value : Nat) :
    ofLeBytes (leBytes width value) = value % 256 ^ width := by
  induction width generalizing value with
  | zero => simp [leBytes, ofLeBytes, Nat.mod_one]
  | succ width ih =>
      have byte : (UInt8.ofNat value).toNat = value % 256 := by simp
      rw [leBytes, ofLeBytes, ih, byte, Nat.pow_succ, Nat.mul_comm (256 ^ width), Nat.mod_mul]

@[simp]
theorem leBytes_ofLeBytes (bytes : List UInt8) :
    leBytes bytes.length (ofLeBytes bytes) = bytes := by
  induction bytes with
  | nil => rfl
  | cons byte bytes ih =>
      have bound := byte.toNat_lt
      have low : UInt8.ofNat (byte.toNat + 256 * ofLeBytes bytes) = byte := by
        apply UInt8.toNat_inj.mp
        rw [UInt8.toNat_ofNat']
        omega
      have high : (byte.toNat + 256 * ofLeBytes bytes) / 256 = ofLeBytes bytes := by omega
      rw [List.length_cons, ofLeBytes, leBytes, low, high, ih]

/-- A prefix is the number in fewer bytes. -/
theorem take_leBytes (count width value : Nat) :
    (leBytes width value).take count = leBytes (min count width) value := by
  induction width generalizing count value with
  | zero => simp [leBytes]
  | succ width ih =>
      cases count with
      | zero => simp [leBytes]
      | succ count =>
          rw [leBytes, List.take_succ_cons, ih, Nat.succ_min_succ, leBytes]

/-- The bytes as they come out of a loop of shifts. -/
theorem leBytes_eq_map_range (width value : Nat) :
    leBytes width value =
      (List.range width).map fun index => UInt8.ofNat (value >>> (8 * index)) := by
  induction width generalizing value with
  | zero => rfl
  | succ width ih =>
      rw [leBytes, ih, List.range_succ_eq_map, List.map_cons, List.map_map]
      congr 1
      apply List.map_congr_left
      intro index _
      rw [Function.comp, Nat.shiftRight_eq_div_pow, Nat.shiftRight_eq_div_pow,
        show (256 : Nat) = 2 ^ 8 from rfl, Nat.div_div_eq_div_mul, ← pow_add,
        Nat.mul_succ, Nat.add_comm (8 * index)]

end TtdGdbserver.Bytes
