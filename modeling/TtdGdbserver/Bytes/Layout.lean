import Mathlib.Algebra.GroupWithZero.Nat
import Mathlib.Data.List.Basic

/-!
# Consecutive fields

A record is laid out as the concatenation of its fields.  A list of widths
says where each field starts, and the fields of a list of the right length
tile it.

The module names nothing of the program it is used for.
-/

namespace TtdGdbserver.Bytes

variable {α β : Type*}

/-- Where a field starts: after the fields before it. -/
def fieldOffset (widths : List Nat) (index : Nat) : Nat :=
  (widths.take index).sum

/-- The width of a field; there is nothing after the last one. -/
def fieldWidth (widths : List Nat) (index : Nat) : Nat :=
  widths.getD index 0

/-- The part of a list that a field occupies. -/
def field (widths : List Nat) (index : Nat) (bytes : List β) : List β :=
  (bytes.drop (fieldOffset widths index)).take (fieldWidth widths index)

@[simp]
theorem field_cons_zero (width : Nat) (widths : List Nat) (bytes : List β) :
    field (width :: widths) 0 bytes = bytes.take width :=
  rfl

@[simp]
theorem field_cons_succ (width : Nat) (widths : List Nat) (index : Nat) (bytes : List β) :
    field (width :: widths) (index + 1) bytes = field widths index (bytes.drop width) := by
  simp only [field, fieldOffset, fieldWidth, List.take_succ_cons, List.sum_cons,
    List.getD_cons_succ, List.drop_drop]

/-- The fields of a concatenation are its parts, whatever follows. -/
theorem field_flatten {images : List (List β)} {index : Nat} {image : List β}
    (found : images[index]? = some image) (trailing : List β) :
    field (images.map List.length) index (images.flatten ++ trailing) = image := by
  induction images generalizing index with
  | nil => simp at found
  | cons first rest ih =>
      rw [List.flatten_cons, List.map_cons, List.append_assoc]
      cases index with
      | zero =>
          cases found
          rw [field_cons_zero, List.take_left]
      | succ index =>
          rw [field_cons_succ, List.drop_left]
          exact ih found

/-- The fields tile a list of the right length. -/
theorem flatMap_field (widths : List Nat) {bytes : List β} (length : bytes.length = widths.sum) :
    ((List.range widths.length).flatMap fun index => field widths index bytes) = bytes := by
  induction widths generalizing bytes with
  | nil => simpa using List.length_eq_zero_iff.mp length
  | cons width widths ih =>
      rw [List.sum_cons] at length
      have rest : (bytes.drop width).length = widths.sum := by
        rw [List.length_drop, length, Nat.add_sub_cancel_left]
      rw [List.length_cons, List.range_succ_eq_map, List.flatMap_cons, List.flatMap_map]
      simp only [field_cons_zero, field_cons_succ, ih rest, List.take_append_drop]

/-! ## Fields of one width -/

theorem field_replicate {count index : Nat} (inside : index < count) (width : Nat)
    (bytes : List β) :
    field (List.replicate count width) index bytes = (bytes.drop (width * index)).take width := by
  have before : fieldOffset (List.replicate count width) index = width * index := by
    rw [fieldOffset, List.take_replicate, Nat.min_eq_left (Nat.le_of_lt inside),
      List.sum_replicate_nat, Nat.mul_comm]
  have here : fieldWidth (List.replicate count width) index = width := by
    rw [fieldWidth, List.getD_eq_getElem?_getD, List.getElem?_replicate_of_lt inside,
      Option.getD_some]
  rw [field, before, here]

theorem map_length_of_uniform {width : Nat} {encode : α → List β}
    (uniform : ∀ item, (encode item).length = width) (items : List α) :
    (items.map encode).map List.length = List.replicate items.length width := by
  rw [List.map_map, ← List.map_const']
  exact List.map_congr_left fun item _ => uniform item

theorem length_flatMap_uniform {width : Nat} {encode : α → List β}
    (uniform : ∀ item, (encode item).length = width) (items : List α) :
    (items.flatMap encode).length = width * items.length := by
  simp only [List.length_flatMap, uniform, List.map_const', List.sum_replicate_nat,
    Nat.mul_comm]

/-- The blocks of a concatenation are found where their width says. -/
theorem take_drop_flatMap {width : Nat} {encode : α → List β}
    (uniform : ∀ item, (encode item).length = width) (items : List α) {index : Nat} {item : α}
    (found : items[index]? = some item) :
    ((items.flatMap encode).drop (width * index)).take width = encode item := by
  have inside : index < items.length := (List.getElem?_eq_some_iff.mp found).1
  have found' : (items.map encode)[index]? = some (encode item) := by
    rw [List.getElem?_map, found, Option.map_some]
  have block := field_flatten found' []
  rwa [map_length_of_uniform uniform, field_replicate inside, List.append_nil,
    ← List.flatMap_def] at block

/-- A list whose length is a multiple of the width is made of its blocks. -/
theorem flatMap_blocks {width count : Nat} {bytes : List β}
    (length : bytes.length = width * count) :
    ((List.range count).flatMap fun index => (bytes.drop (width * index)).take width) =
      bytes := by
  have whole : bytes.length = (List.replicate count width).sum := by
    rw [List.sum_replicate_nat, length, Nat.mul_comm]
  conv_rhs => rw [← flatMap_field _ whole]
  rw [List.length_replicate]
  apply List.flatMap_congr
  intro index inside
  rw [field_replicate (List.mem_range.mp inside)]

end TtdGdbserver.Bytes
