import Mathlib.Data.UInt
import Mathlib.Order.Lattice

/-!
# Slices with 64-bit indices

A slice is never longer than the largest signed index, so that its length and
every index into it is a machine word.  Indexing outside a slice and copying
between slices of different lengths end the program; both are `none` here.

The module names nothing of the program it is used for.
-/

namespace TtdGdbserver.Bytes

variable {α : Type*}

/-- A contiguous sequence that fits in the address space. -/
structure Slice (α : Type*) where
  items : List α
  fits : items.length < 2 ^ 63

namespace Slice

/-- `slice::len`. -/
def len (slice : Slice α) : UInt64 :=
  UInt64.ofNat slice.items.length

@[simp]
theorem toNat_len (slice : Slice α) : slice.len.toNat = slice.items.length := by
  have fits := slice.fits
  rw [len, UInt64.toNat_ofNat']
  omega

/-- The part of a slice between two indices. -/
def range (slice : Slice α) (start finish : UInt64) : Option (Slice α) :=
  if start ≤ finish ∧ finish ≤ slice.len then
    some ⟨(slice.items.drop start.toNat).take (finish.toNat - start.toNat), by
      have fits := slice.fits
      rw [List.length_take, List.length_drop]
      omega⟩
  else none

/-- Overwrite the first `count` items with another slice of that length. -/
def copyFront (slice : Slice α) (count : UInt64) (source : Slice α) : Option (Slice α) :=
  if inside : count ≤ slice.len ∧ source.len = count then
    some ⟨source.items ++ slice.items.drop count.toNat, by
      have fits := slice.fits
      have within : count.toNat ≤ slice.items.length := by
        simpa using UInt64.le_iff_toNat_le.mp inside.1
      have same : source.items.length = count.toNat := by
        simpa using congrArg UInt64.toNat inside.2
      rw [List.length_append, List.length_drop]
      omega⟩
  else none

theorem range_eq_some {slice : Slice α} {start finish : UInt64} (ordered : start ≤ finish)
    (inside : finish ≤ slice.len) :
    ∃ part, slice.range start finish = some part ∧
      part.items = (slice.items.drop start.toNat).take (finish.toNat - start.toNat) := by
  rw [range, if_pos ⟨ordered, inside⟩]
  exact ⟨_, rfl, rfl⟩

theorem copyFront_eq_some {slice source : Slice α} {count : UInt64}
    (inside : count ≤ slice.len) (same : source.len = count) :
    ∃ filled, slice.copyFront count source = some filled ∧
      filled.items = source.items ++ slice.items.drop count.toNat := by
  rw [copyFront, dif_pos ⟨inside, same⟩]
  exact ⟨_, rfl, rfl⟩

end Slice

end TtdGdbserver.Bytes
