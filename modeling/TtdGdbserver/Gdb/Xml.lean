import TtdGdbserver.Bytes.Slice
import TtdGdbserver.Target.Breakpoint

/-!
# Chunked reads

Every qXfer reader answers a request for part of its payload through
`writeXmlChunk`.  The payload, the reply buffer and the request are arbitrary;
a client that asks until it gets nothing has the payload.
-/

namespace TtdGdbserver.Gdb

open TtdGdbserver.Bytes TtdGdbserver.Target

/-- `usize::MAX`. -/
def usizeMax : UInt64 := 0xffffffffffffffff

/-- `usize::try_from`; the program is built for 64-bit targets only. -/
def usizeTryFrom (value : UInt64) : Option UInt64 :=
  some value

/-- Copy the bytes at `[offset, offset + length)` of `data` into `buf`, and
count them.  `none` would be a panic. -/
def writeXmlChunk (data : Slice UInt8) (offset length : UInt64) (buf : Slice UInt8) :
    Option (UInt64 × Slice UInt8) :=
  let start := min ((usizeTryFrom offset).getD usizeMax) data.len
  let finish := min (saturatingAdd start length) data.len
  if start = data.len then some (0, buf)
  else do
    let n := min (finish - start) buf.len
    let source ← data.range start (start + n)
    let buf ← buf.copyFront n source
    return (n, buf)

/-! ## One call -/

theorem toNat_min (a b : UInt64) : (min a b).toNat = min a.toNat b.toNat := by
  rw [show min a b = if a ≤ b then a else b from rfl]
  split
  · rename_i below
    exact (Nat.min_eq_left (UInt64.le_iff_toNat_le.mp below)).symm
  · rename_i above
    rw [UInt64.le_iff_toNat_le] at above
    exact (Nat.min_eq_right (Nat.le_of_not_le above)).symm

/-- What a request asks for: the existing bytes from its offset on, at most
`length` and as many as the buffer holds. -/
def requested (data : Slice UInt8) (offset length : UInt64) (buf : Slice UInt8) : List UInt8 :=
  (data.items.drop offset.toNat).take (min length.toNat buf.items.length)

/-- The reply to a request. -/
structure Serves (data : Slice UInt8) (offset length : UInt64) (buf : Slice UInt8)
    (count : UInt64) (reply : Slice UInt8) : Prop where
  counted : count.toNat = (requested data offset length buf).length
  copied : reply.items.take count.toNat = requested data offset length buf
  untouched : reply.items.drop count.toNat = buf.items.drop count.toNat
  sameLength : reply.items.length = buf.items.length

theorem length_requested (data : Slice UInt8) (offset length : UInt64) (buf : Slice UInt8) :
    (requested data offset length buf).length =
      min (min length.toNat buf.items.length) (data.items.length - offset.toNat) := by
  rw [requested, List.length_take, List.length_drop]

/-- Nothing is requested past the end, by a request for nothing, and into an
empty buffer. -/
theorem length_requested_eq_zero_iff (data : Slice UInt8) (offset length : UInt64)
    (buf : Slice UInt8) :
    (requested data offset length buf).length = 0 ↔
      data.items.length ≤ offset.toNat ∨ min length.toNat buf.items.length = 0 := by
  rw [length_requested]
  omega

/-- Before the end, the three clamps come to the length of what is requested. -/
theorem toNat_clamped {data : Slice UInt8} {offset : UInt64} (length : UInt64)
    (buf : Slice UInt8) (before : offset.toNat < data.items.length) :
    (min (min (saturatingAdd offset length) data.len - offset) buf.len).toNat =
      (requested data offset length buf).length := by
  have fits := data.fits
  have finish : (min (saturatingAdd offset length) data.len).toNat =
      min (offset.toNat + length.toNat) data.items.length := by
    rw [toNat_min, toNat_saturatingAdd, Slice.toNat_len]
    omega
  have ordered : offset ≤ min (saturatingAdd offset length) data.len := by
    rw [UInt64.le_iff_toNat_le, finish]
    omega
  rw [toNat_min, UInt64.toNat_sub_of_le _ _ ordered, finish, Slice.toNat_len, length_requested]
  omega

/-- Filling the front of the buffer with what is requested is the reply. -/
theorem serves_of_items {data buf reply : Slice UInt8} {offset length count : UInt64}
    (counted : count.toNat = (requested data offset length buf).length)
    (items : reply.items = requested data offset length buf ++ buf.items.drop count.toNat) :
    Serves data offset length buf count reply where
  counted := counted
  copied := by rw [items, counted, List.take_left]
  untouched := by
    rw [items, counted, List.drop_left]
  sameLength := by
    have within := length_requested data offset length buf
    rw [items, List.length_append, List.length_drop, counted]
    omega

theorem writeXmlChunk_of_le {data : Slice UInt8} {offset : UInt64} (length : UInt64)
    (buf : Slice UInt8) (past : data.items.length ≤ offset.toNat) :
    writeXmlChunk data offset length buf = some (0, buf) := by
  have startEq : min offset data.len = data.len := by
    apply UInt64.toNat_inj.mp
    rw [toNat_min, Slice.toNat_len]
    omega
  exact if_pos startEq

theorem writeXmlChunk_of_lt {data : Slice UInt8} {offset : UInt64} (length : UInt64)
    (buf : Slice UInt8) (before : offset.toNat < data.items.length) :
    ∃ count reply, writeXmlChunk data offset length buf = some (count, reply) ∧
      count.toNat = (requested data offset length buf).length ∧
      reply.items = requested data offset length buf ++ buf.items.drop count.toNat := by
  have fits := data.fits
  have startEq : min ((usizeTryFrom offset).getD usizeMax) data.len = offset := by
    apply UInt64.toNat_inj.mp
    rw [toNat_min, Slice.toNat_len]
    exact Nat.min_eq_left before.le
  have distinct : offset ≠ data.len := by
    intro same
    rw [same, Slice.toNat_len] at before
    exact Nat.lt_irrefl _ before
  rw [writeXmlChunk, startEq, if_neg distinct]
  have counted := toNat_clamped length buf before
  generalize min (min (saturatingAdd offset length) data.len - offset) buf.len = n at counted
  have bound := length_requested data offset length buf
  have stop : (offset + n).toNat = offset.toNat + n.toNat := by
    rw [UInt64.toNat_add]
    exact Nat.mod_eq_of_lt (by omega)
  -- both index checks pass: the source range lies in `data`, and `n` in `buf`
  have ordered : offset ≤ offset + n := by
    rw [UInt64.le_iff_toNat_le]
    omega
  have inside : offset + n ≤ data.len := by
    rw [UInt64.le_iff_toNat_le, Slice.toNat_len]
    omega
  obtain ⟨source, read, sourceItems⟩ := Slice.range_eq_some ordered inside
  have sourceEq : source.items = requested data offset length buf := by
    rw [sourceItems, stop, Nat.add_sub_cancel_left, counted, bound, requested,
      List.take_eq_take_iff, List.length_drop]
    omega
  have room : n ≤ buf.len := by
    rw [UInt64.le_iff_toNat_le, Slice.toNat_len]
    omega
  have same : source.len = n := by
    apply UInt64.toNat_inj.mp
    rw [Slice.toNat_len, sourceEq, counted]
  obtain ⟨reply, wrote, replyItems⟩ := Slice.copyFront_eq_some room same
  refine ⟨n, reply, ?_, counted, sourceEq ▸ replyItems⟩
  simp only [read, wrote, Option.bind_eq_bind, Option.bind_some, Option.pure_def]

/-- No call panics, and every call is served exactly. -/
theorem writeXmlChunk_serves (data : Slice UInt8) (offset length : UInt64)
    (buf : Slice UInt8) :
    ∃ count reply, writeXmlChunk data offset length buf = some (count, reply) ∧
      Serves data offset length buf count reply := by
  by_cases before : offset.toNat < data.items.length
  · obtain ⟨count, reply, call, counted, items⟩ := writeXmlChunk_of_lt length buf before
    exact ⟨count, reply, call, serves_of_items counted items⟩
  · have past : data.items.length ≤ offset.toNat := Nat.le_of_not_lt before
    have nothing : requested data offset length buf = [] := by
      rw [requested, List.drop_eq_nil_of_le past, List.take_nil]
    refine ⟨0, buf, writeXmlChunk_of_le length buf past, serves_of_items ?_ ?_⟩
    · rw [nothing]
      rfl
    · rw [nothing]
      rfl

/-! ## Reading a whole payload -/

/-- A request for at least one byte, with room for at least one. -/
structure ChunkRequest where
  length : UInt64
  buf : Slice UInt8
  asks : length ≠ 0
  holds : buf.items ≠ []

/-- The client's loop: request after request, the offset advanced by each
count, until a count is 0.  `none` when a call panics, or when `fuel` calls are
not enough. -/
def readAll (data : Slice UInt8) (schedule : Nat → ChunkRequest) :
    (fuel turn : Nat) → (offset : UInt64) → (received : List UInt8) → Option (List UInt8)
  | 0, _, _, _ => none
  | fuel + 1, turn, offset, received => do
      let (count, reply) ← writeXmlChunk data offset (schedule turn).length (schedule turn).buf
      if count = 0 then
        return received
      else
        let received := received ++ reply.items.take count.toNat
        readAll data schedule fuel (turn + 1) (offset + count) received

/-- A served request continues the payload where the offset stands. -/
theorem Serves.continues {data buf reply : Slice UInt8} {offset length count : UInt64}
    (serves : Serves data offset length buf count reply)
    (inside : offset.toNat ≤ data.items.length) :
    (offset + count).toNat = offset.toNat + count.toNat ∧
      (offset + count).toNat ≤ data.items.length ∧
      data.items.take offset.toNat ++ reply.items.take count.toNat =
        data.items.take (offset + count).toNat := by
  have fits := data.fits
  have counted := serves.counted
  have bound := length_requested data offset length buf
  have next : (offset + count).toNat = offset.toNat + count.toNat := by
    rw [UInt64.toNat_add]
    exact Nat.mod_eq_of_lt (by omega)
  refine ⟨next, by omega, ?_⟩
  have exactly : reply.items.take count.toNat =
      (data.items.drop offset.toNat).take count.toNat := by
    rw [serves.copied, requested, List.take_eq_take_iff, List.length_drop]
    omega
  rw [exactly, next, List.take_add]

/-- A proper request is answered with nothing only at the end. -/
theorem Serves.count_eq_zero_iff {data reply : Slice UInt8} {offset count : UInt64}
    {request : ChunkRequest}
    (serves : Serves data offset request.length request.buf count reply) :
    count = 0 ↔ data.items.length ≤ offset.toNat := by
  have asks : request.length.toNat ≠ 0 := fun zero =>
    request.asks (UInt64.toNat_inj.mp zero)
  have holds : request.buf.items.length ≠ 0 := fun empty =>
    request.holds (List.length_eq_zero_iff.mp empty)
  rw [← UInt64.toNat_inj, UInt64.toNat_zero, serves.counted, length_requested_eq_zero_iff]
  omega

/-- The loop's invariant is that the payload up to the offset is received;
every turn before the last moves the offset. -/
theorem readAll_spec (data : Slice UInt8) (schedule : Nat → ChunkRequest) {fuel : Nat}
    (turn : Nat) {offset : UInt64} (inside : offset.toNat ≤ data.items.length)
    (enough : data.items.length - offset.toNat < fuel) :
    readAll data schedule fuel turn offset (data.items.take offset.toNat) =
      some data.items := by
  induction fuel generalizing turn offset with
  | zero => exact absurd enough (Nat.not_lt_zero _)
  | succ fuel ih =>
      obtain ⟨count, reply, call, serves⟩ := writeXmlChunk_serves data offset
        (schedule turn).length (schedule turn).buf
      simp only [readAll, call, Option.bind_eq_bind, Option.bind_some, Option.pure_def]
      by_cases done : count = 0
      · have past := serves.count_eq_zero_iff.mp done
        rw [if_pos done, List.take_of_length_le past]
      · have more : count.toNat ≠ 0 := fun zero => done (UInt64.toNat_inj.mp zero)
        obtain ⟨next, stillInside, received⟩ := serves.continues inside
        rw [if_neg done, received]
        exact ih (turn + 1) stillInside (by omega)

/-- Chunked reads are exact: every call serves just what is requested, and
counts 0 just when that is nothing; every schedule of proper requests receives
the payload and ends. -/
theorem writeXmlChunk_exact (data : Slice UInt8) :
    (∀ (offset length : UInt64) (buf : Slice UInt8),
      ∃ count reply, writeXmlChunk data offset length buf = some (count, reply) ∧
        Serves data offset length buf count reply ∧
        (count = 0 ↔
          data.items.length ≤ offset.toNat ∨ min length.toNat buf.items.length = 0)) ∧
    ∀ (schedule : Nat → ChunkRequest) (extra : Nat),
      readAll data schedule (data.items.length + 1 + extra) 0 0 [] = some data.items := by
  constructor
  · intro offset length buf
    obtain ⟨count, reply, call, serves⟩ := writeXmlChunk_serves data offset length buf
    refine ⟨count, reply, call, serves, ?_⟩
    rw [← UInt64.toNat_inj, UInt64.toNat_zero, serves.counted, length_requested_eq_zero_iff]
  · intro schedule extra
    exact readAll_spec data schedule 0 (Nat.zero_le _) (by omega)

end TtdGdbserver.Gdb
