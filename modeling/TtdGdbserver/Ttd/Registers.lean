import TtdGdbserver.Ttd.Types

/-!
# The AMD64 register context

`GetAmd64Context` hands the context over as a stream of little-endian words,
which `decodeAmd64Context` takes apart again.
-/

namespace TtdGdbserver.Ttd

/-- A 128-bit register in two halves. -/
structure M128A where
  low : UInt64
  high : UInt64
  deriving DecidableEq, Repr, Inhabited

/-- The FPU and SSE half of a context. -/
structure XmmSaveArea where
  controlWord : UInt16
  statusWord : UInt16
  tagWord : UInt8
  errorOpcode : UInt16
  errorOffset : UInt32
  errorSelector : UInt16
  dataOffset : UInt32
  dataSelector : UInt16
  mxCsr : UInt32
  floatRegisters : Vector M128A 8
  xmmRegisters : Vector M128A 16
  deriving DecidableEq, Repr, Inhabited

/-- The registers that the server uses of an AMD64 context. -/
structure TtdX64Regs where
  rax : UInt64
  rbx : UInt64
  rcx : UInt64
  rdx : UInt64
  rsi : UInt64
  rdi : UInt64
  rbp : UInt64
  rsp : UInt64
  r8 : UInt64
  r9 : UInt64
  r10 : UInt64
  r11 : UInt64
  r12 : UInt64
  r13 : UInt64
  r14 : UInt64
  r15 : UInt64
  rip : UInt64
  eFlags : UInt32
  segCs : UInt16
  segDs : UInt16
  segEs : UInt16
  segFs : UInt16
  segGs : UInt16
  segSs : UInt16
  fltSave : XmmSaveArea
  deriving DecidableEq, Repr, Inhabited

/-! ## Narrowing conversions -/

/-- `u32::try_from` on a 64-bit value. -/
def u32TryFrom (value : UInt64) : Option UInt32 :=
  if value.toNat < 2 ^ 32 then some value.toUInt32 else none

@[simp]
theorem u32TryFrom_toUInt64 (value : UInt32) : u32TryFrom value.toUInt64 = some value := by
  rw [u32TryFrom, if_pos (by simpa using value.toNat_lt)]
  simp

/-- `u16::try_from` on a 64-bit value. -/
def u16TryFrom (value : UInt64) : Option UInt16 :=
  if value.toNat < 2 ^ 16 then some value.toUInt16 else none

/-- `u8::try_from` on a 64-bit value. -/
def u8TryFrom (value : UInt64) : Option UInt8 :=
  if value.toNat < 2 ^ 8 then some value.toUInt8 else none

/-! ## Decoding -/

/-- `u64::from_le_bytes`. -/
def wordFromLeBytes (bytes : List UInt8) : UInt64 :=
  bytes.foldr (fun byte word => word <<< 8 ||| byte.toUInt64) 0

/-- The number of words of an encoded context. -/
def contextWords : Nat := 81

/-- The word with the given index of an encoded context. -/
def contextWord (bytes : List UInt8) (index : Nat) : UInt64 :=
  wordFromLeBytes ((bytes.drop (8 * index)).take 8)

/-- A pair of words of an encoded context: the register's low half, then its
high half. -/
def contextM128 (bytes : List UInt8) (index : Nat) : M128A :=
  ⟨contextWord bytes index, contextWord bytes (index + 1)⟩

/-- Decode the stream produced by `GetAmd64Context`: 17 general registers, the
flags, 6 segments, 8 x87 and 16 XMM registers of two words each, 9 control
fields. -/
def decodeAmd64Context (bytes : List UInt8) : Option TtdX64Regs :=
  if bytes.length ≠ contextWords * 8 then none
  else do
    let word := contextWord bytes
    let eFlags ← u32TryFrom (word 17)
    let segCs ← u16TryFrom (word 18)
    let segDs ← u16TryFrom (word 19)
    let segEs ← u16TryFrom (word 20)
    let segFs ← u16TryFrom (word 21)
    let segGs ← u16TryFrom (word 22)
    let segSs ← u16TryFrom (word 23)
    let controlWord ← u16TryFrom (word 72)
    let statusWord ← u16TryFrom (word 73)
    let tagWord ← u8TryFrom (word 74)
    let errorOpcode ← u16TryFrom (word 75)
    let errorOffset ← u32TryFrom (word 76)
    let errorSelector ← u16TryFrom (word 77)
    let dataOffset ← u32TryFrom (word 78)
    let dataSelector ← u16TryFrom (word 79)
    let mxCsr ← u32TryFrom (word 80)
    some {
      rax := word 0
      rbx := word 1
      rcx := word 2
      rdx := word 3
      rsi := word 4
      rdi := word 5
      rbp := word 6
      rsp := word 7
      r8 := word 8
      r9 := word 9
      r10 := word 10
      r11 := word 11
      r12 := word 12
      r13 := word 13
      r14 := word 14
      r15 := word 15
      rip := word 16
      eFlags, segCs, segDs, segEs, segFs, segGs, segSs
      fltSave := {
        controlWord, statusWord, tagWord, errorOpcode, errorOffset, errorSelector
        dataOffset, dataSelector, mxCsr
        floatRegisters := Vector.ofFn fun i => contextM128 bytes (24 + 2 * i.val)
        xmmRegisters := Vector.ofFn fun i => contextM128 bytes (40 + 2 * i.val) } }

end TtdGdbserver.Ttd
