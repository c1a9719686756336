import TtdGdbserver.Bytes.Layout
import TtdGdbserver.Ttd.ContextCodec

/-!
# The GDB register file

The register file of the `g` packet, its serialization and the reading of one
register for the `p` packet.  The core registers come with a codec and a
numbering of their own, which the register file extends by two segment bases.
-/

namespace TtdGdbserver.Gdb

open TtdGdbserver.Bytes TtdGdbserver.Ttd

/-! ## Core registers -/

/-- The segment registers. -/
inductive X86SegmentRegId where
  | cs | ss | ds | es | fs | gs
  deriving DecidableEq, Repr

/-- The x87 control registers. -/
inductive X87FpuInternalRegId where
  | fctrl | fstat | ftag | fiseg | fioff | foseg | fooff | fop
  deriving DecidableEq, Repr

/-- The enumeration is open: `other` stands for the variants not named here. -/
inductive X86_64CoreRegId where
  | gpr (i : UInt8)
  | rip
  | eflags
  | segment (s : X86SegmentRegId)
  | st (i : UInt8)
  | fpu (f : X87FpuInternalRegId)
  | xmm (i : UInt8)
  | mxcsr
  | other
  deriving DecidableEq, Repr

/-- The values of the segment registers. -/
@[ext]
structure X86SegmentRegs where
  cs : UInt32
  ss : UInt32
  ds : UInt32
  es : UInt32
  fs : UInt32
  gs : UInt32
  deriving DecidableEq, Repr

/-- The values of the x87 control registers. -/
@[ext]
structure X87FpuInternalRegs where
  fctrl : UInt32
  fstat : UInt32
  ftag : UInt32
  fiseg : UInt32
  fioff : UInt32
  foseg : UInt32
  fooff : UInt32
  fop : UInt32
  deriving DecidableEq, Repr

/-- The registers of the core architecture. -/
@[ext]
structure X86_64CoreRegs where
  regs : Vector UInt64 16
  eflags : UInt32
  rip : UInt64
  segments : X86SegmentRegs
  st : Vector (Vector UInt8 10) 8
  fpu : X87FpuInternalRegs
  xmm : Vector (BitVec 128) 16
  mxcsr : UInt32
  deriving DecidableEq

/-- The codec and the numbering that the core registers come with. -/
structure CoreArch where
  /-- The bytes written, in order; a byte that is not available is `none`. -/
  gdbSerialize : X86_64CoreRegs → List (Option UInt8)
  gdbDeserialize : X86_64CoreRegs → List UInt8 → Option X86_64CoreRegs
  /-- A register and its size, where it has one. -/
  fromRawId : Nat → Option (X86_64CoreRegId × Option Nat)

/-! ## The register file -/

/-- `CORE_SERIALIZED_SIZE`. -/
def coreSerializedSize : Nat := 536

/-- `SEGMENT_BASE_SIZE`. -/
def segmentBaseSize : Nat := 8

/-- `G_BUFFER_SIZE`. -/
def gBufferSize : Nat := coreSerializedSize + 2 * segmentBaseSize

/-- `ST_REGISTER_SIZE`. -/
def stRegisterSize : Nat := 10

/-- `XMM_REGISTER_SIZE`. -/
def xmmRegisterSize : Nat := 16

/-- The core registers and the two segment bases that are sent after them. -/
structure TtdRegisters where
  core : X86_64CoreRegs
  fsBase : UInt64
  gsBase : UInt64
  deriving DecidableEq

/-- An x87 register: the low half and two bytes of the high half. -/
def stOfM128 (reg : M128A) : Vector UInt8 10 :=
  ⟨(wordToLeBytes reg.low ++ (wordToLeBytes reg.high).take 2).toArray, by simp⟩

/-- An XMM register, as `u128::from_le_bytes` of both halves. -/
def xmmOfM128 (reg : M128A) : BitVec 128 :=
  BitVec.ofNat 128 (ofLeBytes (wordToLeBytes reg.low ++ wordToLeBytes reg.high))

/-- `TtdRegisters::from_ttd`. -/
def TtdRegisters.fromTtd (regs : TtdX64Regs) (teb : UInt64) : TtdRegisters :=
  let flt := regs.fltSave
  { core := {
      regs := #v[regs.rax, regs.rbx, regs.rcx, regs.rdx, regs.rsi, regs.rdi, regs.rbp, regs.rsp,
        regs.r8, regs.r9, regs.r10, regs.r11, regs.r12, regs.r13, regs.r14, regs.r15]
      eflags := regs.eFlags
      rip := regs.rip
      segments := {
        cs := regs.segCs.toUInt32
        ss := regs.segSs.toUInt32
        ds := regs.segDs.toUInt32
        es := regs.segEs.toUInt32
        fs := regs.segFs.toUInt32
        gs := regs.segGs.toUInt32 }
      st := flt.floatRegisters.map stOfM128
      fpu := {
        fctrl := flt.controlWord.toUInt32
        fstat := flt.statusWord.toUInt32
        ftag := flt.tagWord.toUInt32
        fiseg := flt.errorSelector.toUInt32
        fioff := flt.errorOffset
        foseg := flt.dataSelector.toUInt32
        fooff := flt.dataOffset
        fop := flt.errorOpcode.toUInt32 }
      xmm := flt.xmmRegisters.map xmmOfM128
      mxcsr := flt.mxCsr }
    fsBase := 0
    gsBase := teb }

/-- `TtdRegisters::gdb_serialize`. -/
def TtdRegisters.gdbSerialize (arch : CoreArch) (file : TtdRegisters) : List (Option UInt8) :=
  arch.gdbSerialize file.core ++ (wordToLeBytes file.fsBase).map some ++
    (wordToLeBytes file.gsBase).map some

/-- `TtdRegisters::gdb_deserialize`. -/
def TtdRegisters.gdbDeserialize (arch : CoreArch) (file : TtdRegisters) (bytes : List UInt8) :
    Option TtdRegisters :=
  if bytes.length < gBufferSize then none
  else do
    let core ← arch.gdbDeserialize file.core (bytes.take coreSerializedSize)
    let base := coreSerializedSize
    let fsBase := wordFromLeBytes ((bytes.drop base).take segmentBaseSize)
    let base := base + segmentBaseSize
    let gsBase := wordFromLeBytes ((bytes.drop base).take segmentBaseSize)
    some { core, fsBase, gsBase }

/-! ## Register ids -/

/-- A register as GDB asks for it by number. -/
inductive TtdRegId where
  | core (id : X86_64CoreRegId)
  | fsBase
  | gsBase
  deriving DecidableEq, Repr

/-- `TtdRegId::from_raw_id`. -/
def TtdRegId.fromRawId (arch : CoreArch) (id : Nat) : Option (TtdRegId × Option Nat) :=
  if id < 57 then do
    let (reg, size) ← arch.fromRawId id
    some (.core reg, size)
  else
    match id with
    | 57 => some (.fsBase, some 8)
    | 58 => some (.gsBase, some 8)
    | _ => none

/-- `seg_regnum`. -/
def segRegnum : X86SegmentRegId → Nat
  | .cs => 0
  | .ss => 1
  | .ds => 2
  | .es => 3
  | .fs => 4
  | .gs => 5

/-- `fpu_regnum`. -/
def fpuRegnum : X87FpuInternalRegId → Nat
  | .fctrl => 0
  | .fstat => 1
  | .ftag => 2
  | .fiseg => 3
  | .fioff => 4
  | .foseg => 5
  | .fooff => 6
  | .fop => 7

/-- `TtdRegId::to_raw_id`. -/
def TtdRegId.toRawId : TtdRegId → Option Nat
  | .core reg =>
      match reg with
      | .gpr i => some i.toNat
      | .rip => some 16
      | .eflags => some 17
      | .segment s => some (18 + segRegnum s)
      | .st i => some (24 + i.toNat)
      | .fpu f => some (32 + fpuRegnum f)
      | .xmm i => some (40 + i.toNat)
      | .mxcsr => some 56
      | .other => none
  | .fsBase => some 57
  | .gsBase => some 58

/-! ## One register -/

/-- The panic of an index that is out of bounds. -/
inductive IndexPanic where
  | outOfBounds
  deriving DecidableEq, Repr

/-- An array indexed with a `u8`. -/
def indexed {α : Type} {size : Nat} (values : Vector α size) (i : UInt8) : Except IndexPanic α :=
  if inside : i.toNat < size then .ok values[i.toNat] else .error .outOfBounds

/-- `buf[..n].copy_from_slice(&bytes[..n])`. -/
def copyFromSlice (buf bytes : List UInt8) (n : Nat) : List UInt8 :=
  bytes.take n ++ buf.drop n

/-- The value of a segment register. -/
def X86SegmentRegs.get (segments : X86SegmentRegs) : X86SegmentRegId → UInt32
  | .cs => segments.cs
  | .ss => segments.ss
  | .ds => segments.ds
  | .es => segments.es
  | .fs => segments.fs
  | .gs => segments.gs

/-- The value of an x87 control register. -/
def X87FpuInternalRegs.get (fpu : X87FpuInternalRegs) : X87FpuInternalRegId → UInt32
  | .fctrl => fpu.fctrl
  | .fstat => fpu.fstat
  | .ftag => fpu.ftag
  | .fiseg => fpu.fiseg
  | .fioff => fpu.fioff
  | .foseg => fpu.foseg
  | .fooff => fpu.fooff
  | .fop => fpu.fop

/-- The end of `read_register_value`: a register that fits in a `u64`. -/
def writeValue (value : UInt64) (size : Nat) (buf : List UInt8) : Nat × List UInt8 :=
  let size := min buf.length size
  (size, copyFromSlice buf (wordToLeBytes value) size)

/-- `read_register_value`: the number of bytes written and the buffer. -/
def readRegisterValue (regId : TtdRegId) (regs : TtdRegisters) (buf : List UInt8) :
    Except IndexPanic (Option (Nat × List UInt8)) :=
  match regId with
  | .core (.gpr i) => do
      let value ← indexed regs.core.regs i
      return some (writeValue value 8 buf)
  | .core .rip => return some (writeValue regs.core.rip 8 buf)
  | .core .eflags => return some (writeValue regs.core.eflags.toUInt64 4 buf)
  | .core (.segment s) => return some (writeValue (regs.core.segments.get s).toUInt64 4 buf)
  | .core (.st i) => do
      let n := min buf.length stRegisterSize
      let st ← indexed regs.core.st i
      return some (n, copyFromSlice buf st.toList n)
  | .core (.fpu f) => return some (writeValue (regs.core.fpu.get f).toUInt64 4 buf)
  | .core (.xmm i) => do
      let n := min buf.length xmmRegisterSize
      let xmm ← indexed regs.core.xmm i
      return some (n, copyFromSlice buf (leBytes 16 xmm.toNat) n)
  | .core .mxcsr => return some (writeValue regs.core.mxcsr.toUInt64 4 buf)
  | .fsBase => return some (writeValue regs.fsBase 8 buf)
  | .gsBase => return some (writeValue regs.gsBase 8 buf)
  | .core .other => return none

end TtdGdbserver.Gdb
