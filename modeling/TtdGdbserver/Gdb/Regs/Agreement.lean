import TtdGdbserver.Gdb.Regs.Core
import Mathlib.Data.List.Forall2

/-!
# The `g` and the `p` packet

The register file in document order is a list of images, one for each
register.  The `g` packet is their concatenation, and the `p` packet of a
register is a prefix of the image with its number.
-/

namespace TtdGdbserver.Gdb

open TtdGdbserver.Bytes TtdGdbserver.Ttd

/-! ## The document order -/

/-- A 32-bit register in the document. -/
def image32 (value : UInt32) : List UInt8 :=
  leBytes 4 value.toNat

open X86_64CoreRegId X86SegmentRegId X87FpuInternalRegId in
/-- The core registers in the order of the target description. -/
def documentOrder : List X86_64CoreRegId :=
  (List.range 16).map (fun i => gpr (UInt8.ofNat i)) ++ [rip, eflags] ++
    [segment cs, segment ss, segment ds, segment es, segment fs, segment gs] ++
    (List.range 8).map (fun i => st (UInt8.ofNat i)) ++
    [fpu fctrl, fpu fstat, fpu ftag, fpu fiseg, fpu fioff, fpu foseg, fpu fooff, fpu fop] ++
    (List.range 16).map (fun i => xmm (UInt8.ofNat i)) ++ [mxcsr]

/-- The segment registers as they stand in a packet. -/
def X86SegmentRegs.images (segments : X86SegmentRegs) : List (List UInt8) :=
  [image32 segments.cs, image32 segments.ss, image32 segments.ds, image32 segments.es,
    image32 segments.fs, image32 segments.gs]

/-- The x87 control registers as they stand in a packet. -/
def X87FpuInternalRegs.images (fpu : X87FpuInternalRegs) : List (List UInt8) :=
  [image32 fpu.fctrl, image32 fpu.fstat, image32 fpu.ftag, image32 fpu.fiseg, image32 fpu.fioff,
    image32 fpu.foseg, image32 fpu.fooff, image32 fpu.fop]

/-- The images of the core registers in that order, little-endian. -/
def X86_64CoreRegs.images (core : X86_64CoreRegs) : List (List UInt8) :=
  core.regs.toList.map wordToLeBytes ++ [wordToLeBytes core.rip, image32 core.eflags] ++
    core.segments.images ++ core.st.toList.map Vector.toList ++ core.fpu.images ++
    core.xmm.toList.map (fun value => leBytes 16 value.toNat) ++ [image32 core.mxcsr]

/-- The widths of the core registers in that order. -/
def coreWidths : List Nat :=
  List.replicate 16 8 ++ [8, 4] ++ List.replicate 6 4 ++ List.replicate 8 10 ++
    List.replicate 8 4 ++ List.replicate 16 16 ++ [4]

/-- The codec writes the document order, reads it back, and numbers the
registers by it. -/
structure CoreArch.Documented (arch : CoreArch) : Prop where
  serialize : ∀ core, arch.gdbSerialize core = core.images.flatten.map some
  deserialize : ∀ previous core, arch.gdbDeserialize previous core.images.flatten = some core
  numbering : ∀ number id, documentOrder[number]? = some id →
    ∃ size, arch.fromRawId number = some (id, size)

/-- The widths of all registers. -/
def registerWidths : List Nat :=
  coreWidths ++ [8, 8]

/-- All register ids by their numbers. -/
def registerOrder : List TtdRegId :=
  documentOrder.map .core ++ [.fsBase, .gsBase]

/-- The images of all registers by their numbers. -/
def TtdRegisters.images (file : TtdRegisters) : List (List UInt8) :=
  file.core.images ++ [wordToLeBytes file.fsBase, wordToLeBytes file.gsBase]

@[simp]
theorem length_image32 (value : UInt32) : (image32 value).length = 4 :=
  length_leBytes 4 value.toNat

theorem X86_64CoreRegs.map_length_images (core : X86_64CoreRegs) :
    core.images.map List.length = coreWidths := by
  simp only [images, X86SegmentRegs.images, X87FpuInternalRegs.images, coreWidths,
    List.map_append, map_length_of_uniform length_wordToLeBytes,
    map_length_of_uniform fun st : Vector UInt8 10 => st.length_toList,
    map_length_of_uniform fun value : BitVec 128 => length_leBytes 16 value.toNat,
    Vector.length_toList, List.map_cons, List.map_nil, length_image32, length_wordToLeBytes]
  rfl

theorem TtdRegisters.map_length_images (file : TtdRegisters) :
    file.images.map List.length = registerWidths := by
  rw [images, List.map_append, file.core.map_length_images]
  rfl

theorem X86_64CoreRegs.length_flatten_images (core : X86_64CoreRegs) :
    core.images.flatten.length = coreSerializedSize := by
  rw [List.length_flatten, core.map_length_images]
  rfl

theorem TtdRegisters.length_flatten_images (file : TtdRegisters) :
    file.images.flatten.length = gBufferSize := by
  rw [List.length_flatten, file.map_length_images]
  rfl

/-! ## Reading one register -/

/-- Reading a register writes as much of its image as fits the buffer and
leaves the rest of the buffer alone. -/
def Reads (file : TtdRegisters) (id : TtdRegId) (image : List UInt8) : Prop :=
  ∀ buf, readRegisterValue id file buf =
    .ok (some (min buf.length image.length, image.take buf.length ++ buf.drop image.length))

theorem copyFromSlice_min (buf bytes : List UInt8) :
    copyFromSlice buf bytes (min buf.length bytes.length) =
      bytes.take buf.length ++ buf.drop bytes.length := by
  rw [copyFromSlice]
  congr 1
  · rw [← List.take_take, List.take_length]
  · rcases Nat.le_total buf.length bytes.length with short | long
    · rw [Nat.min_eq_left short, List.drop_length, List.drop_eq_nil_of_le short]
    · rw [Nat.min_eq_right long]

theorem writeValue_eq (value : UInt64) {size : Nat} (small : size ≤ 8) (buf : List UInt8) :
    writeValue value size buf =
      (min buf.length size, (leBytes size value.toNat).take buf.length ++ buf.drop size) := by
  have copied := copyFromSlice_min buf (leBytes size value.toNat)
  have narrow : copyFromSlice buf (wordToLeBytes value) (min buf.length size) =
      copyFromSlice buf (leBytes size value.toNat) (min buf.length size) := by
    rw [copyFromSlice, copyFromSlice, wordToLeBytes, take_leBytes, take_leBytes,
      Nat.min_assoc, Nat.min_assoc, Nat.min_self, Nat.min_eq_left small]
  rw [length_leBytes] at copied
  rw [writeValue, narrow, copied]

theorem writeValue64 (value : UInt64) (buf : List UInt8) :
    writeValue value 8 buf =
      (min buf.length 8, (wordToLeBytes value).take buf.length ++ buf.drop 8) :=
  writeValue_eq value (Nat.le_refl 8) buf

theorem writeValue32 (value : UInt32) (buf : List UInt8) :
    writeValue value.toUInt64 4 buf =
      (min buf.length 4, (image32 value).take buf.length ++ buf.drop 4) := by
  rw [writeValue_eq _ (by decide), UInt32.toNat_toUInt64, image32]

variable (file : TtdRegisters)

theorem indexed_ofNat {α : Type} {size : Nat} (values : Vector α size) {i : Nat}
    (inside : i < size) (small : size ≤ 256) :
    indexed values (UInt8.ofNat i) = .ok values[i] := by
  have same : (UInt8.ofNat i).toNat = i := by
    rw [UInt8.toNat_ofNat']
    omega
  simp only [indexed, same, inside, dite_true]

theorem reads_gpr {i : Nat} (inside : i < 16) :
    Reads file (.core (.gpr (UInt8.ofNat i))) (wordToLeBytes file.core.regs[i]) := by
  intro buf
  have value := indexed_ofNat file.core.regs inside (by decide)
  simp only [readRegisterValue, value, writeValue64, length_wordToLeBytes]
  rfl

theorem reads_st {i : Nat} (inside : i < 8) :
    Reads file (.core (.st (UInt8.ofNat i))) file.core.st[i].toList := by
  intro buf
  have value := indexed_ofNat file.core.st inside (by decide)
  have copied := copyFromSlice_min buf file.core.st[i].toList
  rw [Vector.length_toList] at copied
  simp only [readRegisterValue, value, stRegisterSize, Vector.length_toList, ← copied]
  rfl

theorem reads_xmm {i : Nat} (inside : i < 16) :
    Reads file (.core (.xmm (UInt8.ofNat i))) (leBytes 16 file.core.xmm[i].toNat) := by
  intro buf
  have value := indexed_ofNat file.core.xmm inside (by decide)
  have copied := copyFromSlice_min buf (leBytes 16 file.core.xmm[i].toNat)
  rw [length_leBytes] at copied
  simp only [readRegisterValue, value, xmmRegisterSize, length_leBytes, ← copied]
  rfl

/-- An array of registers is read register by register. -/
theorem forall₂_range {α : Type} {size : Nat} {values : Vector α size} {id : Nat → TtdRegId}
    {image : α → List UInt8}
    (reads : ∀ {i : Nat} (inside : i < size), Reads file (id i) (image values[i])) :
    List.Forall₂ (Reads file) ((List.range size).map id) (values.toList.map image) := by
  rw [List.forall₂_iff_get]
  refine ⟨by simp, ?_⟩
  intro i inside _
  rw [List.length_map, List.length_range] at inside
  simpa using reads inside

/-- Every register is read as the image with its number. -/
theorem forall₂_reads :
    List.Forall₂ (Reads file) registerOrder file.images := by
  have value64 (id : TtdRegId) (value : UInt64)
      (read : ∀ buf, readRegisterValue id file buf = .ok (some (writeValue value 8 buf))) :
      Reads file id (wordToLeBytes value) := by
    intro buf
    rw [read, writeValue64, length_wordToLeBytes]
  have value32 (id : TtdRegId) (value : UInt32)
      (read : ∀ buf,
        readRegisterValue id file buf = .ok (some (writeValue value.toUInt64 4 buf))) :
      Reads file id (image32 value) := by
    intro buf
    rw [read, writeValue32, length_image32]
  have rip := value64 (.core .rip) file.core.rip fun _ => rfl
  have eflags := value32 (.core .eflags) file.core.eflags fun _ => rfl
  have segment (s : X86SegmentRegId) :=
    value32 (.core (.segment s)) (file.core.segments.get s) fun _ => rfl
  have fpu (f : X87FpuInternalRegId) :=
    value32 (.core (.fpu f)) (file.core.fpu.get f) fun _ => rfl
  have mxcsr := value32 (.core .mxcsr) file.core.mxcsr fun _ => rfl
  have fsBase := value64 .fsBase file.fsBase fun _ => rfl
  have gsBase := value64 .gsBase file.gsBase fun _ => rfl
  simp only [registerOrder, documentOrder, TtdRegisters.images, X86_64CoreRegs.images,
    List.map_append, List.map_map]
  refine List.rel_append (List.rel_append (List.rel_append (List.rel_append (List.rel_append
    (List.rel_append (List.rel_append ?gprs ?flags) ?segments) ?sts) ?fpus) ?xmms) ?control) ?bases
  case gprs => exact forall₂_range file fun inside => reads_gpr file inside
  case flags => exact .cons rip (.cons eflags .nil)
  case segments =>
    exact .cons (segment .cs) (.cons (segment .ss) (.cons (segment .ds) (.cons (segment .es)
      (.cons (segment .fs) (.cons (segment .gs) .nil)))))
  case sts => exact forall₂_range file fun inside => reads_st file inside
  case fpus =>
    exact .cons (fpu .fctrl) (.cons (fpu .fstat) (.cons (fpu .ftag) (.cons (fpu .fiseg)
      (.cons (fpu .fioff) (.cons (fpu .foseg) (.cons (fpu .fooff) (.cons (fpu .fop) .nil)))))))
  case xmms => exact forall₂_range file fun inside => reads_xmm file inside
  case control => exact .cons mxcsr .nil
  case bases => exact .cons fsBase (.cons gsBase .nil)

/-! ## Numbers -/

theorem fromRawId_documented {arch : CoreArch} (documented : arch.Documented) {number : Nat}
    {id : TtdRegId} (found : registerOrder[number]? = some id) :
    ∃ size, TtdRegId.fromRawId arch number = some (id, size) := by
  have width : (documentOrder.map TtdRegId.core).length = 57 := by decide
  rw [registerOrder] at found
  rcases Nat.lt_or_ge number 57 with core | base
  · rw [List.getElem?_append_left (by omega), List.getElem?_map] at found
    obtain ⟨core, named, rfl⟩ := Option.map_eq_some_iff.mp found
    obtain ⟨size, numbered⟩ := documented.numbering number core named
    exact ⟨size, by simp [TtdRegId.fromRawId, *]⟩
  · obtain ⟨rest, rfl⟩ := Nat.exists_eq_add_of_le base
    rw [List.getElem?_append_right (by omega), width, Nat.add_sub_cancel_left] at found
    match rest with
    | 0 => cases found; exact ⟨_, rfl⟩
    | 1 => cases found; exact ⟨_, rfl⟩
    | rest + 2 => cases found

/-- The numbers go back and forth. -/
theorem toRawId_fromRawId {arch : CoreArch} (documented : arch.Documented) {number : Nat}
    (known : number < 59) :
    ∃ id size, TtdRegId.fromRawId arch number = some (id, size) ∧ id.toRawId = some number := by
  have inside : number < registerOrder.length := known
  have named := List.getElem?_eq_getElem inside
  obtain ⟨size, numbered⟩ := fromRawId_documented documented named
  refine ⟨registerOrder[number], size, numbered, ?_⟩
  have order : registerOrder.map TtdRegId.toRawId = (List.range 59).map some := by decide
  have here := congrArg (·[number]?) order
  simpa [named, List.getElem?_range known] using here

/-! ## The two packets -/

theorem gdbSerialize_eq {arch : CoreArch} (documented : arch.Documented) :
    file.gdbSerialize arch = file.images.flatten.map some := by
  simp only [TtdRegisters.gdbSerialize, documented.serialize, TtdRegisters.images,
    List.flatten_append, List.map_append, List.flatten_cons, List.flatten_nil, List.append_nil,
    List.append_assoc]

theorem gdbDeserialize_images {arch : CoreArch} (documented : arch.Documented)
    (previous : TtdRegisters) (trailing : List UInt8) :
    previous.gdbDeserialize arch (file.images.flatten ++ trailing) = some file := by
  have split : file.images.flatten ++ trailing =
      file.core.images.flatten ++
        (wordToLeBytes file.fsBase ++ (wordToLeBytes file.gsBase ++ trailing)) := by
    simp [TtdRegisters.images]
  have long : ¬(file.images.flatten ++ trailing).length < gBufferSize := by
    rw [List.length_append, file.length_flatten_images]
    omega
  have size := file.core.length_flatten_images
  have base : segmentBaseSize = (wordToLeBytes file.fsBase).length := rfl
  have base' : segmentBaseSize = (wordToLeBytes file.gsBase).length := rfl
  rw [TtdRegisters.gdbDeserialize, if_neg long, split]
  simp only [← size, List.take_left, documented.deserialize, Option.bind_eq_bind,
    Option.bind_some, ← List.drop_drop, List.drop_left]
  rw [base, List.take_left, List.drop_left, ← base, base', List.take_left,
    wordFromLeBytes_wordToLeBytes, wordFromLeBytes_wordToLeBytes]

/-- The `g` packet of a snapshot is tiled by the registers in the order of
their numbers, the `p` packet of a register is a prefix of its tile, and the
`g` packet restores the register file. -/
theorem packetsAgree {arch : CoreArch} (documented : arch.Documented) (regs : TtdX64Regs)
    (teb : UInt64) :
    let file := TtdRegisters.fromTtd regs teb
    ∃ packet : List UInt8,
      file.gdbSerialize arch = packet.map some ∧ packet.length = 552 ∧
      (∀ number < 59, ∃ id size, TtdRegId.fromRawId arch number = some (id, size) ∧
        ∀ buf, readRegisterValue id file buf = .ok (some
          (min buf.length (fieldWidth registerWidths number),
            (field registerWidths number packet).take buf.length ++
              buf.drop (fieldWidth registerWidths number)))) ∧
      ((List.range 59).flatMap fun number => field registerWidths number packet) = packet ∧
      ∀ previous : TtdRegisters, ∀ trailing,
        previous.gdbDeserialize arch (packet ++ trailing) = some file := by
  intro file
  refine ⟨file.images.flatten, gdbSerialize_eq file documented, file.length_flatten_images,
    ?_, ?_, gdbDeserialize_images file documented⟩
  · intro number known
    have named := List.getElem?_eq_getElem (show number < registerOrder.length from known)
    obtain ⟨size, numbered⟩ := fromRawId_documented documented named
    have reads := forall₂_reads file
    have images : number < file.images.length := by
      rw [← reads.length_eq]
      exact known
    have found := List.getElem?_eq_getElem images
    have width : fieldWidth registerWidths number = file.images[number].length := by
      rw [← file.map_length_images, fieldWidth, List.getD_eq_getElem?_getD, List.getElem?_map,
        found, Option.map_some, Option.getD_some]
    have tile := field_flatten found []
    rw [file.map_length_images, List.append_nil] at tile
    refine ⟨_, size, numbered, ?_⟩
    rw [tile, width]
    exact (List.forall₂_iff_get.mp reads).2 number known images
  · exact flatMap_field registerWidths file.length_flatten_images

/-! ## A codec in document order -/

/-- The core registers read field by field. -/
def documentDeserialize (_previous : X86_64CoreRegs) (bytes : List UInt8) :
    Option X86_64CoreRegs :=
  if bytes.length < 0x218 then none
  else
    let bytesAt (number : Nat) := field coreWidths number bytes
    let word (number : Nat) := wordFromLeBytes (bytesAt number)
    let word32 (number : Nat) := UInt32.ofNat (ofLeBytes (bytesAt number))
    some {
      regs := Vector.ofFn fun i => word i.val
      rip := word 16
      eflags := word32 17
      segments := {
        cs := word32 18
        ss := word32 19
        ds := word32 20
        es := word32 21
        fs := word32 22
        gs := word32 23 }
      st := Vector.ofFn fun i => Vector.ofFn fun j => (bytesAt (24 + i.val)).getD j.val 0
      fpu := {
        fctrl := word32 32
        fstat := word32 33
        ftag := word32 34
        fiseg := word32 35
        fioff := word32 36
        foseg := word32 37
        fooff := word32 38
        fop := word32 39 }
      xmm := Vector.ofFn fun i => BitVec.ofNat 128 (ofLeBytes (bytesAt (40 + i.val)))
      mxcsr := word32 56 }

/-- A core codec that follows the document. -/
def documentArch : CoreArch where
  gdbSerialize core := core.images.flatten.map some
  gdbDeserialize := documentDeserialize
  fromRawId number := documentOrder[number]?.map fun id => (id, coreWidths[number]?)

theorem word32_image32 (value : UInt32) : UInt32.ofNat (ofLeBytes (image32 value)) = value := by
  rw [image32, ofLeBytes_leBytes, Nat.mod_eq_of_lt (by simpa using value.toNat_lt),
    UInt32.ofNat_toNat]

theorem getElem?_middle {α β : Type} {size : Nat} (front rest : List β) (values : Vector α size)
    (image : α → β) {i : Nat} (inside : i < size) :
    (front ++ values.toList.map image ++ rest)[front.length + i]? = some (image values[i]) := by
  have here : i < (values.toList.map image).length := by simpa using inside
  rw [List.append_assoc, List.getElem?_append_right (Nat.le_add_right ..),
    Nat.add_sub_cancel_left, List.getElem?_append_left here, List.getElem?_eq_getElem here]
  simp

section
variable (core : X86_64CoreRegs)

theorem images_gpr {i : Nat} (inside : i < 16) :
    core.images[i]? = some (wordToLeBytes core.regs[i]) := by
  simp [X86_64CoreRegs.images, List.getElem?_append, inside]

theorem images_st {i : Nat} (inside : i < 8) :
    core.images[24 + i]? = some core.st[i].toList := by
  have shape : core.images =
      core.regs.toList.map wordToLeBytes ++ [wordToLeBytes core.rip, image32 core.eflags] ++
        core.segments.images ++ core.st.toList.map Vector.toList ++
        (core.fpu.images ++ core.xmm.toList.map (fun value => leBytes 16 value.toNat) ++
          [image32 core.mxcsr]) := by
    simp only [X86_64CoreRegs.images, List.append_assoc]
  have front : (core.regs.toList.map wordToLeBytes ++
      [wordToLeBytes core.rip, image32 core.eflags] ++ core.segments.images).length = 24 := by
    simp [X86SegmentRegs.images]
  rw [shape, ← front]
  exact getElem?_middle _ _ core.st Vector.toList inside

theorem images_xmm {i : Nat} (inside : i < 16) :
    core.images[40 + i]? = some (leBytes 16 core.xmm[i].toNat) := by
  have front : (core.regs.toList.map wordToLeBytes ++
      [wordToLeBytes core.rip, image32 core.eflags] ++ core.segments.images ++
      core.st.toList.map Vector.toList ++ core.fpu.images).length = 40 := by
    simp [X86SegmentRegs.images, X87FpuInternalRegs.images]
  rw [X86_64CoreRegs.images, ← front]
  exact getElem?_middle _ _ core.xmm (fun value => leBytes 16 value.toNat) inside

theorem images_rip : core.images[16]? = some (wordToLeBytes core.rip) := by
  simp [X86_64CoreRegs.images]

theorem images_eflags : core.images[17]? = some (image32 core.eflags) := by
  simp [X86_64CoreRegs.images, List.getElem?_append]

theorem images_segment (s : X86SegmentRegId) :
    core.images[18 + segRegnum s]? = some (image32 (core.segments.get s)) := by
  cases s <;> simp [X86_64CoreRegs.images, X86SegmentRegs.images, X86SegmentRegs.get, segRegnum,
    List.getElem?_append]

theorem images_fpu (f : X87FpuInternalRegId) :
    core.images[32 + fpuRegnum f]? = some (image32 (core.fpu.get f)) := by
  cases f <;> simp [X86_64CoreRegs.images, X86SegmentRegs.images, X87FpuInternalRegs.images,
    X87FpuInternalRegs.get, fpuRegnum]

theorem images_mxcsr : core.images[56]? = some (image32 core.mxcsr) := by
  simp [X86_64CoreRegs.images, X86SegmentRegs.images, X87FpuInternalRegs.images]

theorem documentDeserialize_images (previous : X86_64CoreRegs) :
    documentDeserialize previous core.images.flatten = some core := by
  have image {number : Nat} {bytes : List UInt8} (found : core.images[number]? = some bytes) :
      field coreWidths number core.images.flatten = bytes := by
    have part := field_flatten found []
    rwa [core.map_length_images, List.append_nil] at part
  have word {number : Nat} {value : UInt64}
      (found : core.images[number]? = some (wordToLeBytes value)) :
      wordFromLeBytes (field coreWidths number core.images.flatten) = value := by
    rw [image found, wordFromLeBytes_wordToLeBytes]
  have word32 {number : Nat} {value : UInt32}
      (found : core.images[number]? = some (image32 value)) :
      UInt32.ofNat (ofLeBytes (field coreWidths number core.images.flatten)) = value := by
    rw [image found, word32_image32]
  have segment := fun s => word32 (images_segment core s)
  have fpu := fun f => word32 (images_fpu core f)
  have regs : (Vector.ofFn fun i : Fin 16 =>
      wordFromLeBytes (field coreWidths i.val core.images.flatten)) = core.regs := by
    apply Vector.ext
    intro i inside
    rw [Vector.getElem_ofFn, word (images_gpr core inside)]
  have st : (Vector.ofFn fun i : Fin 8 => Vector.ofFn fun j : Fin 10 =>
      (field coreWidths (24 + i.val) core.images.flatten).getD j.val 0) = core.st := by
    apply Vector.ext
    intro i inside
    apply Vector.ext
    intro j inside'
    rw [Vector.getElem_ofFn, Vector.getElem_ofFn, image (images_st core inside)]
    simp [inside']
  have xmm : (Vector.ofFn fun i : Fin 16 =>
      BitVec.ofNat 128 (ofLeBytes (field coreWidths (40 + i.val) core.images.flatten))) =
        core.xmm := by
    apply Vector.ext
    intro i inside
    rw [Vector.getElem_ofFn, image (images_xmm core inside), ofLeBytes_leBytes]
    apply BitVec.eq_of_toNat_eq
    rw [BitVec.toNat_ofNat]
    have bound := core.xmm[i].isLt
    omega
  have long : ¬core.images.flatten.length < 0x218 := by
    rw [core.length_flatten_images, coreSerializedSize]
    decide
  rw [documentDeserialize, if_neg long]
  let at32 (number : Nat) : UInt32 :=
    UInt32.ofNat (ofLeBytes (field coreWidths number core.images.flatten))
  have segments : ⟨at32 18, at32 19, at32 20, at32 21, at32 22, at32 23⟩ = core.segments :=
    X86SegmentRegs.ext (segment .cs) (segment .ss) (segment .ds) (segment .es) (segment .fs)
      (segment .gs)
  have fpu : ⟨at32 32, at32 33, at32 34, at32 35, at32 36, at32 37, at32 38, at32 39⟩ =
      core.fpu :=
    X87FpuInternalRegs.ext (fpu .fctrl) (fpu .fstat) (fpu .ftag) (fpu .fiseg) (fpu .fioff)
      (fpu .foseg) (fpu .fooff) (fpu .fop)
  exact congrArg some (X86_64CoreRegs.ext regs (word32 (images_eflags core))
    (word (images_rip core)) segments st fpu xmm (word32 (images_mxcsr core)))

end

theorem documentArch_documented : documentArch.Documented where
  serialize _ := rfl
  deserialize previous core := documentDeserialize_images core previous
  numbering number id named := ⟨coreWidths[number]?, by simp [documentArch, named]⟩

theorem packetsAgree_document :
    let file := TtdRegisters.fromTtd default 0x7ffe0000
    ∃ packet : List UInt8,
      file.gdbSerialize documentArch = packet.map some ∧ packet.length = 552 ∧
      (∀ number < 59, ∃ id size, TtdRegId.fromRawId documentArch number = some (id, size) ∧
        ∀ buf, readRegisterValue id file buf = .ok (some
          (min buf.length (fieldWidth registerWidths number),
            (field registerWidths number packet).take buf.length ++
              buf.drop (fieldWidth registerWidths number)))) ∧
      ((List.range 59).flatMap fun number => field registerWidths number packet) = packet ∧
      ∀ previous : TtdRegisters, ∀ trailing,
        previous.gdbDeserialize documentArch (packet ++ trailing) = some file :=
  packetsAgree documentArch_documented default 0x7ffe0000

end TtdGdbserver.Gdb
