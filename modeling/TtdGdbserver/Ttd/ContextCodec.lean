import TtdGdbserver.Bytes.Layout
import TtdGdbserver.Bytes.LittleEndian
import TtdGdbserver.Ttd.Registers

/-!
# The register context across the bridge

`Cursor::GetAmd64Context` writes a context as 81 little-endian words and
`decodeAmd64Context` reads them back.  The two sides share only the order in
which they name the fields.  Both are compared with `contextList`, the words
of a context in that order.
-/

namespace TtdGdbserver.Ttd

open TtdGdbserver.Bytes

/-! ## The encoder -/

/-- `push_u64`. -/
def pushU64 (out : List UInt8) (value : UInt64) : List UInt8 :=
  ([0, 8, 16, 24, 32, 40, 48, 56] : List UInt64).foldl
    (fun out shift => out ++ [(value >>> shift &&& 0xff).toUInt8]) out

/-- `push_m128`. -/
def pushM128 (out : List UInt8) (value : M128A) : List UInt8 :=
  pushU64 (pushU64 out value.low) value.high

/-- `Cursor::GetAmd64Context`. -/
def getAmd64Context (regs : TtdX64Regs) : List UInt8 :=
  let out := [regs.rax, regs.rbx, regs.rcx, regs.rdx, regs.rsi, regs.rdi, regs.rbp, regs.rsp,
    regs.r8, regs.r9, regs.r10, regs.r11, regs.r12, regs.r13, regs.r14, regs.r15,
    regs.rip].foldl pushU64 []
  let out := pushU64 out regs.eFlags.toUInt64
  let out := [regs.segCs, regs.segDs, regs.segEs, regs.segFs, regs.segGs, regs.segSs].foldl
    (fun out value => pushU64 out value.toUInt64) out
  let out := regs.fltSave.floatRegisters.toList.foldl pushM128 out
  let out := regs.fltSave.xmmRegisters.toList.foldl pushM128 out
  let out := pushU64 out regs.fltSave.controlWord.toUInt64
  let out := pushU64 out regs.fltSave.statusWord.toUInt64
  let out := pushU64 out regs.fltSave.tagWord.toUInt64
  let out := pushU64 out regs.fltSave.errorOpcode.toUInt64
  let out := pushU64 out regs.fltSave.errorOffset.toUInt64
  let out := pushU64 out regs.fltSave.errorSelector.toUInt64
  let out := pushU64 out regs.fltSave.dataOffset.toUInt64
  let out := pushU64 out regs.fltSave.dataSelector.toUInt64
  pushU64 out regs.fltSave.mxCsr.toUInt64

/-! ## Words and their bytes -/

/-- `u64::to_le_bytes`. -/
def wordToLeBytes (value : UInt64) : List UInt8 :=
  leBytes 8 value.toNat

@[simp]
theorem length_wordToLeBytes (value : UInt64) : (wordToLeBytes value).length = 8 :=
  length_leBytes 8 value.toNat

theorem toNat_wordFromLeBytes {bytes : List UInt8} (short : bytes.length ≤ 8) :
    (wordFromLeBytes bytes).toNat = ofLeBytes bytes := by
  induction bytes with
  | nil => rfl
  | cons byte bytes ih =>
      rw [List.length_cons] at short
      have rest := ih (by omega)
      have small : ofLeBytes bytes < 2 ^ 56 := by
        calc
          ofLeBytes bytes < 256 ^ bytes.length := ofLeBytes_lt bytes
          _ ≤ 256 ^ 7 := Nat.pow_le_pow_right (by decide) (by omega)
          _ = 2 ^ 56 := by decide
      have fold : wordFromLeBytes (byte :: bytes) =
          wordFromLeBytes bytes <<< 8 ||| byte.toUInt64 := rfl
      have shifted : (wordFromLeBytes bytes <<< 8).toNat = ofLeBytes bytes <<< 8 := by
        have fits : ofLeBytes bytes <<< 8 < 2 ^ 64 := by
          rw [Nat.shiftLeft_eq]
          omega
        rw [UInt64.toNat_shiftLeft, rest]
        exact Nat.mod_eq_of_lt fits
      rw [fold, UInt64.toNat_or, shifted, UInt8.toNat_toUInt64,
        ← Nat.shiftLeft_add_eq_or_of_lt byte.toNat_lt, Nat.shiftLeft_eq, ofLeBytes]
      omega

@[simp]
theorem wordFromLeBytes_wordToLeBytes (value : UInt64) :
    wordFromLeBytes (wordToLeBytes value) = value := by
  apply UInt64.toNat_inj.mp
  rw [toNat_wordFromLeBytes (length_wordToLeBytes value).le, wordToLeBytes, ofLeBytes_leBytes]
  exact Nat.mod_eq_of_lt value.toNat_lt

theorem wordToLeBytes_wordFromLeBytes {bytes : List UInt8} (length : bytes.length = 8) :
    wordToLeBytes (wordFromLeBytes bytes) = bytes := by
  rw [wordToLeBytes, toNat_wordFromLeBytes length.le, ← length, leBytes_ofLeBytes]

theorem pushU64_eq (out : List UInt8) (value : UInt64) :
    pushU64 out value = out ++ wordToLeBytes value := by
  have byte (shift : UInt64) (small : shift.toNat < 64) :
      (value >>> shift &&& 0xff).toUInt8 = UInt8.ofNat (value.toNat >>> shift.toNat) := by
    apply UInt8.toNat_inj.mp
    have mask := Nat.and_two_pow_sub_one_eq_mod (value.toNat >>> shift.toNat) 8
    rw [UInt64.toNat_toUInt8, UInt64.toNat_and, UInt64.toNat_shiftRight,
      Nat.mod_eq_of_lt small, UInt8.toNat_ofNat']
    change (value.toNat >>> shift.toNat &&& 2 ^ 8 - 1) % 2 ^ 8 = _
    rw [mask, Nat.mod_mod]
  rw [wordToLeBytes, leBytes_eq_map_range]
  simp only [pushU64, List.foldl_cons, List.foldl_nil, List.append_assoc, List.singleton_append]
  rw [byte 0 (by decide), byte 8 (by decide), byte 16 (by decide), byte 24 (by decide),
    byte 32 (by decide), byte 40 (by decide), byte 48 (by decide), byte 56 (by decide)]
  rfl

/-- The words of a 128-bit register. -/
def M128A.words (value : M128A) : List UInt64 :=
  [value.low, value.high]

theorem pushM128_eq (out : List UInt8) (value : M128A) :
    pushM128 out value = out ++ value.words.flatMap wordToLeBytes := by
  simp [pushM128, pushU64_eq, M128A.words]

/-- A loop that pushes is a concatenation. -/
theorem foldl_push {α : Type*} {push : List UInt8 → α → List UInt8} {encode : α → List UInt8}
    (push_eq : ∀ out item, push out item = out ++ encode item) (items : List α)
    (out : List UInt8) : items.foldl push out = out ++ items.flatMap encode := by
  induction items generalizing out with
  | nil => simp
  | cons item items ih =>
      rw [List.foldl_cons, ih, push_eq, List.flatMap_cons, List.append_assoc]

/-! ## The words of a context -/

/-- The general registers, the flags and the segments. -/
def TtdX64Regs.generalWords (regs : TtdX64Regs) : List UInt64 :=
  [regs.rax, regs.rbx, regs.rcx, regs.rdx, regs.rsi, regs.rdi, regs.rbp, regs.rsp,
    regs.r8, regs.r9, regs.r10, regs.r11, regs.r12, regs.r13, regs.r14, regs.r15, regs.rip,
    regs.eFlags.toUInt64, regs.segCs.toUInt64, regs.segDs.toUInt64, regs.segEs.toUInt64,
    regs.segFs.toUInt64, regs.segGs.toUInt64, regs.segSs.toUInt64]

/-- The x87 and the XMM registers. -/
def XmmSaveArea.vectorWords (area : XmmSaveArea) : List UInt64 :=
  (area.floatRegisters.toList ++ area.xmmRegisters.toList).flatMap M128A.words

/-- The control fields of the FPU. -/
def XmmSaveArea.controlWords (area : XmmSaveArea) : List UInt64 :=
  [area.controlWord.toUInt64, area.statusWord.toUInt64, area.tagWord.toUInt64,
    area.errorOpcode.toUInt64, area.errorOffset.toUInt64, area.errorSelector.toUInt64,
    area.dataOffset.toUInt64, area.dataSelector.toUInt64, area.mxCsr.toUInt64]

/-- The words of a context in the order of the stream. -/
def TtdX64Regs.contextList (regs : TtdX64Regs) : List UInt64 :=
  regs.generalWords ++ regs.fltSave.vectorWords ++ regs.fltSave.controlWords

theorem length_m128Words (value : M128A) : value.words.length = 2 :=
  rfl

theorem XmmSaveArea.length_vectorWords (area : XmmSaveArea) : area.vectorWords.length = 48 := by
  rw [vectorWords, length_flatMap_uniform length_m128Words]
  simp

theorem TtdX64Regs.length_contextList (regs : TtdX64Regs) :
    regs.contextList.length = contextWords := by
  rw [contextList, List.length_append, List.length_append, XmmSaveArea.length_vectorWords]
  rfl

theorem getAmd64Context_eq (regs : TtdX64Regs) :
    getAmd64Context regs = regs.contextList.flatMap wordToLeBytes := by
  have vectors := foldl_push pushM128_eq
  simp only [getAmd64Context, vectors, pushU64_eq, List.foldl_cons, List.foldl_nil,
    TtdX64Regs.contextList, TtdX64Regs.generalWords, XmmSaveArea.vectorWords,
    XmmSaveArea.controlWords, List.flatMap_append, List.flatMap_cons, List.flatMap_nil,
    List.flatMap_assoc, List.append_assoc, List.append_nil, List.nil_append]

/-- The words are found at their places in the stream. -/
theorem contextWord_getAmd64Context (regs : TtdX64Regs) {index : Nat} {word : UInt64}
    (found : regs.contextList[index]? = some word) :
    contextWord (getAmd64Context regs) index = word := by
  rw [contextWord, getAmd64Context_eq, take_drop_flatMap length_wordToLeBytes _ found,
    wordFromLeBytes_wordToLeBytes]

theorem length_getAmd64Context (regs : TtdX64Regs) :
    (getAmd64Context regs).length = contextWords * 8 := by
  rw [getAmd64Context_eq, length_flatMap_uniform length_wordToLeBytes,
    regs.length_contextList, Nat.mul_comm]

/-- A stream of the right length is made of its words. -/
theorem flatMap_contextWord {bytes : List UInt8} (length : bytes.length = contextWords * 8) :
    ((List.range contextWords).map (contextWord bytes)).flatMap wordToLeBytes = bytes := by
  have blocks := flatMap_blocks (length.trans (Nat.mul_comm contextWords 8))
  conv_rhs => rw [← blocks]
  rw [List.flatMap_map]
  apply List.flatMap_congr
  intro index inside
  have bound := List.mem_range.mp inside
  have block : ((bytes.drop (8 * index)).take 8).length = 8 := by
    rw [List.length_take, List.length_drop, length]
    omega
  exact wordToLeBytes_wordFromLeBytes block

/-! ## Narrow words -/

@[simp]
theorem u16TryFrom_toUInt64 (value : UInt16) : u16TryFrom value.toUInt64 = some value := by
  rw [u16TryFrom, if_pos (by simpa using value.toNat_lt)]
  simp

@[simp]
theorem u8TryFrom_toUInt64 (value : UInt8) : u8TryFrom value.toUInt64 = some value := by
  rw [u8TryFrom, if_pos (by simpa using value.toNat_lt)]
  simp

theorem u32TryFrom_eq_some_iff {word : UInt64} {value : UInt32} :
    u32TryFrom word = some value ↔ value.toUInt64 = word := by
  constructor
  · intro narrowed
    rw [u32TryFrom] at narrowed
    split at narrowed
    case isTrue small =>
      cases narrowed
      apply UInt64.toNat_inj.mp
      rw [UInt32.toNat_toUInt64, UInt64.toNat_toUInt32, Nat.mod_eq_of_lt small]
    case isFalse => cases narrowed
  · rintro rfl
    exact u32TryFrom_toUInt64 value

theorem u16TryFrom_eq_some_iff {word : UInt64} {value : UInt16} :
    u16TryFrom word = some value ↔ value.toUInt64 = word := by
  constructor
  · intro narrowed
    rw [u16TryFrom] at narrowed
    split at narrowed
    case isTrue small =>
      cases narrowed
      apply UInt64.toNat_inj.mp
      rw [UInt16.toNat_toUInt64, UInt64.toNat_toUInt16, Nat.mod_eq_of_lt small]
    case isFalse => cases narrowed
  · rintro rfl
    exact u16TryFrom_toUInt64 value

theorem u8TryFrom_eq_some_iff {word : UInt64} {value : UInt8} :
    u8TryFrom word = some value ↔ value.toUInt64 = word := by
  constructor
  · intro narrowed
    rw [u8TryFrom] at narrowed
    split at narrowed
    case isTrue small =>
      cases narrowed
      apply UInt64.toNat_inj.mp
      rw [UInt8.toNat_toUInt64, UInt64.toNat_toUInt8, Nat.mod_eq_of_lt small]
    case isFalse => cases narrowed
  · rintro rfl
    exact u8TryFrom_toUInt64 value

/-- The words that are narrowed, with the widths of their fields in bits. -/
def narrowWords : List (Nat × Nat) :=
  [(17, 32), (18, 16), (19, 16), (20, 16), (21, 16), (22, 16), (23, 16), (72, 16), (73, 16),
    (74, 8), (75, 16), (76, 32), (77, 16), (78, 32), (79, 16), (80, 32)]

/-- Each narrow word of the stream fits its field. -/
def Narrow (bytes : List UInt8) : Prop :=
  ∀ field ∈ narrowWords, (contextWord bytes field.1).toNat < 2 ^ field.2

/-! ## The decoder -/

/-- Registers read one after the other have consecutive words. -/
theorem words_contextM128 (bytes : List UInt8) (first count : Nat) :
    (List.ofFn fun i : Fin count => contextM128 bytes (first + 2 * i.val)).flatMap M128A.words =
      (List.range' first (2 * count)).map (contextWord bytes) := by
  induction count generalizing first with
  | zero => rfl
  | succ count ih =>
      have rest := ih (first + 2)
      have shift (i : Fin count) : first + 2 * (i.val + 1) = first + 2 + 2 * i.val := by omega
      rw [List.ofFn_succ, List.flatMap_cons, Nat.mul_succ]
      simp only [Fin.val_succ, shift, rest]
      rfl

/-- What the decoder returns has the words of the stream. -/
theorem contextList_of_decode {bytes : List UInt8} {regs : TtdX64Regs}
    (decoded : decodeAmd64Context bytes = some regs) :
    bytes.length = contextWords * 8 ∧
      regs.contextList = (List.range contextWords).map (contextWord bytes) := by
  rw [decodeAmd64Context] at decoded
  split at decoded
  case isTrue => cases decoded
  case isFalse length =>
    refine ⟨not_not.mp length, ?_⟩
    obtain ⟨eFlags, eFlagsWord, decoded⟩ := Option.bind_eq_some_iff.mp decoded
    obtain ⟨segCs, segCsWord, decoded⟩ := Option.bind_eq_some_iff.mp decoded
    obtain ⟨segDs, segDsWord, decoded⟩ := Option.bind_eq_some_iff.mp decoded
    obtain ⟨segEs, segEsWord, decoded⟩ := Option.bind_eq_some_iff.mp decoded
    obtain ⟨segFs, segFsWord, decoded⟩ := Option.bind_eq_some_iff.mp decoded
    obtain ⟨segGs, segGsWord, decoded⟩ := Option.bind_eq_some_iff.mp decoded
    obtain ⟨segSs, segSsWord, decoded⟩ := Option.bind_eq_some_iff.mp decoded
    obtain ⟨controlWord, controlWordWord, decoded⟩ := Option.bind_eq_some_iff.mp decoded
    obtain ⟨statusWord, statusWordWord, decoded⟩ := Option.bind_eq_some_iff.mp decoded
    obtain ⟨tagWord, tagWordWord, decoded⟩ := Option.bind_eq_some_iff.mp decoded
    obtain ⟨errorOpcode, errorOpcodeWord, decoded⟩ := Option.bind_eq_some_iff.mp decoded
    obtain ⟨errorOffset, errorOffsetWord, decoded⟩ := Option.bind_eq_some_iff.mp decoded
    obtain ⟨errorSelector, errorSelectorWord, decoded⟩ := Option.bind_eq_some_iff.mp decoded
    obtain ⟨dataOffset, dataOffsetWord, decoded⟩ := Option.bind_eq_some_iff.mp decoded
    obtain ⟨dataSelector, dataSelectorWord, decoded⟩ := Option.bind_eq_some_iff.mp decoded
    obtain ⟨mxCsr, mxCsrWord, decoded⟩ := Option.bind_eq_some_iff.mp decoded
    cases decoded
    simp only [u32TryFrom_eq_some_iff, u16TryFrom_eq_some_iff, u8TryFrom_eq_some_iff] at *
    have order : List.range contextWords =
        List.range' 0 24 ++ (List.range' 24 16 ++ List.range' 40 32) ++ List.range' 72 9 := by
      decide
    have floats := words_contextM128 bytes 24 8
    have xmms := words_contextM128 bytes 40 16
    simp only [TtdX64Regs.contextList, XmmSaveArea.vectorWords, Vector.toList_ofFn,
      List.flatMap_append, floats, xmms, order, List.map_append]
    congr 2
    · simp only [TtdX64Regs.generalWords, *]
      rfl
    · simp only [XmmSaveArea.controlWords, *]
      rfl

/-- The decoder succeeds as soon as the length and the narrow words are right. -/
theorem exists_decode_of_narrow {bytes : List UInt8} (length : bytes.length = contextWords * 8)
    (narrow : Narrow bytes) : ∃ regs, decodeAmd64Context bytes = some regs := by
  simp only [Narrow, narrowWords, List.forall_mem_cons] at narrow
  obtain ⟨eFlags, segCs, segDs, segEs, segFs, segGs, segSs, controlWord, statusWord, tagWord,
    errorOpcode, errorOffset, errorSelector, dataOffset, dataSelector, mxCsr, -⟩ := narrow
  apply Option.isSome_iff_exists.mp
  rw [decodeAmd64Context, if_neg (not_not.mpr length)]
  simp only [u32TryFrom, u16TryFrom, u8TryFrom, eFlags, segCs, segDs, segEs, segFs, segGs, segSs,
    controlWord, statusWord, tagWord, errorOpcode, errorOffset, errorSelector, dataOffset,
    dataSelector, mxCsr, if_true, Option.bind_eq_bind, Option.bind_some]
  rfl

/-- The words of a context fit the fields they come from. -/
theorem narrow_contextList (regs : TtdX64Regs) :
    ∀ field ∈ narrowWords,
      ∃ word, regs.contextList[field.1]? = some word ∧ word.toNat < 2 ^ field.2 := by
  have control (index : Nat) :
      regs.contextList[72 + index]? = regs.fltSave.controlWords[index]? := by
    have before : (regs.generalWords ++ regs.fltSave.vectorWords).length = 72 := by
      rw [List.length_append, regs.fltSave.length_vectorWords]
      rfl
    rw [TtdX64Regs.contextList, List.getElem?_append_right (by omega), before,
      Nat.add_sub_cancel_left]
  have byte (value : UInt8) : value.toUInt64.toNat < 2 ^ 8 := by simpa using value.toNat_lt
  have half (value : UInt16) : value.toUInt64.toNat < 2 ^ 16 := by simpa using value.toNat_lt
  have word (value : UInt32) : value.toUInt64.toNat < 2 ^ 32 := by simpa using value.toNat_lt
  simp only [narrowWords, List.forall_mem_cons]
  exact ⟨⟨_, rfl, word _⟩, ⟨_, rfl, half _⟩, ⟨_, rfl, half _⟩, ⟨_, rfl, half _⟩,
    ⟨_, rfl, half _⟩, ⟨_, rfl, half _⟩, ⟨_, rfl, half _⟩, ⟨_, control 0, half _⟩,
    ⟨_, control 1, half _⟩, ⟨_, control 2, byte _⟩, ⟨_, control 3, half _⟩,
    ⟨_, control 4, word _⟩, ⟨_, control 5, half _⟩, ⟨_, control 6, word _⟩,
    ⟨_, control 7, half _⟩, ⟨_, control 8, word _⟩, fun _ none => nomatch none⟩

theorem narrow_of_decode {bytes : List UInt8} {regs : TtdX64Regs}
    (decoded : decodeAmd64Context bytes = some regs) : Narrow bytes := by
  intro field narrow
  obtain ⟨word, found, small⟩ := narrow_contextList regs field narrow
  have inside : field.1 < contextWords := by
    rw [← regs.length_contextList]
    exact (List.getElem?_eq_some_iff.mp found).1
  rw [(contextList_of_decode decoded).2, List.getElem?_map, List.getElem?_range inside] at found
  cases found
  exact small

theorem M128A.flatMap_words_injective {first second : List M128A}
    (same : first.flatMap words = second.flatMap words) : first = second := by
  induction first generalizing second with
  | nil =>
      cases second with
      | nil => rfl
      | cons => cases same
  | cons value first ih =>
      cases second with
      | nil => cases same
      | cons value' second =>
          obtain ⟨low, high, rest⟩ : value.low = value'.low ∧ value.high = value'.high ∧
              first.flatMap words = second.flatMap words := by
            simpa [words] using same
          cases value
          cases value'
          cases low
          cases high
          rw [ih rest]

theorem XmmSaveArea.eq_of_words {area area' : XmmSaveArea}
    (control : area.controlWords = area'.controlWords)
    (vectors : area.vectorWords = area'.vectorWords) : area = area' := by
  obtain ⟨floats, xmms⟩ := List.append_inj (M128A.flatMap_words_injective vectors) (by simp)
  replace floats := Vector.toList_inj.mp floats
  replace xmms := Vector.toList_inj.mp xmms
  simp only [controlWords, List.cons.injEq, UInt32.toUInt64_inj, UInt16.toUInt64_inj,
    UInt8.toUInt64_inj] at control
  obtain ⟨⟩ := area
  obtain ⟨⟩ := area'
  obtain ⟨rfl, rfl, rfl, rfl, rfl, rfl, rfl, rfl, rfl, -⟩ := control
  obtain rfl := floats
  obtain rfl := xmms
  rfl

/-- The stream tells contexts apart. -/
theorem TtdX64Regs.contextList_injective {regs regs' : TtdX64Regs}
    (same : regs.contextList = regs'.contextList) : regs = regs' := by
  obtain ⟨front, control⟩ := List.append_inj' same rfl
  obtain ⟨general, vectors⟩ := List.append_inj front rfl
  have area := XmmSaveArea.eq_of_words control vectors
  simp only [generalWords, List.cons.injEq, UInt32.toUInt64_inj, UInt16.toUInt64_inj] at general
  obtain ⟨⟩ := regs
  obtain ⟨⟩ := regs'
  obtain ⟨rfl, rfl, rfl, rfl, rfl, rfl, rfl, rfl, rfl, rfl, rfl, rfl, rfl, rfl, rfl, rfl, rfl,
    rfl, rfl, rfl, rfl, rfl, rfl, rfl, -⟩ := general
  obtain rfl := area
  rfl

/-! ## The codec -/

theorem contextList_eq_map (regs : TtdX64Regs) :
    regs.contextList = (List.range contextWords).map (contextWord (getAmd64Context regs)) := by
  apply List.ext_getElem
  · rw [regs.length_contextList, List.length_map, List.length_range]
  · intro index inside _
    rw [List.getElem_map, List.getElem_range]
    exact (contextWord_getAmd64Context regs (List.getElem?_eq_getElem inside)).symm

theorem narrow_getAmd64Context (regs : TtdX64Regs) : Narrow (getAmd64Context regs) := by
  intro field narrow
  obtain ⟨word, found, small⟩ := narrow_contextList regs field narrow
  rwa [contextWord_getAmd64Context regs found]

theorem decode_getAmd64Context (regs : TtdX64Regs) :
    decodeAmd64Context (getAmd64Context regs) = some regs := by
  obtain ⟨regs', decoded⟩ := exists_decode_of_narrow (length_getAmd64Context regs)
    (narrow_getAmd64Context regs)
  have same : regs'.contextList = regs.contextList := by
    rw [(contextList_of_decode decoded).2, ← contextList_eq_map]
  rw [decoded, TtdX64Regs.contextList_injective same]

theorem getAmd64Context_of_decode {bytes : List UInt8} {regs : TtdX64Regs}
    (decoded : decodeAmd64Context bytes = some regs) : getAmd64Context regs = bytes := by
  obtain ⟨length, words⟩ := contextList_of_decode decoded
  rw [getAmd64Context_eq, words, flatMap_contextWord length]

/-- The decoder reads every context back, accepts exactly the streams of the
right length whose narrow words fit their fields, and loses nothing of those. -/
theorem contextCodec :
    (∀ regs, decodeAmd64Context (getAmd64Context regs) = some regs) ∧
    ∀ bytes,
      ((∃ regs, decodeAmd64Context bytes = some regs) ↔ bytes.length = 648 ∧ Narrow bytes) ∧
      ∀ regs, decodeAmd64Context bytes = some regs → getAmd64Context regs = bytes := by
  refine ⟨decode_getAmd64Context, fun bytes => ⟨⟨?_, ?_⟩, fun regs => ?_⟩⟩
  · rintro ⟨regs, decoded⟩
    exact ⟨(contextList_of_decode decoded).1, narrow_of_decode decoded⟩
  · rintro ⟨length, narrow⟩
    exact exists_decode_of_narrow length narrow
  · exact getAmd64Context_of_decode

end TtdGdbserver.Ttd
