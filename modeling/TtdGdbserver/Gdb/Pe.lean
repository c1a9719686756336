import TtdGdbserver.Bytes.LittleEndian

/-!
# The text section of a PE image

The scan of a section table returns at the first section whose name begins
with `.text`, and remembers the first executable one in case there is none.
Sections without a size or an address are skipped.
-/

namespace TtdGdbserver.Gdb

open TtdGdbserver.Bytes

/-- Length of the DOS header. -/
def dosHeaderLen : Nat := 64

/-- `PE\0\0`. -/
def peSignature : List UInt8 := [0x50, 0x45, 0, 0]

/-- Length of the COFF header. -/
def coffHeaderLen : Nat := 20

/-- Length of a section header. -/
def sectionHeaderLen : Nat := 40

/-- No image has more sections than the loader accepts. -/
def maxSections : Nat := 96

/-- Upper bound on the size of the optional header. -/
def maxOptionalHeader : Nat := 0x1000

/-- The flag of an executable section. -/
def imageScnMemExecute : UInt32 := 0x20000000

/-- The bytes `.text`. -/
def textName : List UInt8 := [0x2e, 0x74, 0x65, 0x78, 0x74]

/-! ## The reader -/

/-- `bytes.get(start..finish)`. -/
def getRange (bytes : List UInt8) (start finish : Nat) : Option (List UInt8) :=
  if start ≤ finish ∧ finish ≤ bytes.length then some ((bytes.drop start).take (finish - start))
  else none

/-- A little-endian 16-bit field. -/
def readU16 (bytes : List UInt8) (offset : Nat) : Option UInt16 := do
  let raw ← getRange bytes offset (offset + 2)
  return UInt16.ofNat (ofLeBytes raw)

/-- A little-endian 32-bit field. -/
def readU32 (bytes : List UInt8) (offset : Nat) : Option UInt32 := do
  let raw ← getRange bytes offset (offset + 4)
  return UInt32.ofNat (ofLeBytes raw)

/-- What the scan reads of one section header. -/
structure SectionHeader where
  name : List UInt8
  virtualSize : UInt32
  virtualAddress : UInt32
  characteristics : UInt32
  deriving DecidableEq, Repr

/-- The fields of a section header. -/
def readSection (header : List UInt8) : Option SectionHeader := do
  let name := header.take 8
  let virtualSize ← readU32 header 8
  let virtualAddress ← readU32 header 12
  let characteristics ← readU32 header 36
  return ⟨name, virtualSize, virtualAddress, characteristics⟩

/-- The section with this index in the table. -/
def sectionAt (table : List UInt8) (index : Nat) : Option SectionHeader := do
  let base := index * sectionHeaderLen
  let header ← getRange table base (base + sectionHeaderLen)
  readSection header

/-- The loop over the section headers; `executable` is the fallback so far. -/
def scanSections (table : List UInt8) : (indices : List Nat) → (executable : Option UInt32) →
    Option UInt32
  | [], executable => executable
  | index :: rest, executable => do
      let entry ← sectionAt table index
      if entry.virtualSize = 0 ∨ entry.virtualAddress = 0 then
        scanSections table rest executable
      else if textName.isPrefixOf entry.name then
        some entry.virtualAddress
      else if executable.isNone ∧ entry.characteristics &&& imageScnMemExecute ≠ 0 then
        scanSections table rest (some entry.virtualAddress)
      else
        scanSections table rest executable

/-- Parse section headers from an already-read table. -/
def textRvaFromSectionTable (table : List UInt8) (sectionCount : Nat) : Option UInt32 :=
  scanSections table (List.range sectionCount) none

/-- `read_exact` after a seek to `offset`. -/
def readExact (file : List UInt8) (offset length : Nat) : Option (List UInt8) :=
  getRange file offset (offset + length)

/-- The `.text` section RVA of a file, `none` for one that cannot be opened. -/
def textRva (file : Option (List UInt8)) : Option UInt32 := do
  let file ← file
  let dos ← readExact file 0 dosHeaderLen
  let peOffset := (← readU32 dos 0x3c).toNat
  let header ← readExact file peOffset (peSignature.length + coffHeaderLen)
  if header.take 4 ≠ peSignature then none
  else
    let coff := 4
    let sectionCount := (← readU16 header (coff + 2)).toNat
    let optionalSize := (← readU16 header (coff + 16)).toNat
    if sectionCount = 0 ∨ sectionCount > maxSections ∨ optionalSize > maxOptionalHeader then none
    else
      let tableOffset := peOffset + (peSignature.length + coffHeaderLen + optionalSize)
      let table ← readExact file tableOffset (sectionCount * sectionHeaderLen)
      textRvaFromSectionTable table sectionCount

/-! ## Complete tables -/

/-- A table that holds as many headers as it is said to. -/
structure SectionTable where
  bytes : List UInt8
  count : Nat
  complete : count * sectionHeaderLen ≤ bytes.length
  few : count ≤ maxSections

/-- The headers of a table. -/
def SectionTable.sections (table : SectionTable) : List SectionHeader :=
  (List.range table.count).filterMap (sectionAt table.bytes)

theorem length_of_getRange {bytes part : List UInt8} {start finish : Nat}
    (read : getRange bytes start finish = some part) : part.length = finish - start := by
  unfold getRange at read
  split at read
  · cases read
    rw [List.length_take, List.length_drop]
    omega
  · contradiction

theorem exists_getRange {bytes : List UInt8} {start finish : Nat} (ordered : start ≤ finish)
    (inside : finish ≤ bytes.length) :
    ∃ part, getRange bytes start finish = some part ∧ part.length = finish - start := by
  have read : getRange bytes start finish =
      some ((bytes.drop start).take (finish - start)) := if_pos ⟨ordered, inside⟩
  exact ⟨_, read, length_of_getRange read⟩

theorem exists_readU32 {bytes : List UInt8} {offset : Nat}
    (inside : offset + 4 ≤ bytes.length) : ∃ value, readU32 bytes offset = some value := by
  obtain ⟨raw, read, _⟩ := exists_getRange (Nat.le_add_right offset 4) inside
  exact ⟨UInt32.ofNat (ofLeBytes raw), by simp [readU32, read]⟩

/-- Every header of a complete table can be read. -/
theorem SectionTable.exists_sectionAt (table : SectionTable) {index : Nat}
    (inside : index < table.count) : ∃ entry, sectionAt table.bytes index = some entry := by
  have complete := table.complete
  have last : index * sectionHeaderLen + sectionHeaderLen ≤ table.count * sectionHeaderLen := by
    rw [← Nat.succ_mul]
    exact Nat.mul_le_mul_right _ inside
  obtain ⟨header, read, length⟩ :=
    exists_getRange (Nat.le_add_right (index * sectionHeaderLen) sectionHeaderLen)
      (last.trans complete)
  have width : header.length = 40 := by
    rw [length, Nat.add_sub_cancel_left]
    rfl
  obtain ⟨virtualSize, sizeRead⟩ := exists_readU32 (show 8 + 4 ≤ header.length by omega)
  obtain ⟨virtualAddress, addressRead⟩ := exists_readU32 (show 12 + 4 ≤ header.length by omega)
  obtain ⟨characteristics, flagsRead⟩ := exists_readU32 (show 36 + 4 ≤ header.length by omega)
  exact ⟨⟨header.take 8, virtualSize, virtualAddress, characteristics⟩,
    by simp [sectionAt, readSection, read, sizeRead, addressRead, flagsRead]⟩

/-! ## What the scan picks -/

namespace SectionHeader

/-- Neither size nor address is zero. -/
def occupied (entry : SectionHeader) : Bool :=
  entry.virtualSize != 0 && entry.virtualAddress != 0

/-- The section's name starts with `.text`. -/
def beginsWithText (entry : SectionHeader) : Bool :=
  textName.isPrefixOf entry.name

/-- The name is `.text`, padded with NULs. -/
def isText (entry : SectionHeader) : Bool :=
  entry.name == textName ++ [0, 0, 0]

/-- The section is mapped executable. -/
def isExecutable (entry : SectionHeader) : Bool :=
  entry.characteristics &&& imageScnMemExecute != 0

theorem beginsWithText_of_isText {entry : SectionHeader} (text : entry.isText = true) :
    entry.beginsWithText = true := by
  have name : entry.name = textName ++ [0, 0, 0] := by simpa [isText] using text
  rw [beginsWithText, name]
  rfl

end SectionHeader

/-- The first occupied header with a property. -/
def firstOccupied (p : SectionHeader → Bool) (sections : List SectionHeader) :
    Option SectionHeader :=
  sections.find? fun entry => entry.occupied && p entry

theorem firstOccupied_cons (p : SectionHeader → Bool) (entry : SectionHeader)
    (rest : List SectionHeader) :
    firstOccupied p (entry :: rest) =
      if entry.occupied && p entry then some entry else firstOccupied p rest := by
  rw [firstOccupied, List.find?_cons]
  cases entry.occupied && p entry <;> rfl

/-- Where the scan ends: at the first section that begins with `.text`, else at
the fallback it came with, else at the first executable section. -/
def picked (executable : Option UInt32) (sections : List SectionHeader) : Option UInt32 :=
  ((firstOccupied SectionHeader.beginsWithText sections).map SectionHeader.virtualAddress).or
    (executable.or
      ((firstOccupied SectionHeader.isExecutable sections).map SectionHeader.virtualAddress))

/-- One turn of the loop, in the words of the header's properties. -/
theorem scanSections_cons {bytes : List UInt8} {index : Nat} {entry : SectionHeader}
    (read : sectionAt bytes index = some entry) (rest : List Nat) (executable : Option UInt32) :
    scanSections bytes (index :: rest) executable =
      if entry.occupied = false then scanSections bytes rest executable
      else if entry.beginsWithText then some entry.virtualAddress
      else scanSections bytes rest
        (executable.or (if entry.isExecutable then some entry.virtualAddress else none)) := by
  have skipped : (entry.virtualSize = 0 ∨ entry.virtualAddress = 0) ↔
      entry.occupied = false := by
    rw [SectionHeader.occupied, Bool.and_eq_false_iff, bne_eq_false_iff_eq, bne_eq_false_iff_eq]
  have flagged : entry.characteristics &&& imageScnMemExecute ≠ 0 ↔
      entry.isExecutable = true := bne_iff_ne.symm
  simp only [scanSections, read, Option.bind_eq_bind, Option.bind_some, skipped, flagged,
    SectionHeader.beginsWithText]
  cases executable <;> cases entry.isExecutable <;> rfl

theorem scanSections_eq_picked {bytes : List UInt8} {indices : List Nat}
    (readable : ∀ index ∈ indices, ∃ entry, sectionAt bytes index = some entry)
    (executable : Option UInt32) :
    scanSections bytes indices executable =
      picked executable (indices.filterMap (sectionAt bytes)) := by
  induction indices generalizing executable with
  | nil => cases executable <;> rfl
  | cons index rest ih =>
      obtain ⟨entry, read⟩ := readable index (List.mem_cons_self ..)
      have later := ih fun index mem => readable index (List.mem_cons_of_mem _ mem)
      rw [List.filterMap_cons_some read, scanSections_cons read]
      simp only [later, picked, firstOccupied_cons]
      cases entry.occupied with
      | false => simp
      | true =>
          cases entry.beginsWithText <;> cases entry.isExecutable <;> cases executable <;> simp

theorem SectionTable.textRva_eq_picked (table : SectionTable) :
    textRvaFromSectionTable table.bytes table.count = picked none table.sections :=
  scanSections_eq_picked
    (fun _ mem => table.exists_sectionAt (List.mem_range.mp mem)) none

/-! ## Finding `.text` -/

/-- The lookup's purpose: the address of the first occupied section named
`.text`; where no name so much as begins with that, the address of the first
occupied executable section, if there is one. -/
structure FindsText (sections : List SectionHeader) (result : Option UInt32) : Prop where
  text : ∀ entry, firstOccupied SectionHeader.isText sections = some entry →
    result = some entry.virtualAddress
  fallback : (∀ entry ∈ sections, entry.beginsWithText = false) →
    result =
      (firstOccupied SectionHeader.isExecutable sections).map SectionHeader.virtualAddress

/-- An occupied section whose name merely begins with `.text` stands before the
first occupied `.text`, with another address, and is the first of its kind. -/
def Shadowed (sections : List SectionHeader) : Prop :=
  ∃ before shadow between text after,
    sections = before ++ shadow :: (between ++ text :: after) ∧
      (∀ entry ∈ before, (entry.occupied && entry.beginsWithText) = false) ∧
      (shadow.occupied && shadow.beginsWithText) = true ∧ shadow.isText = false ∧
      (∀ entry ∈ between, (entry.occupied && entry.isText) = false) ∧
      (text.occupied && text.isText) = true ∧
      shadow.virtualAddress ≠ text.virtualAddress

theorem firstOccupied_eq_some_iff (p : SectionHeader → Bool) (sections : List SectionHeader)
    (entry : SectionHeader) :
    firstOccupied p sections = some entry ↔
      (entry.occupied && p entry) = true ∧
        ∃ before after, sections = before ++ entry :: after ∧
          ∀ earlier ∈ before, (earlier.occupied && p earlier) = false := by
  rw [firstOccupied, List.find?_eq_some_iff_append]
  simp only [Bool.not_eq_true']

/-- Where there is a `.text`, the first name that begins so is no later. -/
theorem exists_beginsWithText {sections : List SectionHeader} {text : SectionHeader}
    (found : firstOccupied SectionHeader.isText sections = some text) :
    ∃ first, firstOccupied SectionHeader.beginsWithText sections = some first := by
  obtain ⟨holds, before, after, split, _⟩ := (firstOccupied_eq_some_iff _ _ _).mp found
  rw [Bool.and_eq_true] at holds
  have mem : text ∈ sections := by simp [split]
  rw [← Option.isSome_iff_exists, firstOccupied, List.find?_isSome]
  exact ⟨text, mem, by
    rw [holds.1, SectionHeader.beginsWithText_of_isText holds.2]
    rfl⟩

theorem occupied_isText_eq_false {entry : SectionHeader}
    (other : (entry.occupied && entry.beginsWithText) = false) :
    (entry.occupied && entry.isText) = false := by
  cases text : entry.isText with
  | false => exact Bool.and_false _
  | true =>
      rw [SectionHeader.beginsWithText_of_isText text] at other
      exact other

/-- A search can start after a section it does not stop at. -/
theorem firstOccupied_append_cons {p : SectionHeader → Bool} {before : List SectionHeader}
    {entry : SectionHeader} (rest : List SectionHeader)
    (quiet : ∀ earlier ∈ before, (earlier.occupied && p earlier) = false)
    (passed : (entry.occupied && p entry) = false) :
    firstOccupied p (before ++ entry :: rest) = firstOccupied p rest := by
  have nothing : before.find? (fun entry => entry.occupied && p entry) = none := by
    rw [List.find?_eq_none]
    intro earlier mem
    simp [quiet earlier mem]
  rw [firstOccupied, List.find?_append, nothing, Option.none_or,
    List.find?_cons_of_neg (by simp [passed]), firstOccupied]

theorem shadowed_iff (sections : List SectionHeader) :
    Shadowed sections ↔
      ∃ shadow text, firstOccupied SectionHeader.beginsWithText sections = some shadow ∧
        firstOccupied SectionHeader.isText sections = some text ∧
        shadow.virtualAddress ≠ text.virtualAddress := by
  constructor
  · rintro ⟨before, shadow, between, text, after, split, quiet, shadows, other, quieter, named,
      distinct⟩
    refine ⟨shadow, text, ?_, ?_, distinct⟩
    · exact (firstOccupied_eq_some_iff _ _ _).mpr ⟨shadows, before, _, split, quiet⟩
    · rw [split, firstOccupied_append_cons _
        (fun earlier mem => occupied_isText_eq_false (quiet earlier mem))
        (by rw [other, Bool.and_false])]
      exact (firstOccupied_eq_some_iff _ _ _).mpr ⟨named, between, after, rfl, quieter⟩
  · rintro ⟨shadow, text, first, found, distinct⟩
    obtain ⟨shadows, before, rest, split, quiet⟩ := (firstOccupied_eq_some_iff _ _ _).mp first
    have unnamed : ∀ earlier ∈ before, (earlier.occupied && earlier.isText) = false :=
      fun earlier mem => occupied_isText_eq_false (quiet earlier mem)
    have other : shadow.isText = false := by
      -- a first header named `.text` in full would be `text` itself
      by_contra full
      rw [Bool.not_eq_false] at full
      rw [Bool.and_eq_true] at shadows
      have itself : firstOccupied SectionHeader.isText sections = some shadow :=
        (firstOccupied_eq_some_iff _ _ _).mpr
          ⟨by rw [shadows.1, full]; rfl, before, rest, split, unnamed⟩
      rw [itself] at found
      cases found
      exact distinct rfl
    rw [split, firstOccupied_append_cons rest unnamed (by rw [other, Bool.and_false])] at found
    obtain ⟨named, between, after, restSplit, quieter⟩ :=
      (firstOccupied_eq_some_iff _ _ _).mp found
    exact ⟨before, shadow, between, text, after, restSplit ▸ split, quiet, shadows, other,
      quieter, named, distinct⟩

/-- The scan serves its purpose on exactly the tables in which `.text` is not
shadowed. -/
theorem textRvaFromSectionTable_findsText_iff (table : SectionTable) :
    FindsText table.sections (textRvaFromSectionTable table.bytes table.count) ↔
      ¬ Shadowed table.sections := by
  rw [table.textRva_eq_picked, shadowed_iff]
  constructor
  · rintro finds ⟨shadow, text, first, found, distinct⟩
    have result := finds.text text found
    rw [picked, first] at result
    exact distinct (Option.some.inj result)
  · intro unshadowed
    refine ⟨?_, ?_⟩
    · intro text found
      obtain ⟨first, begins⟩ := exists_beginsWithText found
      rw [picked, begins, Option.map_some, Option.some_or]
      by_contra distinct
      exact unshadowed ⟨first, text, begins, found, fun same => distinct (congrArg some same)⟩
    · intro nameless
      have nothing : firstOccupied SectionHeader.beginsWithText table.sections = none := by
        rw [firstOccupied, List.find?_eq_none]
        intro entry mem
        simp [nameless entry mem]
      rw [picked, nothing]
      rfl

/-- A section of 0x1000 bytes. -/
def sectionBytes (name : List UInt8) (virtualAddress characteristics : Nat) : List UInt8 :=
  name ++ leBytes 4 0x1000 ++ leBytes 4 virtualAddress ++ List.replicate 20 0 ++
    leBytes 4 characteristics

/-- An image linked for incremental linking: `.textbss` before `.text`. -/
def incrementalTable : SectionTable where
  bytes := sectionBytes (textName ++ [0x62, 0x73, 0x73]) 0x1000 0xe00000a0 ++
    sectionBytes (textName ++ [0, 0, 0]) 0x11000 0x60000020
  count := 2
  complete := by decide
  few := by decide

/-- The scan takes `.textbss` for `.text`. -/
theorem incrementalTable_not_findsText :
    (firstOccupied SectionHeader.isText incrementalTable.sections).map
        SectionHeader.virtualAddress = some 0x11000 ∧
      textRvaFromSectionTable incrementalTable.bytes incrementalTable.count = some 0x1000 ∧
      ¬ FindsText incrementalTable.sections
        (textRvaFromSectionTable incrementalTable.bytes incrementalTable.count) := by
  have located : (firstOccupied SectionHeader.isText incrementalTable.sections).map
      SectionHeader.virtualAddress = some 0x11000 := by decide +kernel
  have result : textRvaFromSectionTable incrementalTable.bytes incrementalTable.count =
      some 0x1000 := by decide +kernel
  refine ⟨located, result, fun finds => ?_⟩
  obtain ⟨text, found, address⟩ := Option.map_eq_some_iff.mp located
  have claimed := finds.text text found
  rw [result, address] at claimed
  exact absurd claimed (by decide)

/-! ## Files -/

/-- The table that a file's lookup goes through is a complete one. -/
theorem exists_table_of_textRva {file : Option (List UInt8)} {rva : UInt32}
    (located : textRva file = some rva) :
    ∃ table : SectionTable, textRvaFromSectionTable table.bytes table.count = some rva := by
  simp only [textRva, Option.bind_eq_bind, Option.bind_eq_some_iff] at located
  obtain ⟨file, _, dos, _, peOffset, _, header, _, located⟩ := located
  split at located
  · contradiction
  · simp only [Option.bind_eq_some_iff] at located
    obtain ⟨sectionCount, _, optionalSize, _, located⟩ := located
    split at located
    · contradiction
    · rename_i accepted
      obtain ⟨bytes, read, located⟩ := Option.bind_eq_some_iff.mp located
      have length := length_of_getRange read
      rw [Nat.add_sub_cancel_left] at length
      have few : sectionCount.toNat ≤ maxSections := by omega
      exact ⟨⟨bytes, sectionCount.toNat, length.ge, few⟩, located⟩

end TtdGdbserver.Gdb
