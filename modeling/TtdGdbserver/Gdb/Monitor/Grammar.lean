import TtdGdbserver.Gdb.Monitor.Reading

/-!
# What a monitor command asks for

An address is hexadecimal with at most one prefix, a length is decimal and
small.  A command reads memory only if it names both; and a module is looked up
in ranges that do not wrap.
-/

namespace TtdGdbserver.Gdb.Monitor

open TtdGdbserver.Target TtdGdbserver.Text TtdGdbserver.Ttd

/-! ## Arguments -/

/-- The texts that name an address. -/
def Address (text : Text) (addr : UInt64) : Prop :=
  ∃ digits, (text = digits ∨ text = '0' :: 'x' :: digits ∨ text = '0' :: 'X' :: digits) ∧
    ReadsAs 16 digits addr

/-- The length arguments of a dump. -/
def Length (arg : Option Text) (len : Nat) : Prop :=
  (arg = none ∧ len = 16) ∨
    ∃ text value, arg = some text ∧ ReadsAs 10 text value ∧ value.toNat = len ∧
      0 < len ∧ len ≤ 256

/-- No `x` is a digit, so that the prefix is told from the number. -/
theorem ReadsAs.not_prefixed {text digits : Text} {addr : UInt64} (reads : ReadsAs 16 text addr)
    {letter : Char} (isLetter : letter = 'x' ∨ letter = 'X') :
    text ≠ '0' :: letter :: digits := by
  have absent : letter ∉ text := by
    rcases isLetter with rfl | rfl
    · exact reads.not_mem (by decide) (by decide)
    · exact reads.not_mem (by decide) (by decide)
  rintro rfl
  exact absent (by simp)

theorem parseHex_eq_some_iff (text : Text) (addr : UInt64) :
    parseHex text = some addr ↔ Address text addr := by
  unfold parseHex
  split
  case h_1 hex =>
    rw [fromStrRadix_eq_some_iff (by decide)]
    constructor
    · intro reads
      exact ⟨hex, .inr (.inl rfl), reads⟩
    · rintro ⟨digits, form | form | form, reads⟩
      · exact absurd form.symm (ReadsAs.not_prefixed reads (.inl rfl))
      · cases form
        exact reads
      · exact absurd (List.cons.inj (List.cons.inj form).2).1 (by decide)
  case h_2 hex =>
    rw [fromStrRadix_eq_some_iff (by decide)]
    constructor
    · intro reads
      exact ⟨hex, .inr (.inr rfl), reads⟩
    · rintro ⟨digits, form | form | form, reads⟩
      · exact absurd form.symm (ReadsAs.not_prefixed reads (.inr rfl))
      · exact absurd (List.cons.inj (List.cons.inj form).2).1 (by decide)
      · cases form
        exact reads
  case h_3 lower upper =>
    rw [fromStrRadix_eq_some_iff (by decide)]
    constructor
    · intro reads
      exact ⟨text, .inl rfl, reads⟩
    · rintro ⟨digits, form | form | form, reads⟩
      · exact form ▸ reads
      · exact absurd form (lower digits)
      · exact absurd form (upper digits)

theorem memLen_eq_some_iff (arg : Option Text) (len : Nat) :
    memLen arg = some len ↔ Length arg len := by
  cases arg with
  | none => simp [memLen, Length, defaultMemLen, eq_comm]
  | some text =>
      constructor
      · intro asked
        obtain ⟨parsed, bounds⟩ := Option.filter_eq_some_iff.mp asked
        obtain ⟨value, read, rfl⟩ := Option.map_eq_some_iff.mp parsed
        obtain ⟨positive, small⟩ := of_decide_eq_true bounds
        exact .inr ⟨text, value, rfl, (fromStrRadix_eq_some_iff (by decide) _ _).mp read, rfl,
          positive, small⟩
      · rintro (⟨missing, -⟩ | ⟨_, value, same, reads, rfl, positive, small⟩)
        · contradiction
        · cases same
          have read := (fromStrRadix_eq_some_iff (by decide) _ _).mpr reads
          have bounds : 0 < value.toNat ∧ value.toNat ≤ memLenCap := ⟨positive, small⟩
          simp [memLen, read, bounds]

/-! ## Modules -/

/-- The module's range, in numbers without bound. -/
def ModuleInfo.Covers (m : ModuleInfo) (addr : UInt64) : Prop :=
  m.baseAddr.toNat ≤ addr.toNat ∧ addr.toNat < m.baseAddr.toNat + m.size.toNat

theorem contains_iff_covers (m : ModuleInfo) (addr : UInt64) :
    m.contains addr = true ↔ m.Covers addr := by
  rw [ModuleInfo.contains, Bool.and_eq_true, decide_eq_true_iff, decide_eq_true_iff,
    ModuleInfo.Covers, ge_iff_le, UInt64.le_iff_toNat_le, UInt64.lt_iff_toNat_lt]
  constructor
  · rintro ⟨above, near⟩
    rw [UInt64.toNat_sub_of_le _ _ (UInt64.le_iff_toNat_le.mpr above)] at near
    omega
  · rintro ⟨above, near⟩
    rw [UInt64.toNat_sub_of_le _ _ (UInt64.le_iff_toNat_le.mpr above)]
    omega

theorem toNat_saturatingAdd (a b : UInt64) :
    (saturatingAdd a b).toNat = min (a.toNat + b.toNat) (2 ^ 64 - 1) := by
  unfold saturatingAdd
  split
  case isTrue fits =>
    rw [UInt64.toNat_add, Nat.mod_eq_of_lt fits]
    omega
  case isFalse wraps =>
    have last : (0xffffffffffffffff : UInt64).toNat = 2 ^ 64 - 1 := rfl
    rw [last]
    omega

/-- A module as the reply shows it: base, end, size and name. -/
structure ModuleReply where
  base : UInt64
  finish : UInt64
  size : UInt64
  name : Text
  deriving DecidableEq, Repr

/-- The name is the rest of the reply. -/
def readModule (reply : Text) : Option ModuleReply := do
  let (range, rest) ← splitOnce ' ' reply.dropLast
  let (base, finish) ← splitOnce '.' range
  let (size, name) ← splitOnce ' ' rest
  let (_, size) ← splitOnce '+' size
  let (size, _) ← splitOnce ')' size
  let base ← parseHex base
  let finish ← parseHex (finish.drop 1)
  let size ← parseHex size
  return ⟨base, finish, size, name⟩

theorem readModule_moduleRow (m : ModuleInfo) :
    readModule (written [moduleRow m]) =
      some ⟨m.baseAddr, saturatingAdd m.baseAddr m.size, m.size, m.name⟩ := by
  have noDot (value : UInt64) : '.' ∉ prefixedHex value :=
    not_mem_prefixedHex (by decide) (not_mem_lowerHex (by decide) _)
  have noSpace (value : UInt64) : ' ' ∉ prefixedHex value :=
    not_mem_prefixedHex (by decide) (not_mem_lowerHex (by decide) _)
  have noBracket (value : UInt64) : ')' ∉ prefixedHex value :=
    not_mem_prefixedHex (by decide) (not_mem_lowerHex (by decide) _)
  have line : (written [moduleRow m]).dropLast = moduleRow m := by
    rw [written, List.flatMap_singleton, List.dropLast_concat]
  have range : ' ' ∉ prefixedHex m.baseAddr ++ '.' :: '.' ::
      prefixedHex (saturatingAdd m.baseAddr m.size) := by
    rw [List.mem_append, List.mem_cons, List.mem_cons, not_or, not_or, not_or]
    exact ⟨noSpace _, by decide, by decide, noSpace _⟩
  have size : ' ' ∉ '(' :: '+' :: (prefixedHex m.size ++ [')']) := by
    rw [List.mem_cons, List.mem_cons, List.mem_append, not_or, not_or, not_or]
    exact ⟨by decide, by decide, noSpace _, by decide⟩
  have spaced : moduleRow m =
      (prefixedHex m.baseAddr ++ '.' :: '.' :: prefixedHex (saturatingAdd m.baseAddr m.size)) ++
        ' ' :: (('(' :: '+' :: (prefixedHex m.size ++ [')'])) ++ ' ' :: m.name) := by
    simp only [List.append_assoc, List.cons_append, List.nil_append]
    rfl
  have plus : splitOnce '+' ('(' :: '+' :: (prefixedHex m.size ++ [')'])) =
      some (['('], prefixedHex m.size ++ [')']) := rfl
  rw [readModule, line, spaced]
  simp only [splitOnce_append range, splitOnce_append size, plus, splitOnce_append (noDot _),
    splitOnce_append (noBracket _), List.drop_one, List.tail_cons, parseHex_prefixedHex,
    Option.bind_eq_bind, Option.bind_some]
  rfl

theorem readModule_miss (addr : UInt64) :
    readModule (written ["no module contains ".toList ++ prefixedHex addr]) = none := by
  have line : (written ["no module contains ".toList ++ prefixedHex addr]).dropLast =
      "no".toList ++ ' ' :: ("module contains ".toList ++ prefixedHex addr) := by
    rw [written, List.flatMap_singleton, List.dropLast_concat]
    rfl
  have noSpace : ' ' ∉ "no".toList := by decide
  have noDot : splitOnce '.' "no".toList = none := by decide
  rw [readModule, line]
  simp only [splitOnce_append noSpace, noDot, Option.bind_eq_bind, Option.bind_some,
    Option.bind_none]

/-! ## Every command -/

section View

variable {T : Type} [TraceView T] {perQuery : UInt64 → UInt64 → Text} {cmd : Text}

/-- The words of a command that reads memory. -/
def Dumps (words : List Text) (addr : UInt64) (len : Nat) : Prop :=
  ∃ text more, words = "ttd".toList :: "mem".toList :: text :: more ∧ Address text addr ∧
    Length more.head? len

theorem mem_dumps {text : Text} {more : List Text} {addr : UInt64} {len : Nat}
    (address : Address text addr) (length : Length more.head? len) (view : T) :
    (mem view (text :: more)).2 = (TraceView.readMemoryRanges view addr len).2 := by
  simp only [mem, (parseHex_eq_some_iff text addr).mpr address,
    (memLen_eq_some_iff more.head? len).mpr length]

/-- Without an address and a length, `mem` leaves the target alone. -/
theorem mem_quiet {args : List Text}
    (unasked : ∀ addr len, ¬Dumps ("ttd".toList :: "mem".toList :: args) addr len) (view : T) :
    (mem view args).2 = view := by
  cases args with
  | nil => rfl
  | cons text more =>
      cases parsed : parseHex text with
      | none => simp only [mem, parsed]
      | some addr =>
          cases asked : memLen more.head? with
          | none => simp only [mem, parsed, asked]
          | some len =>
              exact absurd ⟨text, more, rfl, (parseHex_eq_some_iff text addr).mp parsed,
                (memLen_eq_some_iff more.head? len).mp asked⟩ (unasked addr len)

/-- What the first two words of a command were compared with. -/
theorem words_eq {words : List Text} {sub : Text} (named : sub ≠ [])
    (head : words.headD [] = "ttd".toList) (second : (words.drop 1).headD [] = sub) :
    words = "ttd".toList :: sub :: words.drop 2 := by
  cases words with
  | nil => exact absurd head (by decide)
  | cons first rest =>
      cases rest with
      | nil => exact absurd second.symm named
      | cons next args =>
          have first_eq : first = "ttd".toList := head
          have next_eq : next = sub := second
          rw [first_eq, next_eq]
          rfl

/-- A command that is no dump leaves the target alone. -/
theorem reply_quiet (unasked : ∀ addr len, ¬Dumps (splitWhitespace cmd) addr len) (view : T) :
    (reply perQuery cmd view).2 = view := by
  unfold reply
  dsimp only
  split
  case isTrue => rfl
  case isFalse head =>
    rw [ne_eq, not_not] at head
    generalize splitWhitespace cmd = words at unasked head ⊢
    split_ifs with _ _ _ sub
    all_goals try rfl
    apply mem_quiet
    rw [← words_eq (by decide) head sub]
    exact unasked

/-- A dump reads the memory that it names. -/
theorem render_dumps {addr : UInt64} {len : Nat} (dumps : Dumps (splitWhitespace cmd) addr len)
    (view : T) :
    (render perQuery cmd view).2 = (TraceView.readMemoryRanges view addr len).2 := by
  obtain ⟨text, more, words, address, length⟩ := dumps
  rw [render, reply_mem words]
  exact mem_dumps address length view

/-- The reply to a module lookup: the first module that covers the address. -/
theorem readModule_module {text : Text} {addr : UInt64} (address : Address text addr)
    (modules : List ModuleInfo) :
    readModule (written (module (some text) modules)) =
      (modules.find? (ModuleInfo.contains · addr)).map fun m =>
        ⟨m.baseAddr, saturatingAdd m.baseAddr m.size, m.size, m.name⟩ := by
  simp only [module, (parseHex_eq_some_iff text addr).mpr address]
  cases modules.find? (ModuleInfo.contains · addr) with
  | none => exact readModule_miss addr
  | some m => exact readModule_moduleRow m

/-- The search finds the first module that covers the address, if there is one. -/
theorem find?_contains {modules before after : List ModuleInfo} {m : ModuleInfo} {addr : UInt64}
    (at_ : modules = before ++ m :: after) (missed : ∀ earlier ∈ before, ¬earlier.Covers addr)
    (covers : m.Covers addr) : modules.find? (ModuleInfo.contains · addr) = some m := by
  have passed : before.find? (ModuleInfo.contains · addr) = none := by
    rw [List.find?_eq_none]
    intro earlier mem found
    exact missed earlier mem ((contains_iff_covers earlier addr).mp found)
  have found : m.contains addr = true := (contains_iff_covers m addr).mpr covers
  rw [at_, List.find?_append, passed, Option.none_or]
  exact List.find?_cons_of_pos found

/-- What every command asks of the target, and what a module lookup answers.
Memory is read by a dump with an address and a length from 1 to 256, and by
nothing else; the module shown is the first whose range, taken without
wrapping, covers the address. -/
theorem commands_grammar (perQuery : UInt64 → UInt64 → Text) (cmd : Text) (view : T) :
    (∀ addr len, Dumps (splitWhitespace cmd) addr len →
      (render perQuery cmd view).2 = (TraceView.readMemoryRanges view addr len).2) ∧
    ((∀ addr len, ¬Dumps (splitWhitespace cmd) addr len) →
      (render perQuery cmd view).2 = view) ∧
    ∀ text more addr,
      splitWhitespace cmd = "ttd".toList :: "module".toList :: text :: more → Address text addr →
      (∀ before m after, TraceView.modules view = before ++ m :: after →
        (∀ earlier ∈ before, ¬earlier.Covers addr) → m.Covers addr →
        ∃ finish, readModule (render perQuery cmd view).1 =
            some ⟨m.baseAddr, finish, m.size, m.name⟩ ∧
          finish.toNat = min (m.baseAddr.toNat + m.size.toNat) (2 ^ 64 - 1)) ∧
      ((∀ m ∈ TraceView.modules view, ¬m.Covers addr) →
        readModule (render perQuery cmd view).1 = none) := by
  refine ⟨fun addr len dumps => render_dumps dumps view, fun unasked => reply_quiet unasked view,
    fun text more addr words address => ?_⟩
  · have replied : (render perQuery cmd view).1 =
        written (module (some text) (TraceView.modules view)) := by
      rw [render, reply, words]
      rfl
    rw [replied, readModule_module address]
    refine ⟨fun before m after at_ missed covers => ?_, fun missed => ?_⟩
    · rw [find?_contains at_ missed covers]
      exact ⟨_, rfl, toNat_saturatingAdd m.baseAddr m.size⟩
    · have none_ : (TraceView.modules view).find? (ModuleInfo.contains · addr) = none := by
        rw [List.find?_eq_none]
        intro m mem found
        exact missed m mem ((contains_iff_covers m addr).mp found)
      rw [none_, Option.map_none]

end View

theorem stub_readModule :
    ∃ finish, readModule (render stubQuotient "ttd module 7ff0000".toList stub).1 =
        some ⟨0x7ff0000, finish, 0x2000, "ntdll.dll".toList⟩ ∧ finish.toNat = 0x7ff2000 := by
  have words : splitWhitespace "ttd module 7ff0000".toList =
      "ttd".toList :: "module".toList :: "7ff0000".toList :: [] := by
    decide +kernel
  have address : Address "7ff0000".toList 0x7ff0000 :=
    (parseHex_eq_some_iff _ _).mp (by decide +kernel)
  have missed : ∀ earlier ∈ [(⟨0x140000000, 0x1000, "sample.exe".toList⟩ : ModuleInfo)],
      ¬earlier.Covers 0x7ff0000 := by
    simp [ModuleInfo.Covers]
  obtain ⟨-, -, lookup⟩ := commands_grammar stubQuotient "ttd module 7ff0000".toList stub
  apply (lookup _ [] 0x7ff0000 words address).1 [⟨0x140000000, 0x1000, "sample.exe".toList⟩]
    ⟨0x7ff0000, 0x2000, "ntdll.dll".toList⟩ []
  · rfl
  · exact missed
  · simp [ModuleInfo.Covers]

end TtdGdbserver.Gdb.Monitor
