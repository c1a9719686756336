import TtdGdbserver.Text.Utf8

/-!
# Packet helpers

The hex codec of the packets that the stub answers itself, and the two
dialects of `qRRCmd` arguments.
-/

namespace TtdGdbserver.Gdb

open TtdGdbserver.Text

/-! ## The hex codec -/

/-- `(byte as char).to_digit(16)`. -/
def toDigit16 (byte : UInt8) : Option Nat :=
  if 0x30 ≤ byte ∧ byte ≤ 0x39 then some (byte.toNat - 0x30)
  else if 0x61 ≤ byte ∧ byte ≤ 0x66 then some (byte.toNat - 0x61 + 10)
  else if 0x41 ≤ byte ∧ byte ≤ 0x46 then some (byte.toNat - 0x41 + 10)
  else none

/-- The loop of `decode_hex` over the pairs.  Two digits fit a byte, so the
narrowing loses nothing. -/
def decodePairs : List UInt8 → Option (List UInt8)
  | high :: low :: rest => do
      let hi ← toDigit16 high
      let lo ← toDigit16 low
      let out ← decodePairs rest
      some (UInt8.ofNat (hi <<< 4 ||| lo) :: out)
  | _ => some []

/-- `decode_hex`. -/
def decodeHex (s : List UInt8) : Option (List UInt8) :=
  if ¬2 ∣ s.length then none else decodePairs s

/-- `encode_hex`. -/
def encodeHex (bytes : List UInt8) : Text :=
  bytes.flatMap fun byte => [Nat.digitChar (byte.toNat / 16), Nat.digitChar (byte.toNat % 16)]

/-! ## `qRRCmd` arguments -/

/-- Hex digits that spell a text. -/
def decodeText (token : Text) : Option Text :=
  (decodeHex (asBytes token)).map fromUtf8Lossy

/-- The second token tells the new style. -/
def isNewStyle (parts : List Text) : Bool :=
  2 ≤ parts.length ∧ parts[1]? = some ['-', '1']

/-- `parse_qrrcmd_args`. -/
def parseQrrcmdArgs (rest : Text) : List Text :=
  let rest := rest.dropWhile (· == ':')
  if rest.isEmpty then []
  else
    let parts := rest.splitOn ':'
    if isNewStyle parts then
      parts.getD 0 [] :: (parts.drop 2).map fun p => (decodeText p).getD p
    else
      parts.filterMap decodeText

/-! ## Digits -/

/-- A hexadecimal digit of either case. -/
def IsHexDigit (byte : UInt8) : Prop :=
  0x30 ≤ byte ∧ byte ≤ 0x39 ∨ 0x61 ≤ byte ∧ byte ≤ 0x66 ∨ 0x41 ≤ byte ∧ byte ≤ 0x46

/-- `u8::to_ascii_lowercase`. -/
def toAsciiLowercase (byte : UInt8) : UInt8 :=
  if 0x41 ≤ byte ∧ byte ≤ 0x5a then byte + 0x20 else byte

/-- The byte of a digit. -/
def digitByte (value : Nat) : UInt8 :=
  UInt8.ofNat (Nat.digitChar value).toNat

theorem toDigit16_digitByte {value : Nat} (small : value < 16) :
    toDigit16 (digitByte value) = some value := by
  have digits : ∀ value < 16, toDigit16 (digitByte value) = some value := by decide
  exact digits value small

theorem digitChar_ascii {value : Nat} (small : value < 16) :
    (Nat.digitChar value).toNat < 128 ∧ Nat.digitChar value ∉ [':', '-'] := by
  have digits : ∀ value < 16,
      (Nat.digitChar value).toNat < 128 ∧ Nat.digitChar value ∉ [':', '-'] := by decide
  exact digits value small

/-- A digit stands for a number below 16 and is written as its lower-case form. -/
theorem digitByte_of_toDigit16 {byte : UInt8} {value : Nat}
    (digit : toDigit16 byte = some value) :
    value < 16 ∧ digitByte value = toAsciiLowercase byte := by
  have table : ∀ code < 256, ∀ value ∈ toDigit16 (UInt8.ofNat code),
      value < 16 ∧ digitByte value = toAsciiLowercase (UInt8.ofNat code) := by
    decide +kernel
  have here := table byte.toNat byte.toNat_lt value
  rw [UInt8.ofNat_toNat] at here
  exact here digit

theorem isSome_toDigit16 (byte : UInt8) : (toDigit16 byte).isSome ↔ IsHexDigit byte := by
  rw [toDigit16, IsHexDigit]
  split
  case isTrue decimal => simp [decimal]
  case isFalse decimal =>
    split
    case isTrue lower => simp [lower]
    case isFalse lower =>
      split
      case isTrue upper => simp [upper]
      case isFalse upper => simp [decimal, lower, upper]

/-! ## The codec -/

/-- The two digits of a byte. -/
theorem byte_of_digits (byte : UInt8) :
    UInt8.ofNat ((byte.toNat / 16) <<< 4 ||| byte.toNat % 16) = byte := by
  have low : byte.toNat % 16 < 2 ^ 4 := Nat.mod_lt _ (by decide)
  rw [← Nat.shiftLeft_add_eq_or_of_lt low, Nat.shiftLeft_eq, Nat.div_add_mod',
    UInt8.ofNat_toNat]

theorem mem_encodeHex {bytes : List UInt8} {char : Char} (mem : char ∈ encodeHex bytes) :
    char.toNat < 128 ∧ char ∉ [':', '-'] := by
  obtain ⟨byte, -, digit⟩ := List.mem_flatMap.mp mem
  have bound := byte.toNat_lt
  simp only [List.mem_cons, List.not_mem_nil, or_false] at digit
  rcases digit with rfl | rfl
  · exact digitChar_ascii (by omega)
  · exact digitChar_ascii (by omega)

theorem asBytes_encodeHex (bytes : List UInt8) :
    asBytes (encodeHex bytes) =
      bytes.flatMap fun byte => [digitByte (byte.toNat / 16), digitByte (byte.toNat % 16)] := by
  rw [asBytes_ascii fun char mem => (mem_encodeHex mem).1, encodeHex, List.map_flatMap]
  rfl

theorem decodePairs_encodeHex (bytes : List UInt8) :
    decodePairs (asBytes (encodeHex bytes)) = some bytes := by
  rw [asBytes_encodeHex]
  induction bytes with
  | nil => rfl
  | cons byte bytes ih =>
      have bound := byte.toNat_lt
      have high : toDigit16 (digitByte (byte.toNat / 16)) = some (byte.toNat / 16) :=
        toDigit16_digitByte (by omega)
      have low : toDigit16 (digitByte (byte.toNat % 16)) = some (byte.toNat % 16) :=
        toDigit16_digitByte (by omega)
      simp only [List.flatMap_cons, List.cons_append, List.nil_append, decodePairs, high, low, ih,
        Option.bind_eq_bind, Option.bind_some, byte_of_digits]

theorem decodeHex_encodeHex (bytes : List UInt8) :
    decodeHex (asBytes (encodeHex bytes)) = some bytes := by
  have even : 2 ∣ (asBytes (encodeHex bytes)).length := by
    rw [asBytes_encodeHex, List.length_flatMap]
    exact ⟨bytes.length, by simp [Nat.mul_comm]⟩
  rw [decodeHex, if_neg (not_not.mpr even), decodePairs_encodeHex]

/-- What the loop reads is what the encoder writes, up to the case. -/
theorem decodePairs_spelling {s bytes : List UInt8} (even : 2 ∣ s.length)
    (decoded : decodePairs s = some bytes) :
    (∀ byte ∈ s, IsHexDigit byte) ∧ asBytes (encodeHex bytes) = s.map toAsciiLowercase := by
  rw [asBytes_encodeHex]
  induction s using decodePairs.induct generalizing bytes with
  | case1 high low rest ih =>
      simp only [decodePairs, Option.bind_eq_bind, Option.bind_eq_some_iff,
        Option.some.injEq] at decoded
      obtain ⟨hi, highDigit, lo, lowDigit, out, decodedRest, rfl⟩ := decoded
      obtain ⟨hi_lt, highByte⟩ := digitByte_of_toDigit16 highDigit
      obtain ⟨lo_lt, lowByte⟩ := digitByte_of_toDigit16 lowDigit
      have evenRest : 2 ∣ rest.length := by
        rw [List.length_cons, List.length_cons] at even
        omega
      obtain ⟨digits, spelling⟩ := ih evenRest decodedRest
      have byte : (UInt8.ofNat (hi <<< 4 ||| lo)).toNat = hi * 16 + lo := by
        rw [← Nat.shiftLeft_add_eq_or_of_lt (show lo < 2 ^ 4 from lo_lt), Nat.shiftLeft_eq,
          UInt8.toNat_ofNat']
        omega
      have first : (UInt8.ofNat (hi <<< 4 ||| lo)).toNat / 16 = hi := by omega
      have second : (UInt8.ofNat (hi <<< 4 ||| lo)).toNat % 16 = lo := by omega
      constructor
      · rw [List.forall_mem_cons, List.forall_mem_cons, ← isSome_toDigit16, ← isSome_toDigit16,
          highDigit, lowDigit]
        exact ⟨rfl, rfl, digits⟩
      · rw [List.flatMap_cons, spelling, first, second, highByte, lowByte]
        rfl
  | case2 s short =>
      match s with
      | [] =>
          cases decoded
          exact ⟨by simp, rfl⟩
      | [_] => simp at even
      | high :: low :: rest => exact absurd rfl (short high low rest)

theorem decodePairs_isSome {s : List UInt8} (digits : ∀ byte ∈ s, IsHexDigit byte) :
    (decodePairs s).isSome := by
  induction s using decodePairs.induct with
  | case1 high low rest ih =>
      obtain ⟨highDigit, rest⟩ := List.forall_mem_cons.mp digits
      obtain ⟨lowDigit, rest⟩ := List.forall_mem_cons.mp rest
      obtain ⟨hi, highDigit⟩ := Option.isSome_iff_exists.mp ((isSome_toDigit16 high).mpr highDigit)
      obtain ⟨lo, lowDigit⟩ := Option.isSome_iff_exists.mp ((isSome_toDigit16 low).mpr lowDigit)
      obtain ⟨out, decoded⟩ := Option.isSome_iff_exists.mp (ih rest)
      simp only [decodePairs, highDigit, lowDigit, decoded, Option.bind_eq_bind,
        Option.bind_some, Option.isSome_some]
  | case2 s short =>
      match s with
      | [] => rfl
      | [_] => rfl
      | high :: low :: rest => exact absurd rfl (short high low rest)

theorem decodeHex_isSome_iff (s : List UInt8) :
    (decodeHex s).isSome ↔ 2 ∣ s.length ∧ ∀ byte ∈ s, IsHexDigit byte := by
  by_cases even : 2 ∣ s.length
  · rw [decodeHex, if_neg (not_not.mpr even)]
    constructor
    · intro accepted
      obtain ⟨bytes, decoded⟩ := Option.isSome_iff_exists.mp accepted
      exact ⟨even, (decodePairs_spelling even decoded).1⟩
    · rintro ⟨-, digits⟩
      exact decodePairs_isSome digits
  · simp [decodeHex, even]

theorem encodeHex_of_decodeHex {s bytes : List UInt8} (decoded : decodeHex s = some bytes) :
    asBytes (encodeHex bytes) = s.map toAsciiLowercase := by
  rw [decodeHex] at decoded
  split at decoded
  case isTrue => cases decoded
  case isFalse even => exact (decodePairs_spelling (not_not.mp even) decoded).2

/-! ## The two dialects -/

/-- The hex digits of a text. -/
def hexToken (text : Text) : Text :=
  encodeHex (asBytes text)

/-- Arguments in the old style: every element in hex. -/
def oldStyle (elements : List Text) : Text :=
  ':' :: [':'].intercalate (elements.map hexToken)

/-- Arguments in the new style: a literal command, the mark, the rest in hex. -/
def newStyle (cmd : Text) (args : List Text) : Text :=
  ':' :: (cmd ++ [':', '-', '1'] ++ args.flatMap fun arg => ':' :: hexToken arg)

/-- The tokens that the parser looks at. -/
def tokens (rest : Text) : List Text :=
  (rest.dropWhile (· == ':')).splitOn ':'

@[simp]
theorem decodeText_hexToken (text : Text) : decodeText (hexToken text) = some text := by
  rw [decodeText, hexToken, decodeHex_encodeHex, Option.map_some, fromUtf8Lossy_asBytes]

theorem colon_not_mem_hexToken (text : Text) : ':' ∉ hexToken text := fun mem =>
  (mem_encodeHex mem).2 (List.mem_cons_self ..)

theorem hexToken_ne_mark (text : Text) : hexToken text ≠ ['-', '1'] := by
  intro same
  have mem : '-' ∈ hexToken text := by simp [same]
  exact (mem_encodeHex mem).2 (by decide)

theorem hexToken_ne_nil {text : Text} (nonempty : text ≠ []) : hexToken text ≠ [] := by
  obtain ⟨char, rest, rfl⟩ := List.exists_cons_of_ne_nil nonempty
  have decoded := decodeText_hexToken (char :: rest)
  intro empty
  rw [empty] at decoded
  cases decoded

/-- The leading colon goes, and no character after it. -/
theorem trim_of_head {first : Text} (nonempty : first ≠ []) (noColon : ':' ∉ first)
    (rest : Text) : (':' :: (first ++ rest)).dropWhile (· == ':') = first ++ rest := by
  obtain ⟨char, more, rfl⟩ := List.exists_cons_of_ne_nil nonempty
  have other : (char == ':') = false := by
    rw [beq_eq_false_iff_ne]
    rintro rfl
    exact noColon (List.mem_cons_self ..)
  simp [other]

/-- Tokens without colons, the first of them not empty, are parsed one by one. -/
theorem parse_intercalate {first : Text} {rest : List Text} (nonempty : first ≠ [])
    (noColon : ∀ token ∈ first :: rest, ':' ∉ token) :
    tokens (':' :: [':'].intercalate (first :: rest)) = first :: rest ∧
      parseQrrcmdArgs (':' :: [':'].intercalate (first :: rest)) =
        if isNewStyle (first :: rest) then
          first :: (rest.drop 1).map fun p => (decodeText p).getD p
        else (first :: rest).filterMap decodeText := by
  have noColonFirst := noColon first (List.mem_cons_self ..)
  obtain ⟨tail, joined⟩ : ∃ tail, [':'].intercalate (first :: rest) = first ++ tail := by
    cases rest with
    | nil => exact ⟨[], by rw [List.intercalate_singleton, List.append_nil]⟩
    | cons second rest => exact ⟨_, by rw [List.intercalate_cons_cons, List.append_assoc]⟩
  have trimmed : (':' :: [':'].intercalate (first :: rest)).dropWhile (· == ':') =
      [':'].intercalate (first :: rest) := by
    rw [joined]
    exact trim_of_head nonempty noColonFirst tail
  have kept : ([':'].intercalate (first :: rest)).isEmpty = false := by
    rw [joined]
    simp [nonempty]
  have split := List.splitOn_intercalate ':' noColon (List.cons_ne_nil first rest)
  constructor
  · rw [tokens, trimmed, split]
  · simp only [parseQrrcmdArgs, trimmed, kept, split, Bool.false_eq_true, if_false]
    rfl

theorem newStyle_eq (cmd : Text) (args : List Text) :
    newStyle cmd args = ':' :: [':'].intercalate (cmd :: ['-', '1'] :: args.map hexToken) := by
  have joined (token : Text) : [':'].intercalate (token :: args.map hexToken) =
      token ++ args.flatMap fun arg => ':' :: hexToken arg := by
    induction args generalizing token with
    | nil => simp
    | cons arg args ih =>
        rw [List.map_cons, List.intercalate_cons_cons, ih, List.flatMap_cons]
        simp
  rw [newStyle, List.intercalate_cons_cons, joined]
  simp

theorem parse_oldStyle {cmd : Text} (nonempty : cmd ≠ []) (args : List Text) :
    isNewStyle (tokens (oldStyle (cmd :: args))) = false ∧
      parseQrrcmdArgs (oldStyle (cmd :: args)) = cmd :: args := by
  have noColon : ∀ token ∈ hexToken cmd :: args.map hexToken, ':' ∉ token := by
    intro token mem
    obtain ⟨text, -, rfl⟩ := List.mem_map.mp (by rwa [← List.map_cons] at mem)
    exact colon_not_mem_hexToken text
  obtain ⟨split, parsed⟩ := parse_intercalate (hexToken_ne_nil nonempty) noColon
  have old : isNewStyle (hexToken cmd :: args.map hexToken) = false := by
    cases args with
    | nil => rfl
    | cons arg args => simp [isNewStyle, hexToken_ne_mark]
  rw [oldStyle, List.map_cons, split, parsed, old]
  refine ⟨rfl, ?_⟩
  rw [if_neg Bool.false_ne_true, ← List.map_cons, List.filterMap_map]
  simp

theorem parse_newStyle {cmd : Text} (nonempty : cmd ≠ []) (noColon : ':' ∉ cmd)
    (args : List Text) : parseQrrcmdArgs (newStyle cmd args) = cmd :: args := by
  have noColons : ∀ token ∈ cmd :: ['-', '1'] :: args.map hexToken, ':' ∉ token := by
    rw [List.forall_mem_cons, List.forall_mem_cons, List.forall_mem_map]
    exact ⟨noColon, by decide, fun arg _ => colon_not_mem_hexToken arg⟩
  have back : (fun p => (decodeText p).getD p) ∘ hexToken = id := by
    funext arg
    rw [Function.comp, decodeText_hexToken, Option.getD_some, id]
  rw [newStyle_eq, (parse_intercalate nonempty noColons).2, if_pos (by simp [isNewStyle]),
    List.drop_one, List.tail_cons, List.map_map, back, List.map_id]

/-- Both dialects carry a command and its arguments through, neither is taken
for the other, and the hex codec beneath is exact. -/
theorem qrrcmdArgs_roundTrip :
    (∀ (cmd : Text) (args : List Text), cmd ≠ [] →
      parseQrrcmdArgs (oldStyle (cmd :: args)) = cmd :: args ∧
      isNewStyle (tokens (oldStyle (cmd :: args))) = false ∧
      (':' ∉ cmd → parseQrrcmdArgs (newStyle cmd args) = cmd :: args)) ∧
    (∀ bytes, decodeHex (asBytes (encodeHex bytes)) = some bytes) ∧
    (∀ s, (decodeHex s).isSome ↔ 2 ∣ s.length ∧ ∀ byte ∈ s, IsHexDigit byte) ∧
    ∀ s bytes, decodeHex s = some bytes → asBytes (encodeHex bytes) = s.map toAsciiLowercase := by
  refine ⟨fun cmd args nonempty => ?_, decodeHex_encodeHex, decodeHex_isSome_iff,
    fun s bytes => encodeHex_of_decodeHex⟩
  obtain ⟨old, parsed⟩ := parse_oldStyle nonempty args
  exact ⟨parsed, old, fun noColon => parse_newStyle nonempty noColon args⟩

/-- A checkpoint whose text looks like the mark. -/
theorem markedCheckpoint_roundTrip :
    parseQrrcmdArgs (newStyle "checkpoint".toList ["-1:31".toList, []]) =
      ["checkpoint".toList, "-1:31".toList, []] :=
  ((qrrcmdArgs_roundTrip.1 "checkpoint".toList ["-1:31".toList, []] (by decide)).2.2
    (by decide))

end TtdGdbserver.Gdb
