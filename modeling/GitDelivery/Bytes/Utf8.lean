set_option autoImplicit false

/-! Bytes as UTF-8 text: strictly, and with the replacement character for what is not valid. -/

namespace GitDelivery

abbrev Bytes := List UInt8

namespace Bytes

def ofText (text : String) : Bytes :=
  text.toList.flatMap String.utf8EncodeChar

private def continues (low high : Nat) (byte : UInt8) : Bool :=
  low ≤ byte.toNat && byte.toNat ≤ high

private def tailBits (byte : UInt8) : Nat := byte.toNat % 64

/-- For the first byte of a longer sequence: the number of bytes after it, the range of the first of
them, and the bits that the first byte gives. -/
private def shape? (byte : UInt8) : Option (Nat × Nat × Nat × Nat) :=
  let first := byte.toNat
  if 0xC2 ≤ first ∧ first ≤ 0xDF then some (1, 0x80, 0xBF, first % 32)
  else if first = 0xE0 then some (2, 0xA0, 0xBF, 0)
  else if first = 0xED then some (2, 0x80, 0x9F, 13)
  else if 0xE1 ≤ first ∧ first ≤ 0xEF then some (2, 0x80, 0xBF, first % 16)
  else if first = 0xF0 then some (3, 0x90, 0xBF, 0)
  else if 0xF1 ≤ first ∧ first ≤ 0xF3 then some (3, 0x80, 0xBF, first % 8)
  else if first = 0xF4 then some (3, 0x80, 0x8F, 4)
  else none

/-- Takes `count` continuation bytes, the first within a narrower range. A failure says how many
were good. -/
private def continuation : Nat → Nat → Nat → Nat → Nat → Bytes → Except Nat Nat
  | 0, _, _, bits, _, _ => .ok bits
  | count + 1, low, high, bits, taken, byte :: rest =>
    if continues low high byte then
      continuation count 0x80 0xBF (bits * 64 + tailBits byte) (taken + 1) rest
    else .error taken
  | _ + 1, _, _, _, taken, [] => .error taken

/-- The first character and the number of its bytes, or nothing and the number of bytes that cannot
begin a character together. -/
def firstChar (byte : UInt8) (rest : Bytes) : Option Char × Nat :=
  if byte.toNat < 0x80 then (some (Char.ofNat byte.toNat), 1)
  else
    match shape? byte with
    | none => (none, 1)
    | some (count, low, high, bits) =>
      match continuation count low high bits 0 rest with
      | .ok code => (some (Char.ofNat code), count + 1)
      | .error taken => (none, taken + 1)

private def decode (fuel : Nat) (bytes : Bytes) : List (Option Char) :=
  match fuel, bytes with
  | _, [] => []
  | 0, _ => []
  | fuel + 1, byte :: rest =>
    let (char, size) := firstChar byte rest
    char :: decode fuel (rest.drop (size - 1))

/-- The characters of the text, with nothing in place of each sequence that is not valid. -/
def chars (bytes : Bytes) : List (Option Char) :=
  decode bytes.length bytes

def text? (bytes : Bytes) : Option String :=
  let found := chars bytes
  if found.all Option.isSome then some (String.ofList (found.filterMap id)) else none

private theorem encoded_ascii {chars : List Char} (ascii : ∀ c ∈ chars, c.toNat < 128) :
    chars.flatMap String.utf8EncodeChar = chars.map fun c => UInt8.ofNat c.toNat := by
  induction chars with
  | nil => rfl
  | cons c rest ih =>
      obtain ⟨small, others⟩ := List.forall_mem_cons.mp ascii
      have single : String.utf8EncodeChar c = [UInt8.ofNat c.toNat] :=
        if_pos (Nat.le_of_lt_succ small)
      rw [List.flatMap_cons, single, ih others]
      rfl

private theorem decode_ascii {chars : List Char} (ascii : ∀ c ∈ chars, c.toNat < 128) :
    decode chars.length (chars.map fun c => UInt8.ofNat c.toNat) = chars.map some := by
  induction chars with
  | nil => rfl
  | cons c rest ih =>
      obtain ⟨small, others⟩ := List.forall_mem_cons.mp ascii
      have byte : (UInt8.ofNat c.toNat).toNat = c.toNat :=
        UInt8.toNat_ofNat_of_lt (show c.toNat < 256 by omega)
      have first (more : Bytes) : firstChar (UInt8.ofNat c.toNat) more = (some c, 1) := by
        unfold firstChar
        rw [byte, if_pos small, Char.ofNat_toNat]
      simp only [List.length_cons, List.map_cons, decode, first, Nat.sub_self, List.drop_zero]
      rw [ih others]

/-- A text of ASCII characters is read back as it was. -/
theorem text?_ofText {text : String} (ascii : ∀ c ∈ text.toList, c.toNat < 128) :
    (ofText text).text? = some text := by
  have read : chars (ofText text) = text.toList.map some := by
    unfold chars ofText
    rw [encoded_ascii ascii, List.length_map, decode_ascii ascii]
  unfold text?
  simp [read]

/-- Where a text stops being valid: the number of bytes before, and how many bytes are wrong, which
is unknown when the bytes end inside a character. -/
def invalidFrom : Nat → Nat → Bytes → Option (Nat × Option Nat)
  | 0, _, _ => none
  | _ + 1, _, [] => none
  | fuel + 1, index, byte :: rest =>
    match firstChar byte rest with
    | (some _, size) => invalidFrom fuel (index + size) (rest.drop (size - 1))
    | (none, size) =>
      let isCut := (shape? byte).isSome && rest.length < size
      some (index, if isCut then none else some size)

def invalidMessage (bytes : Bytes) : String :=
  match invalidFrom bytes.length 0 bytes with
  | some (index, some count) =>
    "invalid utf-8 sequence of " ++ toString count ++ " bytes from index " ++ toString index
  | some (index, none) => "incomplete utf-8 byte sequence from index " ++ toString index
  | none => ""

/-- The text with a replacement character for each sequence that is not valid. -/
def lossyText (bytes : Bytes) : String :=
  String.ofList ((chars bytes).map fun char => char.getD '\uFFFD')

end Bytes

end GitDelivery
