/-!
Bytes as characters. A byte that belongs to no well-formed character stands as `none`, so a reader
can pass over malformed bytes where the text around them does not matter.
-/

namespace SensorRouter.Text

/-- The low six bits of a byte that continues a character. -/
def continuationBits (b : UInt8) : Option Nat :=
  if 0x80 ≤ b && b < 0xC0 then some (b.toNat % 0x40) else none

/-- The character with code point `n`, unless a shorter encoding exists: `least` is the first code
point that needs this many bytes. -/
def charOfBits (least n : Nat) : Option Char :=
  if h : least ≤ n ∧ n.isValidChar then some (Char.ofNatAux n h.2) else none

/-- The character at the head of the bytes and the number of bytes that follow its first one. -/
def charAtHead (lead : UInt8) (rest : List UInt8) : Option (Char × Nat) :=
  if lead < 0x80 then
    return (← charOfBits 0 lead.toNat, 0)
  else if lead < 0xC0 then none
  else if lead < 0xE0 then do
    let b ← continuationBits (← rest[0]?)
    return (← charOfBits 0x80 (lead.toNat % 0x20 * 0x40 + b), 1)
  else if lead < 0xF0 then do
    let b ← continuationBits (← rest[0]?)
    let c ← continuationBits (← rest[1]?)
    return (← charOfBits 0x800 ((lead.toNat % 0x10 * 0x40 + b) * 0x40 + c), 2)
  else if lead < 0xF8 then do
    let b ← continuationBits (← rest[0]?)
    let c ← continuationBits (← rest[1]?)
    let d ← continuationBits (← rest[2]?)
    return (← charOfBits 0x10000 (((lead.toNat % 0x08 * 0x40 + b) * 0x40 + c) * 0x40 + d), 3)
  else none

/-- Decodes byte by byte; the first `skip` bytes already belong to a character. -/
def decodeBytes : (skip : Nat) → List UInt8 → List (Option Char)
  | _, [] => []
  | skip + 1, _ :: rest => decodeBytes skip rest
  | 0, lead :: rest =>
    match charAtHead lead rest with
    | some (c, extra) => some c :: decodeBytes extra rest
    | none => none :: decodeBytes 0 rest

/-- The characters of a well-formed text. -/
def symbols (s : String) : List (Option Char) :=
  s.toList.map some

/-- The characters of a byte sequence, with `none` for each byte outside every character. -/
def symbolsOfBytes (bytes : ByteArray) : List (Option Char) :=
  match String.fromUTF8? bytes with
  | some s => symbols s
  | none => decodeBytes 0 bytes.toList

theorem fromUTF8?_toUTF8 (s : String) : String.fromUTF8? s.toUTF8 = some s := by
  simp only [String.fromUTF8?, String.toUTF8_eq_toByteArray, dif_pos s.isValidUTF8]
  rfl

theorem symbolsOfBytes_toUTF8 (s : String) : symbolsOfBytes s.toUTF8 = symbols s := by
  rw [symbolsOfBytes, fromUTF8?_toUTF8]

example : decodeBytes 0 [0x61, 0xC3, 0xA9, 0xED, 0xA0, 0x80, 0xE2, 0x82, 0x62] =
    [some 'a', some 'é', none, none, none, none, none, some 'b'] := by decide +kernel

example : decodeBytes 0 [0xC0, 0xAF, 0xF0, 0x9F, 0x98, 0x80] =
    [none, none, some '😀'] := by decide +kernel

end SensorRouter.Text
