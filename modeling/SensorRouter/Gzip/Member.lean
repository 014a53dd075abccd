import SensorRouter.Gzip.Crc32
import SensorRouter.Gzip.Inflate

/-!
Members of gzip files: a header, deflated data, and a check on the data and its length. Reading takes
the first member only and stops at a limit, where the check is not reached; writing stores the data in
blocks.
-/

namespace SensorRouter.Gzip

/-- The position after a text that ends with a zero byte and is not too long. -/
def afterText? (data : ByteArray) : (room : Nat) → (i : Nat) → Option Nat
  | 0, _ => none
  | room + 1, i =>
    if h : i < data.size then
      if data[i] = 0 then some (i + 1) else afterText? data room (i + 1)
    else none

/-- The greatest length of a text in a header, with its zero byte. -/
def textRoom : Nat := 65536

/-- A number of two bytes, the low one first. -/
def word16? (data : ByteArray) (i : Nat) : Option Nat :=
  if h : i + 1 < data.size then some (data[i].toNat + 256 * data[i + 1].toNat) else none

/-- A number of four bytes, the low one first. -/
def word32? (data : ByteArray) (i : Nat) : Option Nat := do
  return (← word16? data i) + 65536 * (← word16? data (i + 2))

/-- The position after the header. -/
def afterHeader? (data : ByteArray) : Option Nat := do
  if data.size < 10 then none
  if (← word16? data 0) ≠ 0x8b1f then none
  let kind ← word16? data 2
  if kind % 256 ≠ 8 then none
  let flags := kind / 256
  let has (bit : Nat) : Bool := flags.testBit bit
  if 32 ≤ flags then none
  let i := 10
  let i ← if has 2 then (word16? data i).map (i + 2 + ·) else some i
  if data.size < i then none
  let i ← if has 3 then afterText? data textRoom i else some i
  let i ← if has 4 then afterText? data textRoom i else some i
  if has 1 then
    let check ← word16? data i
    if (crc32 (data.extract 0 i)).toNat % 65536 = check then return i + 2 else none
  else return i

/-- The data of the first member, or the first `limit` bytes of it. -/
def gunzip (limit : Nat) (data : ByteArray) : Option ByteArray := do
  match ← inflate limit data (← afterHeader? data) with
  | .cut out => return out.extract 0 limit
  | .done out rest =>
    let i := rest.position / 8
    let check ← word32? data i
    let length ← word32? data (i + 4)
    if (crc32 out).toNat = check && out.size % 0x100000000 = length then return out else none

/-- A number as bytes, the low one first. -/
def littleEndian : (count : Nat) → Nat → List UInt8
  | 0, _ => []
  | count + 1, n => (n % 256).toUInt8 :: littleEndian count (n / 256)

/-- The greatest length of a stored block. -/
def blockLength : Nat := 65535

/-- Stored blocks for the data from a position on, `count` of them before the last. -/
def storedBlocks (data : ByteArray) : (count : Nat) → (start : Nat) → ByteArray
  | 0, start =>
    let block := data.extract start data.size
    ⟨(1 :: littleEndian 2 block.size ++ littleEndian 2 (0xFFFF - block.size)).toArray⟩ ++ block
  | count + 1, start =>
    ⟨(0 :: littleEndian 2 blockLength ++ littleEndian 2 (0xFFFF - blockLength)).toArray⟩ ++
      data.extract start (start + blockLength) ++ storedBlocks data count (start + blockLength)

/-- A member with the data in stored blocks. -/
def gzip (data : ByteArray) : ByteArray :=
  ⟨#[0x1f, 0x8b, 8, 0, 0, 0, 0, 0, 0, 0xff]⟩ ++ storedBlocks data ((data.size - 1) / blockLength) 0 ++
    ⟨(littleEndian 4 (crc32 data).toNat ++ littleEndian 4 (data.size % 0x100000000)).toArray⟩

end SensorRouter.Gzip
