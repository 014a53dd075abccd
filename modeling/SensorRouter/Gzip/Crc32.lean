/-!
The cyclic redundancy check of 32 bits with the reversed polynomial `0xEDB88320`.
-/

namespace SensorRouter.Gzip

/-- One bit of the division by the polynomial. -/
def crcShift (c : UInt32) : UInt32 :=
  if c &&& 1 = 1 then (c >>> 1) ^^^ 0xEDB88320 else c >>> 1

/-- The remainders of all bytes. -/
def crcTable : Array UInt32 :=
  (Array.range 256).map fun n => Nat.repeat crcShift 8 n.toUInt32

def crcByte (c : UInt32) (b : UInt8) : UInt32 :=
  crcTable.getD ((c ^^^ b.toUInt32) &&& 0xFF).toNat 0 ^^^ (c >>> 8)

def crc32 (bytes : ByteArray) : UInt32 :=
  bytes.foldl crcByte 0xFFFFFFFF ^^^ 0xFFFFFFFF

example : crcShift 1 = 0xEDB88320 := by decide

end SensorRouter.Gzip
