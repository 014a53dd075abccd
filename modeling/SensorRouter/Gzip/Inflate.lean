/-!
Deflated data: blocks of stored bytes or of symbols in prefix codes, which stand for bytes and for
copies of earlier output. Inflation stops as soon as the output reaches a limit.
-/

namespace SensorRouter.Gzip

/-- Data read bit by bit, the low bits of a byte first. -/
structure BitReader where
  data : ByteArray
  /-- The number of bits read. -/
  position : Nat

namespace BitReader

def bit? (r : BitReader) : Option (Nat × BitReader) :=
  if h : r.position / 8 < r.data.size then
    let b := r.data[r.position / 8].toNat
    some ((b >>> (r.position % 8)) % 2, { r with position := r.position + 1 })
  else none

/-- A number of some bits, the low bits first. -/
def bits? : (count : Nat) → BitReader → Option (Nat × BitReader)
  | 0, r => some (0, r)
  | count + 1, r => do
    let (b, r) ← r.bit?
    let (rest, r) ← bits? count r
    return (b + 2 * rest, r)

/-- Skips to the next whole byte. -/
def align (r : BitReader) : BitReader :=
  { r with position := (r.position + 7) / 8 * 8 }

/-- Some whole bytes. -/
def bytes? (count : Nat) (r : BitReader) : Option (ByteArray × BitReader) :=
  let start := r.position / 8
  if start + count ≤ r.data.size then
    some (r.data.extract start (start + count), { r with position := (start + count) * 8 })
  else none

end BitReader

/-! ### Prefix codes -/

/-- A prefix code: how many code words there are of each length from 1 on, and the symbols in the
order of their code words. -/
structure PrefixCode where
  counts : List Nat
  symbols : Array Nat

namespace PrefixCode

def greatestLength : Nat := 15

/-- The code in which symbol `i` has a code word of length `lengths[i]`, or none for length 0. -/
def ofLengths (lengths : List Nat) : PrefixCode where
  counts := (List.range greatestLength).map fun n => lengths.count (n + 1)
  symbols := ((List.range greatestLength).flatMap fun n =>
    (lengths.zipIdx.filter fun e => e.1 = n + 1).map (·.2)).toArray

/-- The share of all words of the greatest length that begin with a code word, times their number. -/
def covered (code : PrefixCode) : Nat :=
  code.counts.foldl (fun total n => 2 * (total + n)) 0

/-- Whether every word begins with exactly one code word. -/
def isComplete (code : PrefixCode) : Bool :=
  code.covered = Nat.pow 2 (greatestLength + 1)

/-- Whether the code may be used for bytes or distances: it is complete, or it has one word at
most. -/
def isUsable (code : PrefixCode) : Bool :=
  code.isComplete || code.counts.foldr (· + ·) 0 ≤ 1

/-- Reads on from a word `word` of the length before that of `counts`. Of the words of a length,
`first` is the first and `index` the number of all shorter ones. -/
def readFrom (code : PrefixCode) : (counts : List Nat) → (word first index : Nat) → BitReader →
    Option (Nat × BitReader)
  | [], _, _, _, _ => none
  | count :: counts, word, first, index, r => do
    let (b, r) ← r.bit?
    let word := 2 * word + b
    if word < first + count then return (← code.symbols[index + (word - first)]?, r)
    else readFrom code counts word (2 * (first + count)) (index + count) r

def read (code : PrefixCode) (r : BitReader) : Option (Nat × BitReader) :=
  code.readFrom code.counts 0 0 0 r

end PrefixCode

/-- The code of bytes and copy lengths in blocks without a code of their own. -/
def fixedLiterals : PrefixCode :=
  .ofLengths (List.replicate 144 8 ++ List.replicate 112 9 ++ List.replicate 24 7 ++
    List.replicate 8 8)

def fixedDistances : PrefixCode :=
  .ofLengths (List.replicate 32 5)

/-! ### Blocks -/

/-- Base and number of further bits of each copy length. -/
def copyLengths : Array (Nat × Nat) :=
  #[(3, 0), (4, 0), (5, 0), (6, 0), (7, 0), (8, 0), (9, 0), (10, 0), (11, 1), (13, 1), (15, 1),
    (17, 1), (19, 2), (23, 2), (27, 2), (31, 2), (35, 3), (43, 3), (51, 3), (59, 3), (67, 4),
    (83, 4), (99, 4), (115, 4), (131, 5), (163, 5), (195, 5), (227, 5), (258, 0)]

/-- Base and number of further bits of each distance. -/
def copyDistances : Array (Nat × Nat) :=
  #[(1, 0), (2, 0), (3, 0), (4, 0), (5, 1), (7, 1), (9, 2), (13, 2), (17, 3), (25, 3), (33, 4),
    (49, 4), (65, 5), (97, 5), (129, 6), (193, 6), (257, 7), (385, 7), (513, 8), (769, 8),
    (1025, 9), (1537, 9), (2049, 10), (3073, 10), (4097, 11), (6145, 11), (8193, 12),
    (12289, 12), (16385, 13), (24577, 13)]

/-- Appends bytes that stand `distance` before the end, one after another. What would stand before
the start of the output counts as zero. -/
def copyBack (distance : Nat) : (count : Nat) → ByteArray → ByteArray
  | 0, out => out
  | count + 1, out =>
    let b := if h : 0 < distance ∧ distance ≤ out.size then out[out.size - distance] else 0
    copyBack distance count (out.push b)

/-- What a run of symbols comes to: its end, or an output that has reached the limit. -/
inductive Progress where
  | done (out : ByteArray) (rest : BitReader)
  | cut (out : ByteArray)

/-- A number given by an entry of a table and further bits. -/
def tableNumber? (table : Array (Nat × Nat)) (i : Nat) (r : BitReader) :
    Option (Nat × BitReader) := do
  let (base, extra) ← table[i]?
  let (n, r) ← r.bits? extra
  return (base + n, r)

/-- The symbols of a block up to its end mark. Each takes at least one bit. -/
def inflateSymbols (limit : Nat) (literals distances : PrefixCode) :
    (fuel : Nat) → ByteArray → BitReader → Option Progress
  | 0, _, _ => none
  | fuel + 1, out, r => do
    let (symbol, r) ← literals.read r
    if symbol < 256 then
      let out := out.push symbol.toUInt8
      if limit ≤ out.size then return .cut out
      inflateSymbols limit literals distances fuel out r
    else if symbol = 256 then return .done out r
    else
      let (length, r) ← tableNumber? copyLengths (symbol - 257) r
      let (i, r) ← distances.read r
      let (distance, r) ← tableNumber? copyDistances i r
      let out := copyBack distance length out
      if limit ≤ out.size then return .cut out
      inflateSymbols limit literals distances fuel out r

/-- The order in which the lengths of the code for code lengths are given. -/
def lengthOrder : List Nat :=
  [16, 17, 18, 0, 8, 7, 9, 6, 10, 5, 11, 4, 12, 3, 13, 2, 14, 1, 15]

/-- Some numbers of three bits. -/
def threeBitNumbers : (count : Nat) → BitReader → Option (List Nat × BitReader)
  | 0, r => some ([], r)
  | count + 1, r => do
    let (n, r) ← r.bits? 3
    let (rest, r) ← threeBitNumbers count r
    return (n :: rest, r)

/-- Code lengths, `missing` more after those read in reverse. Three symbols repeat a length, and no
repetition may go beyond the end. -/
def readLengths (code : PrefixCode) : (fuel : Nat) → (missing : Nat) → List Nat → BitReader →
    Option (List Nat × BitReader)
  | _, 0, done, r => some (done.reverse, r)
  | 0, _, _, _ => none
  | fuel + 1, missing, done, r => do
    let (symbol, r) ← code.read r
    let (length, base, extra) ←
      if symbol < 16 then some (symbol, 1, 0)
      else if symbol = 16 then done.head?.map (·, 3, 2)
      else if symbol = 17 then some (0, 3, 3)
      else some (0, 11, 7)
    let (n, r) ← r.bits? extra
    let count := base + n
    if missing < count then none
    else readLengths code fuel (missing - count) (List.replicate count length ++ done) r

/-- The codes given at the head of a block. -/
def readCodes (r : BitReader) : Option (PrefixCode × PrefixCode × BitReader) := do
  let (literalCount, r) ← r.bits? 5
  let (distanceCount, r) ← r.bits? 5
  let (lengthCount, r) ← r.bits? 4
  let literalCount := literalCount + 257
  let distanceCount := distanceCount + 1
  if 286 < literalCount ∨ 30 < distanceCount then none
  let (given, r) ← threeBitNumbers (lengthCount + 4) r
  let lengthOf i := ((lengthOrder.zip given).lookup i).getD 0
  let lengthCode := PrefixCode.ofLengths ((List.range 19).map lengthOf)
  if !lengthCode.isComplete then none
  let total := literalCount + distanceCount
  let (lengths, r) ← readLengths lengthCode total total [] r
  let literals := PrefixCode.ofLengths (lengths.take literalCount)
  let distances := PrefixCode.ofLengths (lengths.drop literalCount)
  if literals.isUsable && distances.isUsable then return (literals, distances, r) else none

/-- A block of bytes as they are. -/
def inflateStored (limit : Nat) (out : ByteArray) (r : BitReader) : Option Progress := do
  let r := r.align
  let (length, r) ← r.bits? 16
  let (complement, r) ← r.bits? 16
  if length + complement ≠ 0xFFFF then none
  let available := r.data.size - r.position / 8
  let (bytes, r) ← r.bytes? (min length available)
  let out := out ++ bytes
  if limit ≤ out.size then return .cut out
  if available < length then none
  return .done out r

/-- Blocks up to the last one. Each takes at least three bits. -/
def inflateBlocks (limit : Nat) : (fuel : Nat) → ByteArray → BitReader → Option Progress
  | 0, _, _ => none
  | fuel + 1, out, r => do
    let (last, r) ← r.bits? 1
    let (kind, r) ← r.bits? 2
    let progress ← match kind with
      | 0 => inflateStored limit out r
      | 1 => inflateSymbols limit fixedLiterals fixedDistances (8 * r.data.size + 1) out r
      | 2 => do
        let (literals, distances, r) ← readCodes r
        inflateSymbols limit literals distances (8 * r.data.size + 1) out r
      | _ => none
    match progress with
    | .cut out => return .cut out
    | .done out r =>
      if last = 1 then return .done out r.align else inflateBlocks limit fuel out r

/-- Inflates from a byte on, up to `limit` bytes of output. -/
def inflate (limit : Nat) (data : ByteArray) (start : Nat) : Option Progress :=
  inflateBlocks limit (8 * data.size + 1) .empty ⟨data, 8 * start⟩

end SensorRouter.Gzip
