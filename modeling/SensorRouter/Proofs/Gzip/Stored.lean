import SensorRouter.Proofs.Gzip.Limit

/-!
Stored blocks are inflated to the data that they hold. A reader at a whole byte is followed through the
bytes ahead of it: the mark of a block, its length and the complement of its length, and the bytes of
the block.
-/

namespace SensorRouter.Gzip

/-! ### Numbers as bytes -/

theorem toNat_toUInt8_mod (n : Nat) : (n % 256).toUInt8.toNat = n % 256 := by
  simp

theorem littleEndian_two (n : Nat) :
    ∃ low high : UInt8, littleEndian 2 n = [low, high] ∧
      low.toNat + 256 * high.toNat = n % 65536 := by
  refine ⟨_, _, rfl, ?_⟩
  rw [toNat_toUInt8_mod, toNat_toUInt8_mod]
  omega

theorem getElem?_of_drop {α : Type} {xs rest : List α} {i : Nat} {x : α} (h : xs.drop i = x :: rest) :
    xs[i]? = some x := by
  rw [← List.head?_drop, h]
  rfl

theorem drop_succ_of_drop {α : Type} {xs rest : List α} {i : Nat} {x : α}
    (h : xs.drop i = x :: rest) : xs.drop (i + 1) = rest := by
  rw [← List.drop_drop, h, List.drop_one, List.tail_cons]

theorem exists_getElem_of_drop {data : ByteArray} {i : Nat} {b : UInt8} {rest : List UInt8}
    (h : data.data.toList.drop i = b :: rest) : ∃ hlt : i < data.size, data[i] = b := by
  obtain ⟨hlt, hb⟩ := List.getElem?_eq_some_iff.1 (getElem?_of_drop h)
  exact ⟨hlt, hb⟩

theorem word16?_of_drop {data : ByteArray} {i n : Nat} {rest : List UInt8}
    (h : data.data.toList.drop i = littleEndian 2 n ++ rest) : word16? data i = some (n % 65536) := by
  obtain ⟨low, high, hbytes, hvalue⟩ := littleEndian_two n
  rw [hbytes] at h
  obtain ⟨hi, hlow⟩ := exists_getElem_of_drop h
  obtain ⟨hi', hhigh⟩ := exists_getElem_of_drop (drop_succ_of_drop h)
  rw [word16?, dif_pos hi', hlow, hhigh, hvalue]

theorem word32?_of_drop {data : ByteArray} {i n : Nat} {rest : List UInt8} (hn : n < 0x100000000)
    (h : data.data.toList.drop i = littleEndian 4 n ++ rest) : word32? data i = some n := by
  have hsplit : littleEndian 4 n = littleEndian 2 n ++ littleEndian 2 (n / 256 / 256) := rfl
  rw [hsplit, List.append_assoc] at h
  have hback : data.data.toList.drop (i + 2) = littleEndian 2 (n / 256 / 256) ++ rest := by
    rw [← List.drop_drop, h]
    rfl
  rw [word32?, word16?_of_drop h, word16?_of_drop hback]
  simp only [Option.bind_eq_bind, Option.bind_some, Option.pure_def, Option.some.injEq]
  omega

/-! ### Readers at a whole byte -/

namespace BitReader

/-- The reader stands at a whole byte, and these bytes are ahead of it. -/
structure Ahead (r : BitReader) (bytes : List UInt8) : Prop where
  whole : r.position % 8 = 0
  within : r.position / 8 ≤ r.data.size
  drop : r.data.data.toList.drop (r.position / 8) = bytes

def skip (r : BitReader) (count : Nat) : BitReader :=
  { r with position := r.position + 8 * count }

variable {r : BitReader} {b : UInt8} {rest : List UInt8}

theorem skip_skip (r : BitReader) (m n : Nat) : (r.skip m).skip n = r.skip (m + n) := by
  simp only [skip, Nat.mul_add, Nat.add_assoc]

theorem ahead_of_drop {data : ByteArray} {i : Nat} (hi : i ≤ data.size) {bytes : List UInt8}
    (h : data.data.toList.drop i = bytes) : (BitReader.mk data (8 * i)).Ahead bytes := by
  have hposition : 8 * i / 8 = i := Nat.mul_div_cancel_left i (by decide)
  exact ⟨Nat.mul_mod_right 8 i, hposition.symm ▸ hi, hposition.symm ▸ h⟩

theorem Ahead.size {bytes : List UInt8} (h : r.Ahead bytes) :
    r.data.size = r.position / 8 + bytes.length := by
  have hlength : bytes.length = r.data.size - r.position / 8 := by
    rw [← h.drop, List.length_drop]
    rfl
  have hwithin := h.within
  omega

theorem Ahead.skip {bytes : List UInt8} (h : r.Ahead (bytes ++ rest)) :
    (r.skip bytes.length).Ahead rest := by
  have hwhole := h.whole
  have hsize := h.size
  rw [List.length_append] at hsize
  have hposition : (r.skip bytes.length).position / 8 = r.position / 8 + bytes.length := by
    simp only [BitReader.skip]
    omega
  refine ⟨?_, ?_, ?_⟩
  · simp only [BitReader.skip]
    omega
  · rw [hposition]
    change _ ≤ r.data.size
    omega
  · rw [hposition, ← List.drop_drop]
    exact (congrArg _ h.drop).trans List.drop_left

theorem Ahead.align {bytes : List UInt8} (h : r.Ahead bytes) : r.align = r := by
  have hposition : (r.position + 7) / 8 * 8 = r.position := by
    have := h.whole
    omega
  rw [BitReader.align, hposition]

/-- Some bits of the byte ahead, the lowest of which is bit `offset`. -/
theorem Ahead.bits (h : r.Ahead (b :: rest)) (offset count : Nat) (hle : offset + count ≤ 8) :
    bits? count { r with position := r.position + offset } =
      some (b.toNat / 2 ^ offset % 2 ^ count,
        { r with position := r.position + (offset + count) }) := by
  induction count generalizing offset with
  | zero => rw [bits?, Nat.pow_zero, Nat.mod_one, Nat.add_zero]
  | succ count ih =>
    obtain ⟨hlt, hbyte⟩ := exists_getElem_of_drop h.drop
    have hwhole := h.whole
    have hindex : (r.position + offset) / 8 = r.position / 8 := by omega
    have hoffset : (r.position + offset) % 8 = offset := by omega
    have hbit : bit? { r with position := r.position + offset } =
        some (b.toNat / 2 ^ offset % 2, { r with position := r.position + (offset + 1) }) := by
      simp only [bit?, hindex, hoffset, dif_pos hlt, hbyte, Nat.shiftRight_eq_div_pow, Nat.add_assoc]
    have hvalue : b.toNat / 2 ^ offset % 2 + 2 * (b.toNat / 2 ^ (offset + 1) % 2 ^ count) =
        b.toNat / 2 ^ offset % 2 ^ (count + 1) := by
      rw [Nat.pow_succ, ← Nat.div_div_eq_div_mul, Nat.pow_succ', Nat.mod_mul]
    rw [bits?, hbit]
    simp only [Option.bind_eq_bind, Option.bind_some, ih (offset + 1) (by omega),
      Option.pure_def, hvalue, Nat.add_assoc, Nat.add_comm 1 count]

/-- Bits behind others are the high ones. -/
theorem bits?_add {m n a b : Nat} {r r' r'' : BitReader} (ha : bits? m r = some (a, r'))
    (hb : bits? n r' = some (b, r'')) : bits? (m + n) r = some (a + 2 ^ m * b, r'') := by
  induction m generalizing r a with
  | zero =>
    cases ha
    simpa using hb
  | succ m ih =>
    rw [bits?] at ha
    obtain ⟨⟨bit, next⟩, hbit, ha⟩ := Option.bind_eq_some_iff.1 ha
    obtain ⟨⟨low, last⟩, hlow, ha⟩ := Option.bind_eq_some_iff.1 ha
    cases ha
    rw [Nat.succ_add, bits?, hbit]
    simp only [Option.bind_eq_bind, Option.bind_some, ih hlow, Option.pure_def, Option.some.injEq,
      Prod.mk.injEq, and_true]
    ring

theorem Ahead.byte (h : r.Ahead (b :: rest)) : bits? 8 r = some (b.toNat, r.skip 1) := by
  have hbits := h.bits 0 8 (Nat.le_refl 8)
  rwa [Nat.pow_zero, Nat.div_one, Nat.mod_eq_of_lt b.toNat_lt, Nat.add_zero] at hbits

theorem Ahead.word {n : Nat} (h : r.Ahead (littleEndian 2 n ++ rest)) :
    bits? 16 r = some (n % 65536, r.skip 2) := by
  obtain ⟨low, high, hbytes, hvalue⟩ := littleEndian_two n
  rw [hbytes] at h
  have hfirst : r.Ahead ([low] ++ high :: rest) := h
  have hnext : (r.skip 1).Ahead (high :: rest) := hfirst.skip
  have hboth : bits? (8 + 8) r = some (low.toNat + 2 ^ 8 * high.toNat, r.skip 2) :=
    bits?_add h.byte hnext.byte
  rw [← hvalue]
  exact hboth

theorem Ahead.bytes {block : ByteArray} (h : r.Ahead (block.data.toList ++ rest)) :
    bytes? block.size r = some (block, r.skip block.size) := by
  have hwhole := h.whole
  have hsize := h.size
  rw [List.length_append, show block.data.toList.length = block.size from rfl] at hsize
  have hextract : r.data.extract (r.position / 8) (r.position / 8 + block.size) = block := by
    refine ByteArray.ext (Array.toList_inj.1 ?_)
    rw [ByteArray.data_extract, Array.toList_extract, List.extract_eq_take_drop, h.drop,
      Nat.add_sub_cancel_left]
    exact List.take_left
  have hposition : (r.position / 8 + block.size) * 8 = r.position + 8 * block.size := by omega
  simp only [bytes?, hextract, hposition]
  rw [if_pos (by omega)]
  rfl

end BitReader

/-! ### Stored blocks -/

open BitReader

/-- A block of stored bytes: its mark, its length and the complement of that, and the bytes. -/
def storedBlock (mark : UInt8) (block : ByteArray) : ByteArray :=
  ⟨(mark :: littleEndian 2 block.size ++ littleEndian 2 (0xFFFF - block.size)).toArray⟩ ++ block

theorem toList_storedBlock (mark : UInt8) (block : ByteArray) :
    (storedBlock mark block).data.toList =
      mark :: (littleEndian 2 block.size ++ (littleEndian 2 (0xFFFF - block.size) ++
        block.data.toList)) := by
  rw [storedBlock, ByteArray.data_append, Array.toList_append]
  simp

theorem size_storedBlock (mark : UInt8) (block : ByteArray) :
    (storedBlock mark block).size = 5 + block.size := by
  rw [storedBlock, ByteArray.size_append]
  rfl

variable {limit : Nat} {out block : ByteArray} {r : BitReader} {rest : List UInt8}

theorem inflateStored_of_ahead (hsize : block.size ≤ 0xFFFF) (hlimit : out.size + block.size < limit)
    (h : r.align.Ahead (littleEndian 2 block.size ++ (littleEndian 2 (0xFFFF - block.size) ++
      (block.data.toList ++ rest)))) :
    inflateStored limit out r = some (.done (out ++ block) (r.align.skip (4 + block.size))) := by
  have hcomplement : (r.align.skip 2).Ahead _ := h.skip
  have hblock : (r.align.skip 4).Ahead _ := skip_skip r.align 2 2 ▸ hcomplement.skip
  have hlength : bits? 16 r.align = some (block.size, r.align.skip 2) := by
    rw [h.word, Nat.mod_eq_of_lt (Nat.lt_succ_of_le hsize)]
  have hother : bits? 16 (r.align.skip 2) = some (0xFFFF - block.size, r.align.skip 4) := by
    rw [hcomplement.word, Nat.mod_eq_of_lt (by omega), skip_skip]
  have havailable : block.size ≤ (r.align.skip 4).data.size - (r.align.skip 4).position / 8 := by
    rw [hblock.size, Nat.add_sub_cancel_left, List.length_append]
    exact Nat.le_add_right _ _
  have hbelow : ¬ limit ≤ (out ++ block).size := by
    rw [ByteArray.size_append]
    omega
  have hsum : block.size + (0xFFFF - block.size) = 0xFFFF := by omega
  simp only [inflateStored, hlength, hother, Option.bind_eq_bind, Option.bind_some, hsum, ne_eq,
    not_true_eq_false, if_false]
  rw [Nat.min_eq_left havailable]
  simp only [hblock.bytes, Option.bind_some, if_neg hbelow, if_neg (Nat.not_lt.2 havailable),
    skip_skip]
  rfl

/-- What a reader makes of a stored block that does not reach the limit. -/
theorem inflateBlocks_storedBlock {mark : UInt8} (hmark : mark = 0 ∨ mark = 1) (fuel : Nat)
    (hsize : block.size ≤ 0xFFFF) (hlimit : out.size + block.size < limit)
    (h : r.Ahead ((storedBlock mark block).data.toList ++ rest)) :
    inflateBlocks limit (fuel + 1) out r =
      if mark = 1 then some (.done (out ++ block) (r.skip (storedBlock mark block).size))
      else inflateBlocks limit fuel (out ++ block) (r.skip (storedBlock mark block).size) := by
  have haligned : (r.skip (storedBlock mark block).size).align =
      r.skip (storedBlock mark block).size :=
    h.skip.align
  rw [toList_storedBlock, List.cons_append, List.append_assoc, List.append_assoc] at h
  have hlast : bits? 1 r = some (mark.toNat, { r with position := r.position + 1 }) := by
    have hbits := h.bits 0 1 (by decide)
    rcases hmark with rfl | rfl <;> exact hbits
  have hkind : bits? 2 { r with position := r.position + 1 } =
      some (0, { r with position := r.position + 3 }) := by
    have hbits := h.bits 1 2 (by decide)
    rcases hmark with rfl | rfl <;> exact hbits
  have halign : align { r with position := r.position + 3 } = r.skip 1 := by
    have hwhole := h.whole
    simp only [align, BitReader.skip, BitReader.mk.injEq, true_and]
    omega
  have hmarked : r.Ahead ([mark] ++ _) := h
  have hbytes : (align { r with position := r.position + 3 }).Ahead _ := halign ▸ hmarked.skip
  have hstored := inflateStored_of_ahead hsize hlimit hbytes
  have hend : (r.skip 1).skip (4 + block.size) = r.skip (storedBlock mark block).size := by
    rw [skip_skip, size_storedBlock, ← Nat.add_assoc]
  rw [halign, hend] at hstored
  rw [inflateBlocks]
  simp only [hlast, hkind, hstored, Option.bind_eq_bind, Option.bind_some, haligned]
  rcases hmark with rfl | rfl <;> rfl

/-! ### Members -/

theorem storedBlocks_zero (data : ByteArray) (start : Nat) :
    storedBlocks data 0 start = storedBlock 1 (data.extract start data.size) := rfl

theorem storedBlocks_succ (data : ByteArray) {count start : Nat}
    (h : start + blockLength ≤ data.size) :
    storedBlocks data (count + 1) start =
      storedBlock 0 (data.extract start (start + blockLength)) ++
        storedBlocks data count (start + blockLength) := by
  have hsize : (data.extract start (start + blockLength)).size = blockLength := by
    rw [ByteArray.size_extract, Nat.min_eq_left h, Nat.add_sub_cancel_left]
  rw [storedBlocks, storedBlock, hsize]

/-- Every block takes a byte at least, so there is fuel for all of them. -/
theorem lt_size_storedBlocks (data : ByteArray) (count start : Nat) :
    count < (storedBlocks data count start).size := by
  induction count generalizing start with
  | zero =>
    rw [storedBlocks_zero, size_storedBlock]
    omega
  | succ count ih =>
    have hrest := ih (start + blockLength)
    have hmark : (ByteArray.mk (0 :: littleEndian 2 blockLength ++
        littleEndian 2 (0xFFFF - blockLength)).toArray).size = 5 := rfl
    rw [storedBlocks, ByteArray.size_append, ByteArray.size_append, hmark]
    omega

/-- Stored blocks are inflated to what is left of the data. -/
theorem inflateBlocks_storedBlocks {data : ByteArray} {count start : Nat} {fuel : Nat}
    (hfuel : count < fuel) (hleast : start + count * blockLength ≤ data.size)
    (hgreatest : data.size ≤ start + (count + 1) * blockLength)
    (hlimit : out.size + (data.size - start) < limit)
    (h : r.Ahead ((storedBlocks data count start).data.toList ++ rest)) :
    inflateBlocks limit fuel out r = some (.done (out ++ data.extract start data.size)
      (r.skip (storedBlocks data count start).size)) := by
  induction count generalizing start fuel out r with
  | zero =>
    obtain ⟨fuel, rfl⟩ := Nat.exists_eq_add_of_lt hfuel
    have hsize : (data.extract start data.size).size = data.size - start := by
      rw [ByteArray.size_extract, Nat.min_self]
    rw [blockLength] at hgreatest
    rw [storedBlocks_zero] at h ⊢
    rw [inflateBlocks_storedBlock (.inr rfl) _ (by omega) (by omega) h, if_pos rfl]
  | succ count ih =>
    obtain ⟨fuel, rfl⟩ := Nat.exists_eq_add_of_lt hfuel
    have hstart : start + blockLength ≤ data.size := by
      rw [Nat.succ_mul] at hleast
      omega
    have hsize : (data.extract start (start + blockLength)).size = blockLength := by
      rw [ByteArray.size_extract, Nat.min_eq_left hstart, Nat.add_sub_cancel_left]
    have hwhole : data.extract start (start + blockLength) ++
        data.extract (start + blockLength) data.size = data.extract start data.size := by
      rw [ByteArray.extract_append_extract, Nat.min_eq_left (Nat.le_add_right _ _),
        Nat.max_eq_right hstart]
    rw [storedBlocks_succ data hstart, ByteArray.data_append, Array.toList_append,
      List.append_assoc] at h
    have hroom : out.size + (data.extract start (start + blockLength)).size < limit := by omega
    have hblock :=
      inflateBlocks_storedBlock (.inl rfl) (count + 1 + fuel) (Nat.le_of_eq hsize) hroom h
    have hrest : inflateBlocks limit (count + 1 + fuel)
        (out ++ data.extract start (start + blockLength)) (r.skip _) = _ :=
      ih (by omega) (by rw [Nat.succ_mul] at hleast; omega)
        (by rw [Nat.succ_mul] at hgreatest; omega) (by rw [ByteArray.size_append]; omega) h.skip
    rw [if_neg (by decide)] at hblock
    rw [hblock]
    refine hrest.trans ?_
    rw [ByteArray.append_assoc, hwhole, storedBlocks_succ data hstart, ByteArray.size_append,
      ← skip_skip]
    rfl

/-- The bytes in front of the stored blocks of a member. -/
def header : List UInt8 :=
  [0x1f, 0x8b, 8, 0, 0, 0, 0, 0, 0, 0xff]

theorem toList_gzip (data : ByteArray) :
    (gzip data).data.toList =
      header ++ ((storedBlocks data ((data.size - 1) / blockLength) 0).data.toList ++
        (littleEndian 4 (crc32 data).toNat ++ littleEndian 4 (data.size % 0x100000000))) := by
  rw [gzip, ByteArray.data_append, ByteArray.data_append, Array.toList_append, Array.toList_append,
    List.append_assoc]
  rfl

theorem afterHeader?_gzip (data : ByteArray) : afterHeader? (gzip data) = some 10 := by
  have hbytes := toList_gzip data
  have hsize : ¬ (gzip data).size < 10 := by
    have hlength := congrArg List.length hbytes
    rw [List.length_append, show (gzip data).data.toList.length = (gzip data).size from rfl,
      show header.length = 10 from rfl] at hlength
    omega
  have hmagic : word16? (gzip data) 0 = some 0x8b1f :=
    word16?_of_drop (n := 0x8b1f) hbytes
  have hkind : word16? (gzip data) 2 = some 8 :=
    word16?_of_drop (n := 8) (congrArg (List.drop 2) hbytes)
  simp only [afterHeader?, if_neg hsize, hmagic, hkind, Option.bind_eq_bind, Option.bind_some]
  -- no flag is set, so there is nothing behind the fixed part
  simp

/-- What is read of a member is the data that it was written with, if no limit is reached. -/
theorem restores_gzip : Restores gzip := by
  intro data limit h
  let trailer := littleEndian 4 (crc32 data).toNat ++ littleEndian 4 (data.size % 0x100000000)
  let count := (data.size - 1) / blockLength
  let blocks := storedBlocks data count 0
  let start : BitReader := ⟨gzip data, 8 * 10⟩
  have hbytes : (gzip data).data.toList = header ++ (blocks.data.toList ++ trailer) :=
    toList_gzip data
  have hsize : (gzip data).size = 10 + (blocks.size + trailer.length) := by
    have hlength := congrArg List.length hbytes
    rwa [List.length_append, List.length_append] at hlength
  have hstart : start.Ahead (blocks.data.toList ++ trailer) :=
    ahead_of_drop (by omega) (congrArg (List.drop 10) hbytes)
  have hblocks : inflate limit (gzip data) 10 = some (.done data (start.skip blocks.size)) := by
    have hcount : count < blocks.size := lt_size_storedBlocks data count 0
    have hleast : count * blockLength ≤ data.size - 1 := Nat.div_mul_le_self _ _
    have hgreatest : data.size - 1 < blockLength * (count + 1) :=
      Nat.lt_mul_div_succ _ (by decide)
    have hinflated : inflateBlocks limit (8 * (gzip data).size + 1) .empty start = _ :=
      inflateBlocks_storedBlocks (by omega) (by omega) (by rw [Nat.mul_comm]; omega)
        (by rw [ByteArray.size_empty]; omega) hstart
    rwa [ByteArray.empty_append, ByteArray.extract_zero_size] at hinflated
  have htrailer : (start.skip blocks.size).Ahead trailer := hstart.skip
  have hrest : ((start.skip blocks.size).skip 4).Ahead
      (littleEndian 4 (data.size % 0x100000000)) :=
    htrailer.skip
  have hcheck : word32? (gzip data) ((start.skip blocks.size).position / 8) =
      some (crc32 data).toNat :=
    word32?_of_drop (crc32 data).toNat_lt htrailer.drop
  have hlength : word32? (gzip data) ((start.skip blocks.size).position / 8 + 4) =
      some (data.size % 0x100000000) := by
    have hposition : ((start.skip blocks.size).skip 4).position / 8 =
        (start.skip blocks.size).position / 8 + 4 := by
      simp only [BitReader.skip]
      omega
    have hdrop := hrest.drop
    rw [hposition, ← List.append_nil (littleEndian 4 _)] at hdrop
    exact word32?_of_drop (Nat.mod_lt _ (by decide)) hdrop
  rw [gunzip, afterHeader?_gzip]
  simp only [Option.bind_eq_bind, Option.bind_some, hblocks, hcheck, hlength]
  simp

end SensorRouter.Gzip
