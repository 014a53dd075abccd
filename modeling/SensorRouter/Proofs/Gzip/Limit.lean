import Mathlib
import SensorRouter.Gzip.Member

/-!
Inflation with a limit. A run that comes to its end without reaching its limit comes to the same end
under every other limit that its output stays below, and under a lower one it is cut, at a front part of
that output which reaches the limit. So a reader with a limit reads the first bytes of what a reader
without one would read.
-/

namespace SensorRouter.Gzip

/-- The first bytes of `whole` are `front`. -/
def Front (front whole : ByteArray) : Prop :=
  ∃ more, whole = front ++ more

theorem Front.refl (out : ByteArray) : Front out out :=
  ⟨.empty, ByteArray.append_empty.symm⟩

theorem Front.trans {a b c : ByteArray} (h : Front a b) (h' : Front b c) : Front a c := by
  obtain ⟨more, rfl⟩ := h
  obtain ⟨most, rfl⟩ := h'
  exact ⟨more ++ most, ByteArray.append_assoc⟩

theorem front_append (out more : ByteArray) : Front out (out ++ more) :=
  ⟨more, rfl⟩

theorem front_push (out : ByteArray) (b : UInt8) : Front out (out.push b) :=
  ⟨[b].toByteArray, ByteArray.append_toByteArray_singleton.symm⟩

theorem front_copyBack (distance count : Nat) (out : ByteArray) :
    Front out (copyBack distance count out) := by
  induction count generalizing out with
  | zero => exact .refl out
  | succ count ih => exact (front_push out _).trans (ih _)

/-! ### Runs under a limit -/

/-- What a run comes to under a limit if it comes to an end with `out` without one. -/
def Progress.Limited (limit : Nat) (out : ByteArray) (rest : BitReader) : Progress → Prop
  | .cut front => limit ≤ front.size ∧ Front front out
  | .done out' rest' => out' = out ∧ rest' = rest ∧ out.size < limit

/-- A run from an output on, whose limit matters for nothing but where it is cut. -/
structure Steady (out : ByteArray) (run : (limit : Nat) → Option Progress) : Prop where
  cut : ∀ {limit front}, run limit = some (.cut front) → limit ≤ front.size
  grows : ∀ {limit out' rest}, run limit = some (.done out' rest) → Front out out'
  limited : ∀ {limit out' rest}, run limit = some (.done out' rest) → ∀ limit', out.size < limit' →
    ∃ p, run limit' = some p ∧ p.Limited limit' out' rest

theorem steady_none (out : ByteArray) : Steady out fun _ => none :=
  ⟨nofun, nofun, nofun⟩

theorem steady_done (out : ByteArray) (r : BitReader) : Steady out fun _ => some (.done out r) where
  cut := nofun
  grows h := by cases h; exact .refl out
  limited h limit' hlimit' := by cases h; exact ⟨_, rfl, rfl, rfl, hlimit'⟩

theorem steady_bind {α : Type} {out : ByteArray} {run : α → Nat → Option Progress}
    (h : ∀ a, Steady out (run a)) (x : Option α) : Steady out fun limit => x.bind (run · limit) := by
  cases x with
  | none => exact steady_none out
  | some a => exact h a

/-- A longer output, which is cut if it reaches the limit. -/
def emit (limit : Nat) (out : ByteArray) (r : BitReader) : Progress :=
  if limit ≤ out.size then .cut out else .done out r

/-- Runs on, unless the output has reached the limit. -/
def Progress.andThen (p : Progress) (next : ByteArray → BitReader → Option Progress) :
    Option Progress :=
  match p with
  | .cut out => some (.cut out)
  | .done out r => next out r

theorem emit_andThen (limit : Nat) (out : ByteArray) (r : BitReader)
    (next : ByteArray → BitReader → Option Progress) :
    (emit limit out r).andThen next = if limit ≤ out.size then some (.cut out) else next out r := by
  rw [emit]
  split <;> rfl

theorem emit_eq_cut {limit : Nat} {out front : ByteArray} {r : BitReader}
    (h : emit limit out r = .cut front) : front = out ∧ limit ≤ out.size := by
  rw [emit] at h
  split at h
  · cases h
    exact ⟨rfl, ‹_›⟩
  · cases h

theorem emit_eq_done {limit : Nat} {out out' : ByteArray} {r rest : BitReader}
    (h : emit limit out r = .done out' rest) : out' = out ∧ rest = r := by
  rw [emit] at h
  split at h
  · cases h
  · cases h
    exact ⟨rfl, rfl⟩

theorem emit_limited (limit : Nat) (out : ByteArray) (r : BitReader) :
    (emit limit out r).Limited limit out r := by
  rw [emit]
  split
  · exact ⟨‹_›, .refl out⟩
  · exact ⟨rfl, rfl, Nat.lt_of_not_le ‹_›⟩

theorem steady_emit {out out' : ByteArray} (h : Front out out') (r : BitReader) :
    Steady out fun limit => some (emit limit out' r) where
  cut hcut := by
    obtain ⟨rfl, hreached⟩ := emit_eq_cut (Option.some.inj hcut)
    exact hreached
  grows hdone := by
    obtain ⟨rfl, -⟩ := emit_eq_done (Option.some.inj hdone)
    exact h
  limited hdone limit' _ := by
    obtain ⟨rfl, rfl⟩ := emit_eq_done (Option.some.inj hdone)
    exact ⟨_, rfl, emit_limited limit' _ _⟩

/-- Two runs one after the other. -/
theorem Steady.andThen {out : ByteArray} {run : Nat → Option Progress}
    {next : Nat → ByteArray → BitReader → Option Progress} (h : Steady out run)
    (hnext : ∀ out r, Steady out fun limit => next limit out r) :
    Steady out fun limit => (run limit).bind (·.andThen (next limit)) where
  cut {limit front} hcut := by
    obtain ⟨p, hp, hcut⟩ := Option.bind_eq_some_iff.1 hcut
    cases p with
    | cut mid =>
      cases hcut
      exact h.cut hp
    | done mid r => exact (hnext mid r).cut hcut
  grows {limit out' rest} hdone := by
    obtain ⟨p, hp, hdone⟩ := Option.bind_eq_some_iff.1 hdone
    cases p with
    | cut mid => exact nomatch hdone
    | done mid r => exact (h.grows hp).trans ((hnext mid r).grows hdone)
  limited {limit out' rest} hdone limit' hlimit' := by
    obtain ⟨p, hp, hdone⟩ := Option.bind_eq_some_iff.1 hdone
    cases p with
    | cut mid => exact nomatch hdone
    | done mid r =>
      obtain ⟨q, hq, hlimited⟩ := h.limited hp limit' hlimit'
      cases q with
      | cut front =>
        obtain ⟨hreached, hfront⟩ := hlimited
        have hcut : (run limit').bind (·.andThen (next limit')) = some (.cut front) := by
          rw [hq]
          rfl
        exact ⟨_, hcut, hreached, hfront.trans ((hnext mid r).grows hdone)⟩
      | done _ _ =>
        obtain ⟨rfl, rfl, hbelow⟩ := hlimited
        obtain ⟨p', hp', hlimited'⟩ := (hnext _ _).limited hdone limit' hbelow
        exact ⟨p', by rw [hq]; exact hp', hlimited'⟩

/-! ### Blocks -/

theorem inflateSymbols_succ (limit : Nat) (literals distances : PrefixCode) (fuel : Nat)
    (out : ByteArray) (r : BitReader) :
    inflateSymbols limit literals distances (fuel + 1) out r =
      (literals.read r).bind fun symbol =>
        if symbol.1 < 256 then
          (some (emit limit (out.push symbol.1.toUInt8) symbol.2)).bind
            (·.andThen (inflateSymbols limit literals distances fuel))
        else if symbol.1 = 256 then some (.done out symbol.2)
        else
          (tableNumber? copyLengths (symbol.1 - 257) symbol.2).bind fun length =>
            (distances.read length.2).bind fun i =>
              (tableNumber? copyDistances i.1 i.2).bind fun distance =>
                (some (emit limit (copyBack distance.1 length.1 out) distance.2)).bind
                  (·.andThen (inflateSymbols limit literals distances fuel)) := by
  simp only [Option.bind_some, emit_andThen]
  rfl

theorem steady_inflateSymbols (literals distances : PrefixCode) (fuel : Nat) (out : ByteArray)
    (r : BitReader) : Steady out fun limit => inflateSymbols limit literals distances fuel out r := by
  induction fuel generalizing out r with
  | zero => exact steady_none out
  | succ fuel ih =>
    simp only [inflateSymbols_succ]
    refine steady_bind (fun symbol => ?_) _
    split
    · exact (steady_emit (front_push out _) _).andThen ih
    · split
      · exact steady_done out _
      · refine steady_bind (fun length => steady_bind (fun i => steady_bind (fun distance => ?_) _) _) _
        exact (steady_emit (front_copyBack _ _ out) _).andThen ih

theorem inflateStored_eq (limit : Nat) (out : ByteArray) (r : BitReader) :
    inflateStored limit out r =
      (r.align.bits? 16).bind fun length => (length.2.bits? 16).bind fun complement =>
        if length.1 + complement.1 ≠ 0xFFFF then none
        else
          (complement.2.bytes?
            (min length.1 (complement.2.data.size - complement.2.position / 8))).bind fun bytes =>
            (some (emit limit (out ++ bytes.1) bytes.2)).bind (·.andThen fun out r =>
              if complement.2.data.size - complement.2.position / 8 < length.1 then none
              else some (.done out r)) := by
  simp only [Option.bind_some, emit_andThen]
  rfl

theorem steady_inflateStored (out : ByteArray) (r : BitReader) :
    Steady out fun limit => inflateStored limit out r := by
  simp only [inflateStored_eq]
  refine steady_bind (fun length => steady_bind (fun complement => ?_) _) _
  split
  · exact steady_none out
  · refine steady_bind (fun bytes => ?_) _
    refine (steady_emit (front_append out _) _).andThen fun out r => ?_
    split
    · exact steady_none out
    · exact steady_done out r

/-- The run of one block, after its mark and kind. -/
def inflateBlock (kind limit : Nat) (out : ByteArray) (r : BitReader) : Option Progress :=
  match kind with
  | 0 => inflateStored limit out r
  | 1 => inflateSymbols limit fixedLiterals fixedDistances (8 * r.data.size + 1) out r
  | 2 => (readCodes r).bind fun (literals, distances, r) =>
    inflateSymbols limit literals distances (8 * r.data.size + 1) out r
  | _ => none

theorem steady_inflateBlock (kind : Nat) (out : ByteArray) (r : BitReader) :
    Steady out fun limit => inflateBlock kind limit out r := by
  match kind with
  | 0 => exact steady_inflateStored out r
  | 1 => exact steady_inflateSymbols _ _ _ out r
  | 2 =>
    refine steady_bind (fun codes => ?_) _
    exact steady_inflateSymbols codes.1 codes.2.1 _ out codes.2.2
  | _ + 3 => exact steady_none out

theorem inflateBlocks_succ (limit fuel : Nat) (out : ByteArray) (r : BitReader) :
    inflateBlocks limit (fuel + 1) out r =
      (r.bits? 1).bind fun last => (last.2.bits? 2).bind fun kind =>
        (inflateBlock kind.1 limit out kind.2).bind (·.andThen fun out r =>
          if last.1 = 1 then some (.done out r.align) else inflateBlocks limit fuel out r) := by
  rw [inflateBlocks]
  refine congrArg (Option.bind _) (funext fun (last, r) => ?_)
  refine congrArg (Option.bind _) (funext fun (kind, r) => ?_)
  match kind with
  | 0 => rfl
  | 1 => rfl
  | 2 => exact (Option.bind_assoc _ _ _).symm
  | _ + 3 => rfl

theorem steady_inflateBlocks (fuel : Nat) (out : ByteArray) (r : BitReader) :
    Steady out fun limit => inflateBlocks limit fuel out r := by
  induction fuel generalizing out r with
  | zero => exact steady_none out
  | succ fuel ih =>
    simp only [inflateBlocks_succ]
    refine steady_bind (fun last => steady_bind (fun kind => ?_) _) _
    refine (steady_inflateBlock kind.1 out kind.2).andThen fun out r => ?_
    split
    · exact steady_done out r.align
    · exact ih out r

/-! ### Members -/

theorem extract_of_front {front out : ByteArray} {limit : Nat} (h : Front front out)
    (hlimit : limit ≤ front.size) : front.extract 0 limit = out.extract 0 limit := by
  obtain ⟨more, rfl⟩ := h
  rw [ByteArray.extract_append, Nat.zero_sub, Nat.sub_eq_zero_of_le hlimit, ByteArray.extract_same,
    ByteArray.append_empty]

theorem extract_of_size_le {out : ByteArray} {limit : Nat} (h : out.size ≤ limit) :
    out.extract 0 limit = out :=
  ByteArray.ext (by rw [ByteArray.data_extract, Array.extract_eq_self_of_le h])

/-- A member that is read whole under one limit is read up to every other limit. -/
theorem gunzip_limit {data out : ByteArray} {limit : Nat} (h : gunzip limit data = some out)
    (hbelow : out.size < limit) {limit' : Nat} (hlimit' : 0 < limit') :
    gunzip limit' data = some (out.extract 0 limit') := by
  cases hheader : afterHeader? data with
  | none =>
    rw [gunzip, hheader] at h
    exact nomatch h
  | some start =>
    have hsteady : Steady .empty fun limit => inflate limit data start :=
      steady_inflateBlocks _ _ _
    rw [gunzip, hheader] at h
    rw [gunzip, hheader]
    simp only [Option.bind_eq_bind, Option.bind_some] at h ⊢
    obtain ⟨p, hp, h⟩ := Option.bind_eq_some_iff.1 h
    cases p with
    | cut front =>
      have hfront : limit ≤ front.size := hsteady.cut hp
      have hsize : (front.extract 0 limit).size = limit := by
        rw [ByteArray.size_extract, Nat.min_eq_left hfront, Nat.sub_zero]
      rw [Option.some.inj h] at hsize
      exact absurd hsize (Nat.ne_of_lt hbelow)
    | done whole rest =>
      have hwhole : whole = out := by
        obtain ⟨check, -, h⟩ := Option.bind_eq_some_iff.1 h
        obtain ⟨length, -, h⟩ := Option.bind_eq_some_iff.1 h
        split at h
        · exact Option.some.inj h
        · exact nomatch h
      subst hwhole
      obtain ⟨p', hp', hlimited⟩ := hsteady.limited hp limit' hlimit'
      cases p' with
      | cut front =>
        rw [hp', Option.bind_some]
        exact congrArg some (extract_of_front hlimited.2 hlimited.1)
      | done _ _ =>
        obtain ⟨rfl, rfl, hshort⟩ := hlimited
        rw [hp', Option.bind_some, extract_of_size_le (Nat.le_of_lt hshort)]
        exact h

/-- What is compressed is restored by a reader that may read more. -/
def Restores (compress : ByteArray → ByteArray) : Prop :=
  ∀ data limit, data.size < limit → gunzip limit (compress data) = some data

theorem Restores.gunzip {compress : ByteArray → ByteArray} (h : Restores compress)
    (data : ByteArray) {limit : Nat} (hlimit : 0 < limit) :
    gunzip limit (compress data) = some (data.extract 0 limit) :=
  gunzip_limit (h data (data.size + 1) (Nat.lt_succ_self _)) (Nat.lt_succ_self _) hlimit

end SensorRouter.Gzip
