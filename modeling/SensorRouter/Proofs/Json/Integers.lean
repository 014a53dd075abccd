import Mathlib
import SensorRouter.Proofs.Json.RoundTrip

/-!
Integers of 64 bits are read back as they are written. Their text is a run of digits without a
superfluous zero in front, behind a minus sign if they are negative.
-/

namespace SensorRouter.Json

/-- An integer that fits 64 bits, with or without a sign. -/
def Number.Whole : Number → Prop
  | .integer i => leastInteger ≤ i ∧ i ≤ greatestInteger
  | .double _ => False

instance : DecidablePred Number.Whole
  | .integer _ => inferInstanceAs (Decidable (_ ∧ _))
  | .double _ => inferInstanceAs (Decidable False)

namespace Numeral

/-! ### Digits -/

theorem isDigit_of_mem_toDigits {n : Nat} {c : Char} (h : c ∈ Nat.toDigits 10 n) :
    isDigit c = true := by
  have hdigit := Nat.isDigit_of_mem_toDigits (by decide) (by decide) h
  rw [Char.isDigit, Bool.and_eq_true, decide_eq_true_eq, decide_eq_true_eq] at hdigit
  exact Bool.and_eq_true_iff.2 ⟨decide_eq_true hdigit.1, decide_eq_true hdigit.2⟩

theorem head?_toDigits_ne_zero {n : Nat} (h : 0 < n) : (Nat.toDigits 10 n).head? ≠ some '0' := by
  induction n using Nat.strong_induction_on with
  | h n ih =>
    rw [Nat.toDigits_eq_if (by decide)]
    split
    · simpa using Nat.ne_of_gt h
    · have hfront := ih (n / 10) (by omega) (by omega)
      rwa [List.head?_append_of_ne_nil _ Nat.toDigits_ne_nil]

theorem wholeDigits_toDigits (n : Nat) :
    wholeDigits (Nat.toDigits 10 n) = some (digitsOf (Nat.toDigits 10 n)) := by
  have hall : allDigits (Nat.toDigits 10 n) = some (digitsOf (Nat.toDigits 10 n)) :=
    if_pos ⟨Nat.toDigits_ne_nil, List.all_eq_true.2 fun _ => isDigit_of_mem_toDigits⟩
  unfold wholeDigits
  split
  · next hzero =>
    rcases Nat.eq_zero_or_pos n with rfl | hpos
    · rw [Nat.toDigits_zero] at hzero
      exact nomatch hzero
    · exact absurd (congrArg List.head? hzero) (head?_toDigits_ne_zero hpos)
  · exact hall

theorem value_toDigits (n : Nat) : value (digitsOf (Nat.toDigits 10 n)) = n := by
  have hdigits : Nat.ofDigitChars 10 (Nat.toDigits 10 n) 0 = n := Nat.ofDigitChars_ten_toDigits
  rw [Nat.ofDigitChars_eq_foldl] at hdigits
  rw [value, digitsOf, List.foldl_map]
  simpa only [Nat.mul_comm 10] using hdigits

/-! ### Numerals -/

theorem splitAt_of_not_mem {mark : Char → Bool} {cs : List Char} (h : ∀ c ∈ cs, mark c = false) :
    splitAt mark cs = (cs, none) := by
  have hnone : cs.dropWhile (fun c => !mark c) = [] :=
    List.dropWhile_eq_nil_iff.2 fun c hc => by rw [h c hc]; rfl
  rw [splitAt, hnone]

theorem ne_of_isDigit {c d : Char} (hc : isDigit c = true) (hd : isDigit d = false) : c ≠ d := by
  rintro rfl
  exact Bool.false_ne_true (hd.symm.trans hc)

theorem ofUnsigned_toDigits (negative : Bool) (n : Nat) :
    ofUnsigned negative (Nat.toDigits 10 n) =
      some ⟨negative, digitsOf (Nat.toDigits 10 n), none, none⟩ := by
  have hexponent : splitAt (fun c => c = 'e' || c = 'E') (Nat.toDigits 10 n) =
      (Nat.toDigits 10 n, none) :=
    splitAt_of_not_mem fun c hc => by
      have hdigit := isDigit_of_mem_toDigits hc
      simp [ne_of_isDigit hdigit (show isDigit 'e' = false by decide),
        ne_of_isDigit hdigit (show isDigit 'E' = false by decide)]
  have hfraction : splitAt (· == '.') (Nat.toDigits 10 n) = (Nat.toDigits 10 n, none) :=
    splitAt_of_not_mem fun c hc =>
      beq_false_of_ne (ne_of_isDigit (isDigit_of_mem_toDigits hc) (by decide))
  simp only [ofUnsigned, hexponent, hfraction, wholeDigits_toDigits]
  rfl

theorem ofChars_toDigits (n : Nat) :
    ofChars (Nat.toDigits 10 n) = some ⟨false, digitsOf (Nat.toDigits 10 n), none, none⟩ := by
  rw [← ofUnsigned_toDigits]
  unfold ofChars
  split
  · next hminus =>
    have hmem : '-' ∈ Nat.toDigits 10 n := hminus ▸ List.mem_cons_self
    exact absurd (isDigit_of_mem_toDigits hmem) (by decide)
  · rfl

end Numeral

/-! ### Words -/

/-- Words of digits, possibly behind a minus sign, are numerals. -/
theorem Token.ofWord_of_digits {cs : List Char} (h : ∀ c ∈ cs, c = '-' ∨ Numeral.isDigit c = true) :
    ofWord cs = (Numeral.ofChars cs).map fun n => .number n.number? := by
  have hother : ∀ word : List Char, (word.any fun c => c != '-' && !Numeral.isDigit c) = true →
      cs ≠ word := by
    rintro word hletter rfl
    obtain ⟨c, hc, hnot⟩ := List.any_eq_true.1 hletter
    rcases h c hc with rfl | hdigit
    · exact Bool.false_ne_true hnot
    · rw [hdigit, Bool.not_true, Bool.and_false] at hnot
      exact Bool.false_ne_true hnot
  rw [ofWord, if_neg (hother _ rfl), if_neg (hother _ rfl), if_neg (hother _ rfl)]

theorem Token.isWordChar_of_isDigit {c : Char} (h : Numeral.isDigit c = true) :
    isWordChar c = true := by
  simp only [isWordChar, h, Bool.true_or]

namespace Number

theorem toList_text_integer (i : Int) :
    (integer i).text.toList =
      if 0 ≤ i then Nat.toDigits 10 i.natAbs else '-' :: Nat.toDigits 10 i.natAbs := by
  rw [text, Int.toString_eq_repr, Int.repr_eq_if]
  by_cases hsign : 0 ≤ i
  · have habs : i.toNat = i.natAbs := by omega
    rw [if_pos hsign, if_pos hsign, Nat.toList_repr, habs]
  · have habs : (-i).toNat = i.natAbs := by omega
    rw [if_neg hsign, if_neg hsign, String.toList_append, Nat.toList_repr, habs]
    rfl

theorem ofChars_text_integer (i : Int) :
    Numeral.ofChars (integer i).text.toList =
      some ⟨decide (i < 0), Numeral.digitsOf (Nat.toDigits 10 i.natAbs), none, none⟩ := by
  rw [toList_text_integer]
  by_cases hsign : 0 ≤ i
  · rw [if_pos hsign, Numeral.ofChars_toDigits, decide_eq_false (Int.not_lt.2 hsign)]
  · rw [if_neg hsign, Numeral.ofChars, Numeral.ofUnsigned_toDigits,
      decide_eq_true (Int.not_le.1 hsign)]

theorem mem_text_integer {i : Int} {c : Char} (h : c ∈ (integer i).text.toList) :
    c = '-' ∨ Numeral.isDigit c = true := by
  rw [toList_text_integer] at h
  split at h
  · exact .inr (Numeral.isDigit_of_mem_toDigits h)
  · rcases List.mem_cons.1 h with hminus | hdigit
    · exact .inl hminus
    · exact .inr (Numeral.isDigit_of_mem_toDigits hdigit)

/-- What is written of an integer of 64 bits is read as that integer. -/
theorem Whole.readsBack {n : Number} (h : n.Whole) : n.ReadsBack := by
  cases n with
  | double x => exact h.elim
  | integer i =>
    obtain ⟨hleast, hgreatest⟩ := h
    refine ⟨?nonempty, fun c hc => ?word, ?token⟩
    case nonempty =>
      rw [toList_text_integer]
      split
      · exact Nat.toDigits_ne_nil
      · exact List.cons_ne_nil _ _
    case word =>
      rcases mem_text_integer hc with rfl | hdigit
      · decide
      · exact Token.isWordChar_of_isDigit hdigit
    case token =>
      -- a zero has no sign, so it is not taken for the negative zero
      have hsigned : (if decide (i < 0) then -(i.natAbs : Int) else i.natAbs) = i := by
        by_cases hsign : i < 0
        · rw [decide_eq_true hsign, if_pos rfl]
          omega
        · rw [decide_eq_false hsign, if_neg Bool.false_ne_true]
          omega
      have hzero : (decide (i < 0) && decide ((i.natAbs : Int) = 0)) = false := by
        by_cases hsign : i < 0
        · rw [decide_eq_false (p := (i.natAbs : Int) = 0) (by omega), Bool.and_false]
        · rw [decide_eq_false hsign, Bool.false_and]
      rw [Token.ofWord_of_digits fun c hc => mem_text_integer hc, ofChars_text_integer,
        Option.map_some, Numeral.number?]
      simp only [Numeral.value_toDigits, hsigned, hzero, Option.isNone_none, hleast, hgreatest,
        Bool.not_false, Bool.and_self, decide_true, if_true]

end Number

end SensorRouter.Json
