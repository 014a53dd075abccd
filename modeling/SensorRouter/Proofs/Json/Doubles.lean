import SensorRouter.Proofs.Json.Integers

/-!
Floating point numbers in texts. What is written of one is a single word of digits, points, signs and
exponent marks, so a number that is read back from a text of its own is read back wherever it stands
apart.
-/

namespace SensorRouter.Json

open Token (isWordChar)

/-! ### Words -/

/-- All characters may stand in a word. -/
def Wordlike (cs : List Char) : Prop :=
  ∀ c ∈ cs, isWordChar c = true

section Words

variable {cs ds : List Char} {c : Char}

theorem wordlike_nil : Wordlike [] := nofun

theorem Wordlike.cons (hc : isWordChar c = true) (h : Wordlike cs) : Wordlike (c :: cs) :=
  List.forall_mem_cons.2 ⟨hc, h⟩

theorem Wordlike.append (h : Wordlike cs) (h' : Wordlike ds) : Wordlike (cs ++ ds) :=
  fun c hc => (List.mem_append.1 hc).elim (h c) (h' c)

theorem Wordlike.of_subset (h : Wordlike ds) (hsubset : cs ⊆ ds) : Wordlike cs :=
  fun c hc => h c (hsubset hc)

theorem wordlike_replicate (hc : isWordChar c = true) (n : Nat) : Wordlike (List.replicate n c) := by
  intro d hd
  rw [(List.mem_replicate.1 hd).2]
  exact hc

theorem wordlike_toDigits (n : Nat) : Wordlike (Nat.toDigits 10 n) :=
  fun _ hc => Token.isWordChar_of_isDigit (Numeral.isDigit_of_mem_toDigits hc)

end Words

/-! ### Texts of finite numbers -/

namespace NumberText

open NumberForm

variable {form : NumberForm} {digits : List Char}

theorem wordlike_significant (d : Double.Decimal) : Wordlike d.significant.1 := by
  apply (wordlike_toDigits d.digits).of_subset
  intro c hc
  have hkept := List.mem_reverse.1 hc
  exact List.mem_reverse.1 ((List.dropWhile_sublist _).subset hkept)

theorem wordlike_positionalText (hsuffix : Wordlike form.wholeSuffix.toList)
    (hdigits : Wordlike digits) (point : Int) : Wordlike (form.positionalText digits point) := by
  have hzeros (n : Nat) : Wordlike (List.replicate n '0') := wordlike_replicate (by decide) n
  have hwhole : Wordlike (digits.take point.toNat) := hdigits.of_subset (List.take_subset _ _)
  have hfraction : Wordlike (digits.drop point.toNat) := hdigits.of_subset (List.drop_subset _ _)
  unfold positionalText
  split
  · exact .cons (by decide) (.cons (by decide) ((hzeros _).append hdigits))
  · dsimp only
    split
    · exact (hwhole.append (hzeros _)).append hsuffix
    · exact hwhole.append (.cons (by decide) hfraction)

theorem wordlike_exponentText (hdigits : Wordlike digits) (point : Int) :
    Wordlike (exponentText digits point) := by
  have hsign : isWordChar (if point - 1 < 0 then '-' else '+') = true := by
    split <;> decide
  have hpower : Wordlike (toString (point - 1).natAbs).toList := by
    rw [Nat.toString_eq_repr, Nat.toList_repr]
    exact wordlike_toDigits _
  have hmark : isWordChar 'e' = true := by decide
  unfold exponentText
  apply Wordlike.append
  · split
    · obtain ⟨hd, hrest⟩ := List.forall_mem_cons.1 hdigits
      exact .cons hd (.cons (by decide) hrest)
    · exact hdigits
  · exact .cons hmark (.cons hsign hpower)

theorem wordlike_magnitudeText (hsuffix : Wordlike form.wholeSuffix.toList) (significand : Nat)
    (exponent : Int) (x : Double) (negative : Bool) :
    Wordlike (form.magnitudeText significand exponent x negative) := by
  unfold magnitudeText
  split
  · exact .cons (by decide) hsuffix
  · have hdigits := wordlike_significant
      (Double.shortest form.tie negative significand exponent x)
    dsimp only
    split
    · exact wordlike_positionalText hsuffix hdigits _
    · exact wordlike_exponentText hdigits _

end NumberText

theorem Number.wordlike_text_double {x : Double} (h : x.isFinite) :
    Wordlike (Number.double x).text.toList := by
  have hsuffix : Wordlike form.wholeSuffix.toList :=
    .cons (c := '.') (by decide) (.cons (c := '0') (by decide) wordlike_nil)
  cases x with
  | finite negative m e hcanonical =>
    change Wordlike (String.ofList _).toList
    rw [String.toList_ofList]
    have hsign : Wordlike (if negative then ['-'] else []) := by
      cases negative with
      | false => exact wordlike_nil
      | true => exact .cons (by decide) wordlike_nil
    exact hsign.append (NumberText.wordlike_magnitudeText hsuffix m e _ negative)
  | infinite | nan => exact nomatch h

/-! ### Reading back -/

/-- A text of word characters is scanned as the token of its word. -/
theorem Token.drive_wordlike {word : List Char} (hne : word ≠ []) (hword : Wordlike word) :
    drive ⟨.between, []⟩ word = (ofWord word).map fun t => [t] := by
  obtain ⟨c, more, rfl⟩ := List.exists_cons_of_ne_nil hne
  obtain ⟨hc, hmore⟩ := List.forall_mem_cons.1 hword
  have hstep : step ⟨.between, []⟩ (some c) = some ⟨.word [c], []⟩ := between_of_isWordChar hc []
  have hchars : drive ⟨.word [c], []⟩ (more ++ []) = _ := drive_wordChars [c] hmore
  rw [List.append_nil] at hchars
  rw [drive_cons _ hstep, hchars]
  change (ofWord (more.reverse ++ [c]).reverse).map _ = _
  rw [List.reverse_append, List.reverse_reverse]
  rfl

/-- Of single tokens only a number has a number as its value. -/
theorem Token.eq_number_of_value {t : Token} {d : Document} {n : Number}
    (hread : Document.ofTokens [t] = some d) (hvalue : d.value? = some (.number n)) :
    t = .number (some n) := by
  cases t with
  | number found =>
    cases hread
    cases found with
    | none => exact nomatch hvalue
    | some found =>
      cases hvalue
      rfl
  | string s =>
    cases hread
    cases s <;> exact nomatch hvalue
  | null | bool b =>
    cases hread
    exact nomatch hvalue
  | _ => exact nomatch hread

/-- What is written of the number alone is read as the number again. Not every finite number is
faithful: the reader rounds the digits to a significand of 64 bits before it scales it. -/
def Faithful (x : Double) : Prop :=
  Value.ofText (Value.double x).text = some (.double x)

/-- The floating point number that a value is. -/
def Value.asDouble? : Value → Option Double
  | .number (.double x) => some x
  | _ => none

theorem Value.asDouble?_eq_some_iff {v : Value} {x : Double} :
    v.asDouble? = some x ↔ v = .double x := by
  constructor
  · intro h
    unfold asDouble? at h
    split at h
    · cases h
      rfl
    · exact nomatch h
  · rintro rfl
    rfl

theorem faithful_iff {x : Double} :
    Faithful x ↔ (Value.ofText (Value.double x).text).bind Value.asDouble? = some x := by
  rw [Option.bind_eq_some_iff]
  simp only [Value.asDouble?_eq_some_iff, exists_eq_right]
  rfl

instance : DecidablePred Faithful :=
  fun _ => decidable_of_iff _ faithful_iff.symm

/-- A finite number that is read back from a text of its own is read back from any text. -/
theorem Faithful.readsBack {x : Double} (h : Faithful x) (hfinite : x.isFinite) :
    (Number.double x).ReadsBack := by
  have hword := Number.wordlike_text_double hfinite
  have htext : (Value.double x).text = (Number.double x).text := by
    change String.ofList ((Number.double x).text.toList ++ []) = _
    rw [List.append_nil, String.ofList_toList]
  have hne : (Number.double x).text.toList ≠ [] := by
    intro hempty
    rw [Faithful, htext, String.toList_eq_nil_iff.1 hempty] at h
    exact nomatch h
  obtain ⟨d, hdocument, hvalue⟩ := Option.bind_eq_some_iff.1 h
  rw [htext] at hdocument
  obtain ⟨tokens, hscan, hread⟩ := Option.bind_eq_some_iff.1 hdocument
  have hdrive := Token.drive_wordlike hne hword
  obtain ⟨t, ht, rfl⟩ := Option.map_eq_some_iff.1 (hdrive.symm.trans hscan)
  refine ⟨hne, hword, ht.trans (congrArg some ?_)⟩
  exact Token.eq_number_of_value hread hvalue

end SensorRouter.Json
