import Mathlib
import SensorRouter.Text.Template

/-!
Substitution for marks that begin with a sign and do not have it again. Such marks never overlap, so a
template may be cut in front of any sign. Where a mark occurs, the value can be told from the result;
a mark that is not the one replaced stays where it is, and no new one comes about.
-/

namespace SensorRouter.Text

/-! ### Steps of a substitution -/

section

variable {mark value : List Char}

theorem substituteFrom_skip (mark value : List Char) (skip : Nat) (cs : List Char) :
    substituteFrom mark value skip cs = substituteFrom mark value 0 (cs.drop skip) := by
  induction cs generalizing skip with
  | nil => cases skip <;> rfl
  | cons c rest ih =>
    cases skip with
    | zero => rfl
    | succ skip => exact ih skip

/-- A mark at the head gives way to the value. -/
theorem substituteFrom_mark (h : mark ≠ []) (value rest : List Char) :
    substituteFrom mark value 0 (mark ++ rest) = value ++ substituteFrom mark value 0 rest := by
  obtain ⟨c, name, rfl⟩ := List.exists_cons_of_ne_nil h
  have hprefix : (c :: name).isPrefixOf (c :: (name ++ rest)) = true :=
    List.isPrefixOf_iff_prefix.2 (List.prefix_append (c :: name) rest)
  rw [List.cons_append, substituteFrom, if_pos hprefix, substituteFrom_skip, List.length_cons,
    Nat.add_sub_cancel, List.drop_left]

/-- A character that begins no mark is copied. -/
theorem substituteFrom_char {c : Char} {rest : List Char} (h : ¬ mark <+: c :: rest) :
    substituteFrom mark value 0 (c :: rest) = c :: substituteFrom mark value 0 rest :=
  if_neg fun hprefix => h (List.isPrefixOf_iff_prefix.1 hprefix)

/-- A template is read as a substitution reads it: mark by mark, and else character by character. -/
@[elab_as_elim]
theorem scan_induct (hmark : mark ≠ []) {motive : List Char → Prop} (nil : motive [])
    (occurrence : ∀ rest, motive rest → motive (mark ++ rest))
    (char : ∀ c rest, ¬ mark <+: c :: rest → motive rest → motive (c :: rest)) (cs : List Char) :
    motive cs := by
  induction hlength : cs.length using Nat.strong_induction_on generalizing cs with
  | h n ih =>
    cases cs with
    | nil => exact nil
    | cons c rest =>
      rw [List.length_cons] at hlength
      by_cases hprefix : mark <+: c :: rest
      · obtain ⟨tail, htail⟩ := hprefix
        have hpositive := List.length_pos_iff.2 hmark
        have hsum : mark.length + tail.length = rest.length + 1 := by
          rw [← List.length_append, htail, List.length_cons]
        rw [← htail]
        exact occurrence tail (ih tail.length (by omega) tail rfl)
      · exact char c rest hprefix (ih rest.length (by omega) rest rfl)

/-- Where the mark does not occur nothing changes. -/
theorem substituteFrom_of_free {cs : List Char} (h : ¬ mark <:+: cs) (value : List Char) :
    substituteFrom mark value 0 cs = cs := by
  induction cs with
  | nil => rfl
  | cons c rest ih =>
    rw [List.infix_cons_iff, not_or] at h
    rw [substituteFrom_char h.1, ih h.2]

theorem length_substituteFrom_mono {v w : List Char} (h : v.length ≤ w.length) (skip : Nat)
    (cs : List Char) :
    (substituteFrom mark v skip cs).length ≤ (substituteFrom mark w skip cs).length := by
  induction cs generalizing skip with
  | nil => cases skip <;> exact Nat.le_refl _
  | cons c rest ih =>
    cases skip with
    | succ skip => exact ih skip
    | zero =>
      rw [substituteFrom, substituteFrom]
      split
      · rw [List.length_append, List.length_append]
        exact Nat.add_le_add h (ih _)
      · exact Nat.succ_le_succ (ih 0)

end

/-! ### Texts that diverge -/

/-- Neither text begins with the other. -/
def Diverge (a b : List Char) : Prop :=
  ¬ a <+: b ∧ ¬ b <+: a

instance (a b : List Char) : Decidable (Diverge a b) :=
  inferInstanceAs (Decidable (_ ∧ _))

theorem Diverge.not_prefix_append {a b : List Char} (h : Diverge a b) (rest : List Char) :
    ¬ a <+: b ++ rest := by
  intro hprefix
  rcases List.prefix_or_prefix_of_prefix hprefix (List.prefix_append b rest) with hab | hba
  · exact h.1 hab
  · exact h.2 hba

theorem Diverge.append_ne {a b : List Char} (h : Diverge a b) (rest rest' : List Char) :
    a ++ rest ≠ b ++ rest' := by
  intro heq
  exact h.not_prefix_append rest' (heq ▸ List.prefix_append a rest)

/-! ### Marks with a sign -/

variable {name other value : List Char}

/-- A template may be cut in front of a sign. -/
theorem substituteFrom_cut (hname : '$' ∉ name) (value front back : List Char) :
    substituteFrom ('$' :: name) value 0 (front ++ '$' :: back) =
      substituteFrom ('$' :: name) value 0 front ++
        substituteFrom ('$' :: name) value 0 ('$' :: back) := by
  have hmark : '$' :: name ≠ [] := List.cons_ne_nil _ _
  induction front using scan_induct hmark with
  | nil => rfl
  | occurrence rest ih =>
    rw [List.append_assoc, substituteFrom_mark hmark, substituteFrom_mark hmark, ih,
      List.append_assoc]
  | char c rest hchar ih =>
    -- a mark that reached beyond the cut would have a second sign
    have hbeyond : ¬ '$' :: name <+: c :: rest ++ '$' :: back := by
      intro hprefix
      rcases List.prefix_or_prefix_of_prefix hprefix (List.prefix_append _ _) with hinside | hacross
      · exact hchar hinside
      · obtain ⟨more, hmore⟩ := hacross
        rw [← hmore, List.prefix_append_right_inj] at hprefix
        cases more with
        | nil => exact hchar (by rw [← hmore, List.append_nil])
        | cons d more =>
          obtain ⟨rfl, -⟩ := List.cons_prefix_cons.1 hprefix
          obtain ⟨rfl, rfl⟩ := List.cons.inj hmore
          exact hname (List.mem_append_right _ List.mem_cons_self)
    rw [List.cons_append] at hbeyond ⊢
    rw [substituteFrom_char hbeyond, substituteFrom_char hchar, ih, List.cons_append]

/-- Characters other than the sign are copied. -/
theorem substituteFrom_copies {word : List Char} (h : '$' ∉ word) (name value rest : List Char) :
    substituteFrom ('$' :: name) value 0 (word ++ rest) =
      word ++ substituteFrom ('$' :: name) value 0 rest := by
  induction word with
  | nil => rfl
  | cons c word ih =>
    obtain ⟨hc, hword⟩ := not_or.1 fun hmem => h (List.mem_cons.2 hmem)
    have hchar : ¬ '$' :: name <+: c :: (word ++ rest) := by
      intro hprefix
      exact hc (List.cons_prefix_cons.1 hprefix).1
    rw [List.cons_append, substituteFrom_char hchar, ih hword, List.cons_append]

/-- What stands around an occurrence of the mark is substituted by itself. -/
theorem substituteFrom_around (hname : '$' ∉ name) (value front back : List Char) :
    substituteFrom ('$' :: name) value 0 (front ++ ('$' :: name ++ back)) =
      substituteFrom ('$' :: name) value 0 front ++
        (value ++ substituteFrom ('$' :: name) value 0 back) := by
  have hcut := substituteFrom_cut hname value front (name ++ back)
  have hmark := substituteFrom_mark (List.cons_ne_nil '$' name) value back
  rw [List.cons_append] at hmark ⊢
  rw [hcut, hmark]

/-- What stands around another mark is substituted by itself, and the other mark stays. -/
theorem substituteFrom_around_other (hname : '$' ∉ name) (hother : '$' ∉ other)
    (hdiverge : Diverge name other) (value front back : List Char) :
    substituteFrom ('$' :: name) value 0 (front ++ ('$' :: other ++ back)) =
      substituteFrom ('$' :: name) value 0 front ++
        ('$' :: other ++ substituteFrom ('$' :: name) value 0 back) := by
  have hchar : ¬ '$' :: name <+: '$' :: (other ++ back) := by
    intro hprefix
    exact hdiverge.not_prefix_append back (List.cons_prefix_cons.1 hprefix).2
  have hcut := substituteFrom_cut hname value front (other ++ back)
  rw [substituteFrom_char hchar, substituteFrom_copies hother] at hcut
  exact hcut

/-- Another mark that occurs in the template occurs in the result. -/
theorem infix_substituteFrom (hname : '$' ∉ name) (hother : '$' ∉ other)
    (hdiverge : Diverge name other) {cs : List Char} (h : '$' :: other <:+: cs) (value : List Char) :
    '$' :: other <:+: substituteFrom ('$' :: name) value 0 cs := by
  obtain ⟨front, back, rfl⟩ := h
  rw [List.append_assoc, substituteFrom_around_other hname hother hdiverge]
  exact ⟨_, _, List.append_assoc _ _ _⟩

/-! ### Values told apart -/

/-- Where the mark occurs, the result determines the value: its length by the length of the result,
and then its characters by their place. -/
theorem substituteFrom_injective (hname : '$' ∉ name) {cs : List Char} (h : '$' :: name <:+: cs) :
    Function.Injective fun value => substituteFrom ('$' :: name) value 0 cs := by
  obtain ⟨front, back, rfl⟩ := h
  intro v w heq
  simp only [List.append_assoc, substituteFrom_around hname] at heq
  have hmono : ∀ {v w : List Char}, v.length ≤ w.length → ∀ part,
      (substituteFrom ('$' :: name) v 0 part).length ≤
        (substituteFrom ('$' :: name) w 0 part).length :=
    fun hle part => length_substituteFrom_mono hle 0 part
  have hsum := congrArg List.length heq
  simp only [List.length_append] at hsum
  have hlength : v.length = w.length := by
    rcases Nat.le_total v.length w.length with hle | hle
    · have hfront := hmono hle front
      have hback := hmono hle back
      omega
    · have hfront := hmono hle front
      have hback := hmono hle back
      omega
  have hfront : (substituteFrom ('$' :: name) v 0 front).length =
      (substituteFrom ('$' :: name) w 0 front).length :=
    Nat.le_antisymm (hmono hlength.le front) (hmono hlength.ge front)
  have htail := (List.append_inj heq hfront).2
  exact (List.append_inj htail hlength).1

/-- Two values that diverge are seen to differ where the mark first occurs. -/
theorem free_of_append_eq {v w : List Char} (h : Diverge v w) {cs x y : List Char}
    (heq : substituteFrom ('$' :: name) v 0 cs ++ x = substituteFrom ('$' :: name) w 0 cs ++ y) :
    ¬ '$' :: name <:+: cs := by
  have hmark : '$' :: name ≠ [] := List.cons_ne_nil _ _
  induction cs using scan_induct hmark with
  | nil => simp
  | occurrence rest ih =>
    rw [substituteFrom_mark hmark, substituteFrom_mark hmark, List.append_assoc,
      List.append_assoc] at heq
    exact absurd heq (h.append_ne _ _)
  | char c rest hchar ih =>
    rw [substituteFrom_char hchar, substituteFrom_char hchar, List.cons_append, List.cons_append] at heq
    rw [List.infix_cons_iff, not_or]
    exact ⟨hchar, ih (List.cons.inj heq).2⟩

/-- What stands behind the last occurrence. -/
theorem exists_last_occurrence {mark cs : List Char} (hmark : mark ≠ []) (h : mark <:+: cs) :
    ∃ front back, cs = front ++ (mark ++ back) ∧ ¬ mark <:+: back := by
  induction cs with
  | nil => exact absurd (List.infix_nil.1 h) hmark
  | cons c rest ih =>
    by_cases hrest : mark <:+: rest
    · obtain ⟨front, back, rfl, hfree⟩ := ih hrest
      exact ⟨c :: front, back, rfl, hfree⟩
    · obtain ⟨back, hback⟩ := (List.infix_cons_iff.1 h).resolve_right hrest
      obtain ⟨d, name, rfl⟩ := List.exists_cons_of_ne_nil hmark
      obtain ⟨rfl, rfl⟩ := List.cons.inj hback
      refine ⟨[], back, rfl, fun hwithin => hrest ?_⟩
      exact hwithin.trans (List.suffix_append name back).isInfix

/-- Two values that diverge from their ends are seen to differ where the mark last occurs. -/
theorem free_of_append_eq_back (hname : '$' ∉ name) {v w : List Char}
    (h : Diverge v.reverse w.reverse) {cs x y : List Char}
    (heq : x ++ substituteFrom ('$' :: name) v 0 cs = y ++ substituteFrom ('$' :: name) w 0 cs) :
    ¬ '$' :: name <:+: cs := by
  intro hwithin
  obtain ⟨front, back, rfl, hfree⟩ := exists_last_occurrence (List.cons_ne_nil '$' name) hwithin
  rw [substituteFrom_around hname, substituteFrom_around hname, substituteFrom_of_free hfree,
    substituteFrom_of_free hfree] at heq
  simp only [← List.append_assoc] at heq
  have hends := congrArg List.reverse (List.append_cancel_right heq)
  simp only [List.reverse_append] at hends
  exact h.append_ne _ _ hends

/-! ### No new marks -/

variable {cs : List Char}

/-- A name that begins neither in the value nor with the sign is not completed by a substitution. -/
theorem prefix_of_prefix_substituteFrom {word : List Char} (hsign : '$' ∉ word)
    (hvalue : ∀ c ∈ value.head?, c ∉ word) (hpresent : value ≠ [])
    (h : word <+: substituteFrom ('$' :: name) value 0 cs) : word <+: cs := by
  induction word generalizing cs with
  | nil => exact List.nil_prefix
  | cons d word ih =>
    have hmark : '$' :: name ≠ [] := List.cons_ne_nil _ _
    induction cs using scan_induct hmark with
    | nil => exact absurd (List.prefix_nil.1 h) (List.cons_ne_nil _ _)
    | occurrence rest =>
      obtain ⟨c, more, rfl⟩ := List.exists_cons_of_ne_nil hpresent
      rw [substituteFrom_mark hmark] at h
      obtain ⟨rfl, -⟩ := List.cons_prefix_cons.1 h
      exact absurd List.mem_cons_self (hvalue d rfl)
    | char c rest hchar =>
      rw [substituteFrom_char hchar] at h
      obtain ⟨rfl, htail⟩ := List.cons_prefix_cons.1 h
      refine List.cons_prefix_cons.2 ⟨rfl, ih ?_ ?_ htail⟩
      · exact fun hmem => hsign (List.mem_cons_of_mem _ hmem)
      · exact fun e he hmem => hvalue e he (List.mem_cons_of_mem _ hmem)

theorem infix_of_infix_append {word : List Char} (h : '$' ∉ word) (hwithin : '$' :: other <:+: word ++ cs) :
    '$' :: other <:+: cs := by
  induction word with
  | nil => exact hwithin
  | cons c word ih =>
    obtain ⟨hc, hword⟩ := not_or.1 fun hmem => h (List.mem_cons.2 hmem)
    rcases List.infix_cons_iff.1 hwithin with hprefix | hrest
    · exact absurd (List.cons_prefix_cons.1 hprefix).1 hc
    · exact ih hword hrest

/-- A substitution makes no mark, if the value has no sign and its first character is in no mark. -/
theorem free_substituteFrom (hother : '$' ∉ other) (hvalue : ∀ c ∈ value.head?, c ∉ other)
    (hsign : '$' ∉ value) (hpresent : value ≠ []) (h : ¬ '$' :: other <:+: cs) :
    ¬ '$' :: other <:+: substituteFrom ('$' :: name) value 0 cs := by
  have hmark : '$' :: name ≠ [] := List.cons_ne_nil _ _
  induction cs using scan_induct hmark with
  | nil => exact h
  | occurrence rest ih =>
    have hrest : ¬ '$' :: other <:+: rest := by
      intro hwithin
      exact h (hwithin.trans (List.suffix_append _ rest).isInfix)
    rw [substituteFrom_mark hmark]
    exact fun hwithin => ih hrest (infix_of_infix_append hsign hwithin)
  | char c rest hchar ih =>
    rw [List.infix_cons_iff, not_or] at h
    rw [substituteFrom_char hchar, List.infix_cons_iff, not_or]
    refine ⟨fun hprefix => h.1 ?_, ih h.2⟩
    obtain ⟨rfl, htail⟩ := List.cons_prefix_cons.1 hprefix
    exact List.cons_prefix_cons.2
      ⟨rfl, prefix_of_prefix_substituteFrom hother hvalue hpresent htail⟩

/-! ### Marks of a template -/

/-- How often a mark occurs in a template. -/
def occurrences (mark template : String) : Nat :=
  template.toList.tails.countP (mark.toList.isPrefixOf ·)

theorem occurrences_pos_iff {mark template : String} :
    0 < occurrences mark template ↔ mark.toList <:+: template.toList := by
  rw [occurrences, List.countP_pos_iff, List.infix_iff_prefix_suffix]
  simp only [List.mem_tails, List.isPrefixOf_iff_prefix, and_comm]

/-- A mark that occurs once has no other occurrence on either side. -/
theorem exists_of_countP_tails_eq_one {mark cs : List Char} (hmark : mark ≠ [])
    (h : cs.tails.countP (mark.isPrefixOf ·) = 1) :
    ∃ front back, cs = front ++ (mark ++ back) ∧ ¬ mark <:+: front ∧ ¬ mark <:+: back := by
  have hfree : ∀ {cs : List Char}, cs.tails.countP (mark.isPrefixOf ·) = 0 → ¬ mark <:+: cs := by
    intro cs hzero hwithin
    obtain ⟨tail, hprefix, hsuffix⟩ := List.infix_iff_prefix_suffix.1 hwithin
    exact List.countP_eq_zero.1 hzero tail ((List.mem_tails _ _).2 hsuffix)
      (List.isPrefixOf_iff_prefix.2 hprefix)
  induction cs with
  | nil =>
    obtain ⟨c, name, rfl⟩ := List.exists_cons_of_ne_nil hmark
    exact absurd h (by simp)
  | cons c rest ih =>
    rw [List.tails_cons, List.countP_cons] at h
    by_cases hprefix : mark <+: c :: rest
    · rw [if_pos (List.isPrefixOf_iff_prefix.2 hprefix)] at h
      obtain ⟨back, hback⟩ := hprefix
      obtain ⟨d, name, rfl⟩ := List.exists_cons_of_ne_nil hmark
      obtain ⟨rfl, rfl⟩ := List.cons.inj hback
      refine ⟨[], back, rfl, by simp, fun hwithin => hfree (Nat.succ.inj h) ?_⟩
      exact hwithin.trans (List.suffix_append name back).isInfix
    · rw [if_neg fun hhead => hprefix (List.isPrefixOf_iff_prefix.1 hhead)] at h
      obtain ⟨front, back, rfl, hfront, hback⟩ := ih h
      refine ⟨c :: front, back, rfl, ?_, hback⟩
      rw [List.infix_cons_iff, not_or]
      refine ⟨fun hhead => hprefix ?_, hfront⟩
      exact hhead.trans (List.prefix_append (c :: front) _)

end SensorRouter.Text
