import SensorRouter.Json.Printer

/-!
What the scanner makes of strings, words and marks. A string may be spelled in many ways, of which the
printer writes one; all of them are scanned as the same string. A word ends where a character follows
that cannot be part of one.
-/

namespace SensorRouter.Json

namespace Token

/-- The tokens of a text of which a scanner has read a part, and of which the rest is given. -/
def drive (s : Scanner) (cs : List Char) : Option (List Token) :=
  ((cs.map some).foldlM step s).bind finish

variable {ts : List Token} {c : Char} {cs rest : List Char}

theorem drive_cons {s : Scanner} (s' : Scanner) (h : step s (some c) = some s') (cs : List Char) :
    drive s (c :: cs) = drive s' cs := by
  rw [drive, List.map_cons, List.foldlM_cons, h]
  rfl

/-! ### Strings -/

/-- The number that four hexadecimal digits make. -/
def hexNumber? (a b d e : Char) : Option Nat := do
  return (((← hexDigit? a) * 16 + (← hexDigit? b)) * 16 + (← hexDigit? d)) * 16 + (← hexDigit? e)

/-- The ways to write a character in a string: as it is, after a backslash, by its number, or by the
numbers of a surrogate pair. -/
inductive SpellsChar (c : Char) : List Char → Prop
  | plain (hquote : c ≠ '"') (hslash : c ≠ '\\') (hlow : ¬ c < ' ') : SpellsChar c [c]
  | simple {mark : Char} (hmark : mark ≠ 'u') (h : simpleEscape mark = some c) :
      SpellsChar c ['\\', mark]
  | unit {a b d e : Char} (h : hexNumber? a b d e = some c.toNat) :
      SpellsChar c ['\\', 'u', a, b, d, e]
  | pair {a b d e a' b' d' e' : Char} {high low : Nat} (hhigh : hexNumber? a b d e = some high)
      (hlow : hexNumber? a' b' d' e' = some low) (hhigh' : isHighSurrogate high)
      (hlow' : isLowSurrogate low) (h : charOfPair high low = some c) :
      SpellsChar c ['\\', 'u', a, b, d, e, '\\', 'u', a', b', d', e']

/-- The second text spells the characters of the first between quotes. -/
inductive Spells : List Char → List Char → Prop
  | nil : Spells [] []
  | cons {c : Char} {cs written more : List Char} (h : SpellsChar c written) (h' : Spells cs more) :
      Spells (c :: cs) (written ++ more)

/-- Four digits after their mark are read as a code unit. -/
theorem drive_unit {a b d e : Char} {n : Nat} (h : hexNumber? a b d e = some n) (read : List Piece) :
    drive ⟨.quoted read, ts⟩ ('\\' :: 'u' :: a :: b :: d :: e :: cs) =
      drive ⟨.quoted (.unit n :: read), ts⟩ cs := by
  simp only [hexNumber?, Option.bind_eq_bind, Option.bind_eq_some_iff, Option.pure_def,
    Option.some.injEq] at h
  obtain ⟨i, hi, j, hj, k, hk, l, hl, rfl⟩ := h
  rw [drive_cons ⟨.escaped read, ts⟩ rfl, drive_cons ⟨.unit read [], ts⟩ rfl,
    drive_cons ⟨.unit read [i], ts⟩ (by simp [step, hi]),
    drive_cons ⟨.unit read [i, j], ts⟩ (by simp [step, hj]),
    drive_cons ⟨.unit read [i, j, k], ts⟩ (by simp [step, hk])]
  exact drive_cons _ (by simp [step, hl]) cs

/-- No character has the number of a surrogate. -/
theorem isHighSurrogate_toNat (c : Char) : isHighSurrogate c.toNat = false := by
  have hvalid : c.toNat < 0xD800 ∨ 0xDFFF < c.toNat ∧ c.toNat < 0x110000 := c.valid
  unfold isHighSurrogate
  rw [Bool.and_eq_false_iff, decide_eq_false_iff_not, decide_eq_false_iff_not]
  omega

/-- A code unit that is not the first of a pair stands for its own character. -/
theorem text?_unit {n : Nat} (h : isHighSurrogate n = false) (done : List Char) (more : List Piece) :
    text? done (.unit n :: more) = (charOfUnit n).bind fun c => text? (c :: done) more := by
  rw [text?.eq_def]
  simp only [h, cond_false]

theorem charOfUnit_toNat (c : Char) : charOfUnit c.toNat = some c := by
  have hvalid : c.toNat.isValidChar := c.valid
  rw [charOfUnit, dif_pos hvalid]
  exact congrArg some (Char.ext rfl)

/-- A character that is spelled in a string is read, and stands for itself. -/
theorem SpellsChar.drive {written : List Char} (h : SpellsChar c written) (ts : List Token)
    (read : List Piece) (rest : List Char) :
    ∃ pieces, Token.drive ⟨.quoted read, ts⟩ (written ++ rest) =
        Token.drive ⟨.quoted (pieces.reverse ++ read), ts⟩ rest ∧
      ∀ done more, text? done (pieces ++ more) = text? (c :: done) more := by
  cases h with
  | plain hquote hslash hlow =>
    refine ⟨[.char c], drive_cons _ ?_ rest, fun _ _ => rfl⟩
    simp only [step, if_neg hquote, if_neg hslash, if_neg hlow]
    rfl
  | simple hmark h =>
    refine ⟨[.char c], ?_, fun _ _ => rfl⟩
    refine (drive_cons ⟨.escaped read, ts⟩ rfl _).trans (drive_cons _ ?_ rest)
    simp only [step, if_neg hmark, h]
    rfl
  | unit h =>
    refine ⟨[.unit c.toNat], drive_unit h read, fun done more => ?_⟩
    rw [List.cons_append, text?_unit (isHighSurrogate_toNat c), charOfUnit_toNat]
    rfl
  | @pair _ _ _ _ _ _ _ _ high low hhigh hlow hhigh' hlow' h =>
    refine ⟨[.unit high, .unit low], (drive_unit hhigh read).trans (drive_unit hlow _), ?_⟩
    intro done more
    rw [List.cons_append, List.cons_append, text?, hhigh', cond_true, hlow', cond_true, h]
    rfl

theorem Spells.drive {written : List Char} (h : Spells cs written) (ts : List Token)
    (read : List Piece) (rest : List Char) :
    ∃ pieces, Token.drive ⟨.quoted read, ts⟩ (written ++ rest) =
        Token.drive ⟨.quoted (pieces.reverse ++ read), ts⟩ rest ∧
      ∀ done, text? done pieces = some (done.reverse ++ cs) := by
  induction h generalizing read with
  | nil => exact ⟨[], rfl, fun done => by rw [text?, List.append_nil]⟩
  | @cons c cs written more h _ ih =>
    obtain ⟨first, hfirst, hstands⟩ := h.drive ts read (more ++ rest)
    obtain ⟨later, hlater, htext⟩ := ih (first.reverse ++ read)
    refine ⟨first ++ later, ?_, fun done => ?_⟩
    · rw [List.append_assoc, hfirst, hlater, List.reverse_append, List.append_assoc]
    · rw [hstands, htext, List.reverse_cons, List.append_assoc]
      rfl

/-- A quoted string is scanned as what it spells. -/
theorem drive_quoted {s : String} {written : List Char} (h : Spells s.toList written)
    (ts : List Token) (rest : List Char) :
    drive ⟨.between, ts⟩ ('"' :: written ++ '"' :: rest) =
      drive ⟨.between, .string (some s) :: ts⟩ rest := by
  obtain ⟨pieces, hdrive, htext⟩ := h.drive ts [] ('"' :: rest)
  have htoken : ofPieces (pieces.reverse ++ []) = .string (some s) := by
    rw [ofPieces, List.append_nil, List.reverse_reverse, htext, Option.map_some, List.reverse_nil,
      List.nil_append, String.ofList_toList]
  rw [List.cons_append, drive_cons ⟨.quoted [], ts⟩ rfl, hdrive, ← htoken]
  exact drive_cons _ rfl rest

/-! ### Strings as they are printed -/

theorem hexDigit?_digitChar : ∀ n < 16, hexDigit? (Nat.digitChar n) = some n := by
  decide

/-- The printer writes characters below the blank by their number when they have no other escape. -/
theorem spellsChar_unit (h : c < ' ') :
    SpellsChar c ('\\' :: 'u' :: '0' :: '0' :: hexPair c.toNat) := by
  have hlow : c.toNat < 0x20 := h
  have hhigh := hexDigit?_digitChar (c.toNat / 16 % 16) (Nat.mod_lt _ (by decide))
  have hdigit := hexDigit?_digitChar (c.toNat % 16) (Nat.mod_lt _ (by decide))
  have hzero : hexDigit? '0' = some 0 := rfl
  refine .unit ?_
  simp only [hexNumber?, hzero, hhigh, hdigit, Option.bind_eq_bind, Option.bind_some, Option.pure_def,
    Option.some.injEq]
  omega

theorem spellsChar_escapeChar (c : Char) : SpellsChar c (escapeChar c) := by
  unfold escapeChar
  split
  case h_8 hquote hslash _ _ _ _ _ =>
    split
    · next hlow => exact spellsChar_unit hlow
    · next hlow => exact .plain hquote hslash hlow
  all_goals exact .simple (by decide) rfl

theorem spells_escape (cs : List Char) : Spells cs (cs.flatMap escapeChar) := by
  induction cs with
  | nil => exact .nil
  | cons c rest ih => exact .cons (spellsChar_escapeChar c) ih

theorem drive_quote (s : String) :
    drive ⟨.between, ts⟩ (quote s ++ rest) = drive ⟨.between, .string (some s) :: ts⟩ rest := by
  rw [quote, List.append_assoc]
  exact drive_quoted (spells_escape s.toList) ts rest

/-! ### Words and marks -/

/-- A word that stands before the characters ends there. -/
def Apart (cs : List Char) : Prop :=
  ∀ c ∈ cs.head?, isWordChar c = false

theorem apart_nil : Apart [] := nofun

theorem apart_cons (h : isWordChar c = false) (cs : List Char) : Apart (c :: cs) := by
  intro d hd
  cases hd
  exact h

/-- A character of a word is neither white space nor a quote. -/
theorem between_of_isWordChar (h : isWordChar c = true) (ts : List Token) :
    between ts c = some ⟨.word [c], ts⟩ := by
  have hspace : isSpace c = false := by
    rw [← Bool.not_eq_true, isSpace]
    intro hblank
    simp only [Bool.or_eq_true, decide_eq_true_eq] at hblank
    rcases hblank with ((rfl | rfl) | rfl) | rfl <;> exact absurd h (by decide)
  have hquote : c ≠ '"' := by
    rintro rfl
    exact absurd h (by decide)
  rw [between, hspace, if_neg Bool.false_ne_true, if_neg hquote, if_pos h]

theorem drive_wordChars (read : List Char) {word : List Char} (h : ∀ c ∈ word, isWordChar c = true) :
    drive ⟨.word read, ts⟩ (word ++ rest) = drive ⟨.word (word.reverse ++ read), ts⟩ rest := by
  induction word generalizing read with
  | nil => rfl
  | cons c word ih =>
    obtain ⟨hc, hword⟩ := List.forall_mem_cons.1 h
    have hstep : step ⟨.word read, ts⟩ (some c) = some ⟨.word (c :: read), ts⟩ := if_pos hc
    rw [List.cons_append, drive_cons _ hstep, ih _ hword, List.reverse_cons, List.append_assoc]
    rfl

theorem drive_word_apart {t : Token} {read : List Char} (h : ofWord read.reverse = some t)
    (hrest : Apart rest) : drive ⟨.word read, ts⟩ rest = drive ⟨.between, t :: ts⟩ rest := by
  cases rest with
  | nil =>
    change (ofWord read.reverse).map _ = _
    rw [h]
    rfl
  | cons c cs =>
    have hstep : step ⟨.word read, ts⟩ (some c) = step ⟨.between, t :: ts⟩ (some c) := by
      simp only [step, hrest c rfl, h]
      rfl
    rw [drive, drive, List.map_cons, List.foldlM_cons, List.foldlM_cons, hstep]

/-- A word that stands apart is scanned as its token. -/
theorem drive_word {t : Token} {word : List Char} (hne : word ≠ [])
    (hword : ∀ c ∈ word, isWordChar c = true) (h : ofWord word = some t) (hrest : Apart rest) :
    drive ⟨.between, ts⟩ (word ++ rest) = drive ⟨.between, t :: ts⟩ rest := by
  obtain ⟨c, more, rfl⟩ := List.exists_cons_of_ne_nil hne
  obtain ⟨hc, hmore⟩ := List.forall_mem_cons.1 hword
  have hstep : step ⟨.between, ts⟩ (some c) = some ⟨.word [c], ts⟩ := between_of_isWordChar hc ts
  rw [List.cons_append, drive_cons _ hstep, drive_wordChars [c] hmore]
  refine drive_word_apart ?_ hrest
  rwa [List.reverse_append, List.reverse_reverse]

end Token

end SensorRouter.Json
