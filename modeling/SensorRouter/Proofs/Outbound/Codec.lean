import SensorRouter.Outbound.Batch
import SensorRouter.Proofs.Gzip.Stored
import SensorRouter.Proofs.Json.FieldOrder

/-!
Batches are read back as they were written. No text of a record holds a line end, so the lines of a batch
are its records. Whatever compresses them, a batch of at most the greatest size is read as its records,
and of a longer one so much is read that its length is noticed.
-/

namespace SensorRouter

open Json (Value Document quote escapeChar hexPair)

/-! ### Texts without line ends -/

namespace Json

theorem lineEnd_notMem_hexPair (n : Nat) : '\n' ∉ hexPair n := by
  have hdigit : ∀ n < 16, Nat.digitChar n ≠ '\n' := by decide
  have hhigh := hdigit (n / 16 % 16) (Nat.mod_lt _ (by decide))
  have hlow := hdigit (n % 16) (Nat.mod_lt _ (by decide))
  simp [hexPair, hhigh.symm, hlow.symm]

theorem lineEnd_notMem_escapeChar (c : Char) : '\n' ∉ escapeChar c := by
  unfold escapeChar
  split
  all_goals try decide
  next hline _ _ =>
    split
    · simp [lineEnd_notMem_hexPair]
    · rw [List.mem_singleton]
      exact fun heq => hline heq.symm

theorem lineEnd_notMem_quote (s : String) : '\n' ∉ quote s := by
  have hescaped : '\n' ∉ s.toList.flatMap escapeChar := by
    rw [List.mem_flatMap]
    rintro ⟨c, -, hc⟩
    exact lineEnd_notMem_escapeChar c hc
  simp [quote, hescaped]

namespace Value

theorem write_eq_append (v : Value) (rest : List Char) : v.write rest = v.write [] ++ rest :=
  write_append v [] rest

variable {rest : List Char}

theorem lineEnd_notMem_writeMoreItems {items : List Value}
    (hitems : ∀ v ∈ items, '\n' ∉ v.write []) (hrest : '\n' ∉ rest) :
    '\n' ∉ writeMoreItems items rest := by
  induction items with
  | nil => exact hrest
  | cons v more ih =>
    obtain ⟨hv, hmore⟩ := List.forall_mem_cons.1 hitems
    rw [writeMoreItems, write_eq_append]
    simp [hv, ih hmore]

theorem lineEnd_notMem_writeItems {items : List Value}
    (hitems : ∀ v ∈ items, '\n' ∉ v.write []) (hrest : '\n' ∉ rest) :
    '\n' ∉ writeItems items rest := by
  cases items with
  | nil => exact hrest
  | cons v more =>
    obtain ⟨hv, hmore⟩ := List.forall_mem_cons.1 hitems
    rw [writeItems, write_eq_append, List.mem_append]
    exact not_or.2 ⟨hv, lineEnd_notMem_writeMoreItems hmore hrest⟩

theorem lineEnd_notMem_writeMoreFields {fields : List (String × Value)}
    (hfields : ∀ f ∈ fields, '\n' ∉ f.2.write []) (hrest : '\n' ∉ rest) :
    '\n' ∉ writeMoreFields fields rest := by
  induction fields with
  | nil => exact hrest
  | cons f more ih =>
    obtain ⟨hv, hmore⟩ := List.forall_mem_cons.1 hfields
    rw [writeMoreFields, write_eq_append]
    simp [hv, ih hmore, lineEnd_notMem_quote]

theorem lineEnd_notMem_writeFields {fields : List (String × Value)}
    (hfields : ∀ f ∈ fields, '\n' ∉ f.2.write []) (hrest : '\n' ∉ rest) :
    '\n' ∉ writeFields fields rest := by
  cases fields with
  | nil => exact hrest
  | cons f more =>
    obtain ⟨hv, hmore⟩ := List.forall_mem_cons.1 hfields
    rw [writeFields, write_eq_append]
    simp [hv, lineEnd_notMem_writeMoreFields hmore hrest, lineEnd_notMem_quote]

/-- What is written of a value is one line. -/
theorem lineEnd_notMem_write {v : Value} (h : v.ReadsBack) : '\n' ∉ v.write [] := by
  induction v using induct with
  | null => decide
  | bool b => cases b <;> decide
  | number n =>
    rw [write, List.append_nil]
    exact fun hmem => absurd (h.word _ hmem) (by decide)
  | string s =>
    rw [write, List.append_nil]
    exact lineEnd_notMem_quote s
  | array items ih =>
    have hitems : '\n' ∉ writeItems items [']'] := lineEnd_notMem_writeItems
      (fun v hv => ih v hv (readsBack_array_iff.1 h v hv)) (by decide)
    rw [write, List.mem_cons]
    exact not_or.2 ⟨by decide, hitems⟩
  | object fields ih =>
    have hfields : '\n' ∉ writeFields fields ['\x7d'] := lineEnd_notMem_writeFields
      (fun f hf => ih f hf (readsBack_object_iff.1 h f hf)) (by decide)
    rw [write, List.mem_cons]
    exact not_or.2 ⟨by decide, hfields⟩

theorem write_ne_nil {v : Value} (h : v.ReadsBack) : v.write [] ≠ [] := by
  cases v with
  | null => decide
  | bool b => cases b <;> decide
  | number n => simpa [write] using h.nonempty
  | string s => simp [write, quote]
  | array items => exact List.cons_ne_nil _ _
  | object fields => exact List.cons_ne_nil _ _

theorem toList_text (v : Value) : v.text.toList = v.write [] :=
  String.toList_ofList

end Value

end Json

namespace Batch

/-! ### Lines -/

theorem splitLines_eq_splitOn (cs : List Char) : splitLines cs = cs.splitOn '\n' := by
  have hfold : ∀ (cs line : List Char) (done : List (List Char)),
      let ended := cs.foldl (fun s c =>
        if c = '\n' then ([], s.1.reverse :: s.2) else (c :: s.1, s.2)) (line, done)
      (ended.1.reverse :: ended.2).reverse =
        done.reverse ++ List.splitOnPPrepend (· == '\n') cs line := by
    intro cs
    induction cs with
    | nil => exact fun line done => List.reverse_cons
    | cons c rest ih =>
      intro line done
      rw [List.foldl_cons, List.splitOnPPrepend_cons_eq_if]
      by_cases hc : c = '\n'
      · simp only [hc, if_true, ih, List.reverse_cons, List.append_assoc, beq_self_eq_true]
        rfl
      · simp only [hc, if_false, ih, beq_iff_eq]
  exact hfold cs [] []

/-- A JSON value as it is kept, its fields by ascending names, with integers of 64 bits as its numbers and
not nested deeper than is read. -/
structure Readable (v : Value) : Prop where
  ascending : v.Everywhere Value.AscendingNames
  whole : v.Everywhere Value.WholeNumber
  depth : v.depth ≤ Document.greatestDepth

theorem Readable.readsBack {v : Value} (h : Readable v) : v.ReadsBack :=
  Value.readsBack_of_whole h.whole

theorem Readable.ofText_text {v : Value} (h : Readable v) : Value.ofText v.text = some v := by
  rw [Value.ofText, Document.ofText_text v h.readsBack, Option.bind_some, Document.value?,
    Document.valueWithin_ofValue v h.depth, Value.sorted_eq_self h.ascending]

variable {records : List Value}

/-- The body has one line for each record. -/
theorem splitLines_body (hne : records ≠ []) (hrecords : ∀ v ∈ records, Readable v) :
    splitLines (body records).toList = records.map fun v => v.text.toList := by
  have hbody : (body records).toList =
      ['\n'].intercalate (records.map fun v => v.text.toList) := by
    rw [body, String.toList_intercalate, List.map_map]
    rfl
  have hline : ∀ line ∈ records.map fun v => v.text.toList, '\n' ∉ line := by
    intro line hline
    obtain ⟨v, hv, rfl⟩ := List.mem_map.1 hline
    rw [Value.toList_text]
    exact Value.lineEnd_notMem_write (hrecords v hv).readsBack
  rw [splitLines_eq_splitOn, hbody, List.splitOn_intercalate '\n' hline (by simpa using hne)]

theorem ofBody_body (hrecords : ∀ v ∈ records, Readable v) :
    ofBody (body records) = some records := by
  have hlines : (splitLines (body records).toList).filter (· ≠ []) =
      records.map fun v => v.text.toList := by
    by_cases hempty : records = []
    · rw [hempty]
      decide
    · rw [splitLines_body hempty hrecords, List.filter_eq_self]
      intro line hline
      obtain ⟨v, hv, rfl⟩ := List.mem_map.1 hline
      rw [Value.toList_text]
      exact decide_eq_true (Value.write_ne_nil (hrecords v hv).readsBack)
  have hread : ∀ vs : List Value, (∀ v ∈ vs, Readable v) →
      (vs.map fun v => v.text.toList).mapM (fun line => Value.ofText (String.ofList line)) =
        some vs := by
    intro vs hvs
    induction vs with
    | nil => rfl
    | cons v rest ih =>
      obtain ⟨hv, hrest⟩ := List.forall_mem_cons.1 hvs
      rw [List.map_cons, List.mapM_cons, String.ofList_toList, hv.ofText_text, ih hrest]
      rfl
  rw [ofBody, hlines, hread records hrecords]

/-! ### Payloads -/

variable {compress : ByteArray → ByteArray}

/-- What is made of a compressed text. -/
theorem decode_compress (h : Gzip.Restores compress) (text : String) :
    decode (compress text.toUTF8) =
      match String.fromUTF8? (text.toUTF8.extract 0 (greatestSize + 1)) with
      | none => .error .compression
      | some text =>
        if greatestSize < text.utf8ByteSize then .error .tooLong
        else
          match ofBody text with
          | some records => .ok records
          | none => .error .record := by
  have hgunzip := h.gunzip text.toUTF8 (Nat.succ_pos greatestSize)
  rw [decode, hgunzip]
  rfl

theorem decode_compress_of_le (h : Gzip.Restores compress) {text : String}
    (hsize : text.utf8ByteSize ≤ greatestSize) (htext : ofBody text = some records) :
    decode (compress text.toUTF8) = .ok records := by
  have hwhole : text.toUTF8.extract 0 (greatestSize + 1) = text.toUTF8 :=
    Gzip.extract_of_size_le (Nat.le_succ_of_le hsize)
  rw [decode_compress h, hwhole, Text.fromUTF8?_toUTF8]
  simp only [if_neg (Nat.not_lt.2 hsize), htext]

/-- One byte more than the greatest size is read. If that ends within a character, there is no text,
and otherwise the text is too long. -/
theorem decode_compress_of_lt (h : Gzip.Restores compress) {text : String}
    (hsize : greatestSize < text.utf8ByteSize) :
    decode (compress text.toUTF8) = .error .tooLong ∨
      decode (compress text.toUTF8) = .error .compression := by
  rw [decode_compress h]
  cases hread : String.fromUTF8? (text.toUTF8.extract 0 (greatestSize + 1)) with
  | none => exact .inr rfl
  | some front =>
    have hfront : front.utf8ByteSize = greatestSize + 1 := by
      rw [String.fromUTF8?] at hread
      split at hread
      · cases hread
        change (text.toUTF8.extract 0 (greatestSize + 1)).size = _
        rw [ByteArray.size_extract, Nat.min_eq_left (show _ ≤ text.toUTF8.size from hsize),
          Nat.sub_zero]
      · cases hread
    have hlong : greatestSize < front.utf8ByteSize := hfront.symm ▸ Nat.lt_succ_self _
    simp only [if_pos hlong, true_or]

/-- A batch is read as the records that it was made of, whatever compresses it, unless it is too long,
and then it is refused. -/
theorem decode_body (hcompress : Gzip.Restores compress) (hrecords : ∀ v ∈ records, Readable v) :
    (records = [] → body records = "") ∧
      (records ≠ [] → splitLines (body records).toList = records.map fun v => v.text.toList) ∧
      ((body records).utf8ByteSize ≤ greatestSize →
        decode (compress (body records).toUTF8) = .ok records) ∧
      (greatestSize < (body records).utf8ByteSize →
        decode (compress (body records).toUTF8) = .error .tooLong ∨
          decode (compress (body records).toUTF8) = .error .compression) ∧
      decode (encode records) = decode (compress (body records).toUTF8) := by
  refine ⟨?empty, ?lines, ?whole, ?long, ?stored⟩
  case empty =>
    rintro rfl
    rfl
  case lines => exact fun hne => splitLines_body hne hrecords
  case whole => exact fun hsize => decode_compress_of_le hcompress hsize (ofBody_body hrecords)
  case long => exact decode_compress_of_lt hcompress
  case stored =>
    rw [encode, decode_compress Gzip.restores_gzip, decode_compress hcompress]

/-- Two records, with a line end in a string. -/
theorem decode_body_of_two :
    let records := [Value.object [("n", .number (.integer (-5))), ("text", .string "a\nb")],
      .array [.null, .array []]]
    Gzip.Restores Gzip.gzip ∧ (∀ v ∈ records, Readable v) ∧
      (splitLines (body records).toList).length = 2 ∧
      decode (Gzip.gzip (body records).toUTF8) = .ok records := by
  intro records
  have hrecords : ∀ v ∈ records, Readable v := by
    refine List.forall_mem_cons.2 ⟨⟨?_, ?_, by decide⟩, List.forall_mem_cons.2 ⟨⟨?_, ?_, by decide⟩,
      nofun⟩⟩
    · have hascending : Dict.Ascending
          [("n", Value.number (.integer (-5))), ("text", Value.string "a\nb")] := by
        simpa [Dict.Ascending] using show "n" < "text" by decide
      simpa [Value.Everywhere, Value.EverywhereInFields, Value.AscendingNames] using hascending
    · simp [Value.Everywhere, Value.EverywhereInFields, Value.WholeNumber, Json.Number.Whole,
        Json.Number.leastInteger, Json.Number.greatestInteger]
    · simp [Value.Everywhere, Value.EverywhereInItems, Value.AscendingNames]
    · simp [Value.Everywhere, Value.EverywhereInItems, Value.WholeNumber]
  obtain ⟨-, hlines, hwhole, -, -⟩ := decode_body Gzip.restores_gzip hrecords
  refine ⟨Gzip.restores_gzip, hrecords, ?_, hwhole (by decide +kernel)⟩
  rw [hlines (List.cons_ne_nil _ _)]
  rfl

end Batch

end SensorRouter
