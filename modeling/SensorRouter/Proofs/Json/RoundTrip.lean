import SensorRouter.Json.Record
import SensorRouter.Proofs.Json.Scanning

/-!
Values that are written are read back. Scanner and reader are followed together: a part of a text leads
the reader from one state to another, and parts that follow one another compose.
-/

namespace SensorRouter.Json

/-- What is written of a number is read as that number again. -/
structure Number.ReadsBack (n : Number) : Prop where
  nonempty : n.text.toList ≠ []
  word : ∀ c ∈ n.text.toList, Token.isWordChar c = true
  token : Token.ofWord n.text.toList = some (.number (some n))

namespace Value

mutual

/-- All numbers in the value are read back. -/
def ReadsBack : Value → Prop
  | .null | .bool _ | .string _ => True
  | .number n => n.ReadsBack
  | .array items => ItemsReadBack items
  | .object fields => FieldsReadBack fields
termination_by structural v => v

def ItemsReadBack : List Value → Prop
  | [] => True
  | v :: rest => v.ReadsBack ∧ ItemsReadBack rest
termination_by structural items => items

def FieldsReadBack : List (String × Value) → Prop
  | [] => True
  | (_, v) :: rest => v.ReadsBack ∧ FieldsReadBack rest
termination_by structural fields => fields

end

mutual

/-- What stands behind a value is carried along. -/
theorem write_append (v : Value) (cs rest : List Char) :
    v.write (cs ++ rest) = v.write cs ++ rest := by
  match v with
  | .null | .bool _ | .number _ | .string _ => exact (List.append_assoc _ _ _).symm
  | .array items => exact congrArg ('[' :: ·) (writeItems_append items (']' :: cs) rest)
  | .object fields =>
    exact congrArg ('\x7b' :: ·) (writeFields_append fields ('\x7d' :: cs) rest)
termination_by structural v

theorem writeItems_append (items : List Value) (cs rest : List Char) :
    writeItems items (cs ++ rest) = writeItems items cs ++ rest := by
  match items with
  | [] => rfl
  | v :: more => rw [writeItems, writeMoreItems_append more, write_append v, writeItems]
termination_by structural items

theorem writeMoreItems_append (items : List Value) (cs rest : List Char) :
    writeMoreItems items (cs ++ rest) = writeMoreItems items cs ++ rest := by
  match items with
  | [] => rfl
  | v :: more =>
    rw [writeMoreItems, writeMoreItems_append more, write_append v, writeMoreItems, List.cons_append]
termination_by structural items

theorem writeFields_append (fields : List (String × Value)) (cs rest : List Char) :
    writeFields fields (cs ++ rest) = writeFields fields cs ++ rest := by
  match fields with
  | [] => rfl
  | (name, v) :: more =>
    rw [writeFields, writeMoreFields_append more, write_append v, writeFields, List.append_assoc,
      List.cons_append]
termination_by structural fields

theorem writeMoreFields_append (fields : List (String × Value)) (cs rest : List Char) :
    writeMoreFields fields (cs ++ rest) = writeMoreFields fields cs ++ rest := by
  match fields with
  | [] => rfl
  | (name, v) :: more =>
    rw [writeMoreFields, writeMoreFields_append more, write_append v, writeMoreFields]
    simp only [List.cons_append, List.append_assoc]
termination_by structural fields

end

end Value

namespace Document

open Token (Apart apart_cons apart_nil drive)

/-! ### Parts of a text -/

/-- The reader after tokens that are given last first. -/
def readerOf (ts : List Token) : Option Reader :=
  ts.reverse.foldlM Reader.step ⟨[], .value⟩

theorem readerOf_cons (t : Token) (ts : List Token) :
    readerOf (t :: ts) = (readerOf ts).bind fun r => r.step t := by
  rw [readerOf, List.reverse_cons, List.foldlM_append]
  change ((readerOf ts).bind fun r => (r.step t).bind some) = _
  simp only [Option.bind_fun_some]

/-- The characters up to `rest` lead the reader from one state to another. -/
def Reads (r : Reader) (cs rest : List Char) (r' : Reader) : Prop :=
  ∀ ts, readerOf ts = some r →
    ∃ ts', readerOf ts' = some r' ∧ drive ⟨.between, ts⟩ cs = drive ⟨.between, ts'⟩ rest

section

variable {r r' r'' : Reader} {cs mid rest : List Char}

theorem Reads.trans (h : Reads r cs mid r') (h' : Reads r' mid rest r'') : Reads r cs rest r'' := by
  intro ts hr
  obtain ⟨ts', hr', hdrive⟩ := h ts hr
  obtain ⟨ts'', hr'', hdrive'⟩ := h' ts' hr'
  exact ⟨ts'', hr'', hdrive.trans hdrive'⟩

/-- A part that is scanned as one token. -/
theorem reads_token {t : Token} (h : r.step t = some r')
    (hdrive : ∀ ts, drive ⟨.between, ts⟩ cs = drive ⟨.between, t :: ts⟩ rest) :
    Reads r cs rest r' := by
  intro ts hr
  refine ⟨t :: ts, ?_, hdrive ts⟩
  rw [readerOf_cons, hr]
  exact h

theorem reads_mark (c : Char) (t : Token) (cs : List Char)
    (hmark : ∀ ts, Token.between ts c = some ⟨.between, t :: ts⟩) (h : r.step t = some r') :
    Reads r (c :: cs) cs r' := by
  refine reads_token h fun ts => ?_
  have hstep : Token.step ⟨.between, ts⟩ (some c) = some ⟨.between, t :: ts⟩ := hmark ts
  exact Token.drive_cons _ hstep cs

theorem reads_quote {s : String} (h : r.step (.string (some s)) = some r') (cs : List Char) :
    Reads r (quote s ++ cs) cs r' :=
  reads_token h fun _ => Token.drive_quote s

theorem reads_quoted {s : String} {written : List Char} (hspells : Token.Spells s.toList written)
    (h : r.step (.string (some s)) = some r') (cs : List Char) :
    Reads r ('"' :: written ++ '"' :: cs) cs r' :=
  reads_token h fun ts => Token.drive_quoted hspells ts cs

/-- The name of a field and its colon. -/
theorem reads_name {name : String} {fields : List (Option String × Document)} {frames : List Frame}
    (h : r.step (.string (some name)) = some ⟨.object fields (some name) :: frames, .colon⟩)
    (cs : List Char) :
    Reads r (quote name ++ ':' :: cs) cs ⟨.object fields (some name) :: frames, .value⟩ :=
  (reads_quote h (':' :: cs)).trans (reads_mark ':' .colon cs (fun _ => rfl) rfl)

/-- A text that leads the reader to a complete document is a text of that document. -/
theorem ofText_of_reads {s : String} {d : Document}
    (h : Reads ⟨[], .value⟩ s.toList [] (.complete [] d)) : ofText s = some d := by
  obtain ⟨ts, hr, hdrive⟩ := h [] rfl
  have hscan : Token.scan (Text.symbols s) = some ts.reverse := hdrive
  have hread : ts.reverse.foldlM Reader.step ⟨[], .value⟩ = some (.complete [] d) := hr
  rw [ofText, ofSymbols, hscan, Option.bind_some, ofTokens, hread]
  rfl

end

/-! ### Values -/

/-- The reader expects a value. -/
def Awaiting.BeginsValue : Awaiting → Prop
  | .value | .firstItem => True
  | .firstName | .name | .colon | .separator | .nothing _ => False

variable {frames : List Frame} {awaiting : Awaiting} {rest : List Char}

/-- Where a value is expected, any token but a closing bracket begins one. -/
theorem step_of_beginsValue (h : awaiting.BeginsValue) (t : Token) (ht : t ≠ .closeArray) :
    Reader.step ⟨frames, awaiting⟩ t = Reader.beginValue frames t := by
  cases awaiting with
  | value => rfl
  | firstItem => cases t <;> first | rfl | exact absurd rfl ht
  | _ => exact h.elim

/-- A word that stands for a value. -/
theorem reads_word (haw : awaiting.BeginsValue) {word : List Char} {t : Token} {d : Document}
    (hne : word ≠ []) (hword : ∀ c ∈ word, Token.isWordChar c = true)
    (ht : Token.ofWord word = some t) (hclose : t ≠ .closeArray)
    (hbegin : Reader.beginValue frames t = some (.complete frames d)) (hrest : Apart rest) :
    Reads ⟨frames, awaiting⟩ (word ++ rest) rest (.complete frames d) :=
  reads_token ((step_of_beginsValue haw t hclose).trans hbegin)
    fun _ => Token.drive_word hne hword ht hrest

theorem apart_writeMoreItems (items : List Value) (h : Apart rest) :
    Apart (Value.writeMoreItems items rest) := by
  cases items with
  | nil => exact h
  | cons v more => exact apart_cons (by decide) _

theorem apart_writeMoreFields (fields : List (String × Value)) (h : Apart rest) :
    Apart (Value.writeMoreFields fields rest) := by
  cases fields with
  | nil => exact h
  | cons f more => exact apart_cons (by decide) _

mutual

/-- A written value is read as its document, wherever a value is expected. -/
theorem reads_write (v : Value) (hv : v.ReadsBack) (frames : List Frame) (awaiting : Awaiting)
    (haw : awaiting.BeginsValue) (rest : List Char) (hrest : Apart rest) :
    Reads ⟨frames, awaiting⟩ (v.write rest) rest (.complete frames (ofValue v)) := by
  match v with
  | .null =>
    have hword : ∀ c ∈ "null".toList, Token.isWordChar c = true := List.all_eq_true.1 rfl
    exact reads_word haw (by decide) hword rfl Token.noConfusion rfl hrest
  | .bool true =>
    have hword : ∀ c ∈ "true".toList, Token.isWordChar c = true := List.all_eq_true.1 rfl
    exact reads_word haw (by decide) hword rfl Token.noConfusion rfl hrest
  | .bool false =>
    have hword : ∀ c ∈ "false".toList, Token.isWordChar c = true := List.all_eq_true.1 rfl
    exact reads_word haw (by decide) hword rfl Token.noConfusion rfl hrest
  | .number n => exact reads_word haw hv.nonempty hv.word hv.token Token.noConfusion rfl hrest
  | .string s => exact reads_quote (step_of_beginsValue haw (.string s) Token.noConfusion) rest
  | .array items =>
    have hbegin : Reader.step ⟨frames, awaiting⟩ .openArray =
        some ⟨.array [] :: frames, .firstItem⟩ :=
      step_of_beginsValue haw .openArray Token.noConfusion
    have hopen := reads_mark '[' .openArray (Value.writeItems items (']' :: rest)) (fun _ => rfl)
      hbegin
    exact hopen.trans (reads_writeItems items hv frames rest)
  | .object fields =>
    have hbegin : Reader.step ⟨frames, awaiting⟩ .openObject =
        some ⟨.object [] none :: frames, .firstName⟩ :=
      step_of_beginsValue haw .openObject Token.noConfusion
    have hopen := reads_mark '\x7b' .openObject (Value.writeFields fields ('\x7d' :: rest))
      (fun _ => rfl) hbegin
    exact hopen.trans (reads_writeFields fields hv frames rest)
termination_by structural v

theorem reads_writeItems (items : List Value) (hitems : Value.ItemsReadBack items)
    (frames : List Frame) (rest : List Char) :
    Reads ⟨.array [] :: frames, .firstItem⟩ (Value.writeItems items (']' :: rest)) rest
      (.complete frames (.array (ofItems items))) := by
  match items with
  | [] => exact reads_mark ']' .closeArray rest (fun _ => rfl) rfl
  | v :: more =>
    have hclose : Apart (']' :: rest) := apart_cons (by decide) rest
    have hfirst := reads_write v hitems.1 (.array [] :: frames) .firstItem trivial _
      (apart_writeMoreItems more hclose)
    exact hfirst.trans (reads_writeMoreItems more hitems.2 [ofValue v] frames rest)
termination_by structural items

theorem reads_writeMoreItems (items : List Value) (hitems : Value.ItemsReadBack items)
    (done : List Document) (frames : List Frame) (rest : List Char) :
    Reads ⟨.array done :: frames, .separator⟩ (Value.writeMoreItems items (']' :: rest)) rest
      (.complete frames (.array (done.reverse ++ ofItems items))) := by
  match items with
  | [] =>
    rw [ofItems, List.append_nil]
    exact reads_mark ']' .closeArray rest (fun _ => rfl) rfl
  | v :: more =>
    have hclose : Apart (']' :: rest) := apart_cons (by decide) rest
    have hcomma : Reads ⟨.array done :: frames, .separator⟩ _ _ ⟨.array done :: frames, .value⟩ :=
      reads_mark ',' .comma (v.write (Value.writeMoreItems more (']' :: rest))) (fun _ => rfl) rfl
    have hfirst := reads_write v hitems.1 (.array done :: frames) .value trivial _
      (apart_writeMoreItems more hclose)
    have hmore := reads_writeMoreItems more hitems.2 (ofValue v :: done) frames rest
    rw [List.reverse_cons, List.append_assoc] at hmore
    exact hcomma.trans (hfirst.trans hmore)
termination_by structural items

theorem reads_writeFields (fields : List (String × Value)) (hfields : Value.FieldsReadBack fields)
    (frames : List Frame) (rest : List Char) :
    Reads ⟨.object [] none :: frames, .firstName⟩ (Value.writeFields fields ('\x7d' :: rest)) rest
      (.complete frames (.object (ofFields fields))) := by
  match fields with
  | [] => exact reads_mark '\x7d' .closeObject rest (fun _ => rfl) rfl
  | (name, v) :: more =>
    have hclose : Apart ('\x7d' :: rest) := apart_cons (by decide) rest
    have hname : Reads ⟨.object [] none :: frames, .firstName⟩ _ _
        ⟨.object [] (some name) :: frames, .value⟩ :=
      reads_name rfl (v.write (Value.writeMoreFields more ('\x7d' :: rest)))
    have hfirst := reads_write v hfields.1 (.object [] (some name) :: frames) .value trivial _
      (apart_writeMoreFields more hclose)
    have hmore := reads_writeMoreFields more hfields.2 [(some name, ofValue v)] frames rest
    exact hname.trans (hfirst.trans hmore)
termination_by structural fields

theorem reads_writeMoreFields (fields : List (String × Value))
    (hfields : Value.FieldsReadBack fields) (done : List (Option String × Document))
    (frames : List Frame) (rest : List Char) :
    Reads ⟨.object done none :: frames, .separator⟩ (Value.writeMoreFields fields ('\x7d' :: rest))
      rest (.complete frames (.object (done.reverse ++ ofFields fields))) := by
  match fields with
  | [] =>
    rw [ofFields, List.append_nil]
    exact reads_mark '\x7d' .closeObject rest (fun _ => rfl) rfl
  | (name, v) :: more =>
    have hclose : Apart ('\x7d' :: rest) := apart_cons (by decide) rest
    have hcomma : Reads ⟨.object done none :: frames, .separator⟩ _ _
        ⟨.object done none :: frames, .name⟩ :=
      reads_mark ',' .comma
        (quote name ++ ':' :: v.write (Value.writeMoreFields more ('\x7d' :: rest)))
        (fun _ => rfl) rfl
    have hname : Reads ⟨.object done none :: frames, .name⟩ _ _
        ⟨.object done (some name) :: frames, .value⟩ :=
      reads_name rfl (v.write (Value.writeMoreFields more ('\x7d' :: rest)))
    have hfirst := reads_write v hfields.1 (.object done (some name) :: frames) .value trivial _
      (apart_writeMoreFields more hclose)
    have hmore := reads_writeMoreFields more hfields.2 ((some name, ofValue v) :: done) frames rest
    rw [List.reverse_cons, List.append_assoc] at hmore
    exact hcomma.trans (hname.trans (hfirst.trans hmore))
termination_by structural fields

end

/-! ### Texts of documents -/

/-- The characters are read as a document wherever a value is expected, if what follows them stands
apart. -/
def Writes (cs : List Char) (d : Document) : Prop :=
  ∀ frames rest, Apart rest → Reads ⟨frames, .value⟩ (cs ++ rest) rest (.complete frames d)

theorem writes_quoted {s : String} {written : List Char} (h : Token.Spells s.toList written) :
    Writes ('"' :: written ++ ['"']) (.string (some s)) := by
  intro frames rest _
  have hread := reads_quoted h (r := ⟨frames, .value⟩) rfl rest
  rwa [List.append_assoc]

theorem writes_write (v : Value) (hv : v.ReadsBack) : Writes (v.write []) (ofValue v) := by
  intro frames rest hrest
  rw [← v.write_append, List.nil_append]
  exact reads_write v hv frames .value trivial rest hrest

theorem ofText_of_writes {s : String} {d : Document} (h : Writes s.toList d) :
    ofText s = some d := by
  have hread := h [] [] apart_nil
  rw [List.append_nil] at hread
  exact ofText_of_reads hread

/-- What is written of a value is read as its document. -/
theorem ofText_text (v : Value) (hv : v.ReadsBack) : ofText v.text = some (ofValue v) := by
  refine ofText_of_writes ?_
  rw [Value.text, String.toList_ofList]
  exact writes_write v hv

/-! ### Arrays -/

theorem itemsReadBack_iff (items : List Value) :
    Value.ItemsReadBack items ↔ ∀ v ∈ items, v.ReadsBack := by
  induction items with
  | nil => simp [Value.ItemsReadBack]
  | cons v rest ih => rw [Value.ItemsReadBack, ih, List.forall_mem_cons]

theorem ofItems_eq_map (items : List Value) : ofItems items = items.map ofValue := by
  induction items with
  | nil => rfl
  | cons v rest ih => rw [ofItems, ih, List.map_cons]

/-- An array has its value if all its items have theirs, one level less deep. -/
theorem valueWithin_array {depth : Nat} {items : List Value}
    (h : ∀ v ∈ items, (ofValue v).valueWithin depth = some v) :
    (ofValue (.array items)).valueWithin (depth + 1) = some (.array items) := by
  have hitems : itemValues depth (ofItems items) = some items := by
    induction items with
    | nil => rfl
    | cons v rest ih =>
      obtain ⟨hv, hrest⟩ := List.forall_mem_cons.1 h
      rw [ofItems, itemValues, hv]
      simp only [ih hrest, Option.map_some]
  rw [ofValue, valueWithin, if_neg (Nat.succ_ne_zero depth), Nat.add_sub_cancel, hitems,
    Option.map_some]

/-- A list is read item by item. -/
theorem list?_ofItems {α : Type} {read : Document → Option α} {write : α → Value} {as : List α}
    (h : ∀ a ∈ as, read (ofValue (write a)) = some a) :
    (ofValue (.array (as.map write))).list? read = some as := by
  change (ofItems (as.map write)).mapM read = some as
  rw [ofItems_eq_map]
  induction as with
  | nil => rfl
  | cons a rest ih =>
    obtain ⟨ha, hrest⟩ := List.forall_mem_cons.1 h
    rw [List.map_cons, List.map_cons, List.mapM_cons, ha]
    simp only [ih hrest]
    rfl

end Document

end SensorRouter.Json
