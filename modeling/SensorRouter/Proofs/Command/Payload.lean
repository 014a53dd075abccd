import SensorRouter.Proofs.Directory.Loading
import SensorRouter.Proofs.Json.RoundTrip

/-!
Commands as they are written: a name, and arguments in any of their spellings. The identifier of a
command is what its string spells, less the blanks on either side, so an id with such blanks is not the
identifier of any command.
-/

namespace SensorRouter

open Json (Value Document Record quote)
open Json.Document (Reads Reader Writes reads_mark reads_name reads_quote)

/-! ### Blanks around a text -/

namespace Text

/-- The text neither begins nor ends with a blank. -/
def Bare (s : String) : Prop :=
  (∀ c ∈ s.toList.head?, isBlank c = false) ∧ ∀ c ∈ s.toList.getLast?, isBlank c = false

theorem dropBlanks_of_head? {cs : List Char} (h : ∀ c ∈ cs.head?, isBlank c = false) :
    dropBlanks cs = cs := by
  cases cs with
  | nil => rfl
  | cons c rest => exact List.dropWhile_cons_of_neg (by simp [h c rfl])

theorem head?_dropBlanks (cs : List Char) : ∀ c ∈ (dropBlanks cs).head?, isBlank c = false := by
  intro c hc
  have hhead := List.head?_dropWhile_not isBlank cs
  rw [← dropBlanks, Option.mem_def.1 hc] at hhead
  exact hhead

/-- Only blanks are dropped. -/
theorem mem_dropBlanks {c : Char} (hc : isBlank c = false) (cs : List Char) :
    c ∈ dropBlanks cs ↔ c ∈ cs := by
  induction cs with
  | nil => rfl
  | cons b rest ih =>
    cases hb : isBlank b with
    | true =>
      have hne : c ≠ b := by
        rintro rfl
        exact Bool.false_ne_true (hc.symm.trans hb)
      rw [dropBlanks, List.dropWhile_cons_of_pos hb, ← dropBlanks, ih, List.mem_cons,
        or_iff_right hne]
    | false => rw [dropBlanks_of_head? (by simpa using hb)]

theorem toList_trim (s : String) :
    (trim s).toList = (dropBlanks (dropBlanks s.toList).reverse).reverse :=
  String.toList_ofList

theorem trim_ne_empty {s : String} (h : ∃ c ∈ s.toList, isBlank c = false) : trim s ≠ "" := by
  obtain ⟨c, hmem, hc⟩ := h
  intro hempty
  have hkept : c ∈ (trim s).toList := by
    rw [toList_trim, List.mem_reverse, mem_dropBlanks hc, List.mem_reverse, mem_dropBlanks hc]
    exact hmem
  rw [hempty] at hkept
  exact nomatch hkept

theorem bare_trim (s : String) : Bare (trim s) := by
  rw [Bare, toList_trim]
  constructor
  · -- what is dropped at the end leaves a front part, which begins as the whole
    have hfront : (dropBlanks (dropBlanks s.toList).reverse).reverse <+: dropBlanks s.toList := by
      rw [← List.reverse_suffix, List.reverse_reverse]
      exact List.dropWhile_suffix isBlank
    intro c hc
    obtain ⟨more, hwhole⟩ := hfront
    refine head?_dropBlanks s.toList c ?_
    rw [← hwhole, List.head?_append, Option.mem_def.1 hc]
    rfl
  · rw [List.getLast?_reverse]
    exact head?_dropBlanks _

theorem trim_eq_self_iff (s : String) : trim s = s ↔ Bare s := by
  constructor
  · intro h
    exact h ▸ bare_trim s
  · rintro ⟨hfirst, hlast⟩
    rw [← List.head?_reverse] at hlast
    rw [trim, dropBlanks_of_head? hfirst, dropBlanks_of_head? hlast, List.reverse_reverse,
      String.ofList_toList]

end Text

/-! ### Payloads -/

/-- The kind of entity that commands with this name forget. -/
def CommandName.forgets? : CommandName → Option EntityKind
  | .flushUser | .deleteUser => some .account
  | .flushSensor => some .sensor
  | .flushKey => some .apiKey
  | _ => none

namespace Command

/-- The text of a command with a name, and with arguments as they are written. -/
def payload (name : CommandName) (arguments : String) : String :=
  "\x7b\"cmd\":\"" ++ name.text ++ "\",\"arguments\":" ++ arguments ++ "\x7d"

theorem toList_payload (name : CommandName) (arguments : String) :
    (payload name arguments).toList =
      '\x7b' :: (quote "cmd" ++ ':' :: (quote name.text ++ ',' :: (quote "arguments" ++
        ':' :: (arguments.toList ++ ['\x7d'])))) := by
  have hname : quote name.text = '"' :: name.text.toList ++ ['"'] := by cases name <;> decide
  have hcmd : "\x7b\"cmd\":\"".toList = '\x7b' :: (quote "cmd" ++ [':', '"']) := by decide
  have harguments : "\",\"arguments\":".toList = '"' :: ',' :: (quote "arguments" ++ [':']) := by
    decide
  have hclose : "\x7d".toList = ['\x7d'] := by decide
  rw [payload, String.toList_append, String.toList_append, String.toList_append, String.toList_append,
    hname, hcmd, harguments, hclose]
  simp only [List.append_assoc, List.cons_append, List.nil_append]

/-- The document of a written command. -/
theorem ofText_payload (name : CommandName) {arguments : String} {d : Document}
    (h : Writes arguments.toList d) :
    Document.ofText (payload name arguments) =
      some (.object [(some "cmd", .string (some name.text)), (some "arguments", d)]) := by
  refine Document.ofText_of_reads ?_
  rw [toList_payload]
  let fields : List (Option String × Document) := [(some "cmd", .string (some name.text))]
  have hopen : ∀ cs, Reads ⟨[], .value⟩ ('\x7b' :: cs) cs ⟨[.object [] none], .firstName⟩ :=
    fun cs => reads_mark '\x7b' .openObject cs (fun _ => rfl) rfl
  have hcmd : ∀ cs, Reads ⟨[.object [] none], .firstName⟩ (quote "cmd" ++ ':' :: cs) cs
      ⟨[.object [] (some "cmd")], .value⟩ :=
    fun cs => reads_name rfl cs
  have hname : ∀ cs, Reads ⟨[.object [] (some "cmd")], .value⟩ (quote name.text ++ cs) cs
      ⟨[.object fields none], .separator⟩ :=
    fun cs => reads_quote rfl cs
  have hcomma : ∀ cs, Reads ⟨[.object fields none], .separator⟩ (',' :: cs) cs
      ⟨[.object fields none], .name⟩ :=
    fun cs => reads_mark ',' .comma cs (fun _ => rfl) rfl
  have harguments : ∀ cs, Reads ⟨[.object fields none], .name⟩ (quote "arguments" ++ ':' :: cs) cs
      ⟨[.object fields (some "arguments")], .value⟩ :=
    fun cs => reads_name rfl cs
  have hvalue := h [.object fields (some "arguments")] ['\x7d']
    (Json.Token.apart_cons (by decide) [])
  have hclose := reads_mark '\x7d' .closeObject [] (fun _ => rfl)
    (show Reader.step (.complete [.object fields (some "arguments")] d) .closeObject =
      some (.complete [] (.object [(some "cmd", .string (some name.text)), (some "arguments", d)]))
      from rfl)
  exact (hopen _).trans <| (hcmd _).trans <| (hname _).trans <| (hcomma _).trans <|
    (harguments _).trans <| hvalue.trans hclose

/-- A written command is what its name and the value of its arguments make. -/
theorem ofBytes_payload (name : CommandName) {arguments : String} {d : Document} {v : Value}
    (h : Writes arguments.toList d) (hv : d.valueWithin (Document.greatestDepth - 1) = some v) :
    ofBytes (payload name arguments).toUTF8 =
      (ofArguments name v).mapError (.invalidArguments name) := by
  have hdocument := ofText_payload name h
  have hsplit : split (.object [(some "cmd", .string (some name.text)), (some "arguments", d)]) =
      (d.valueWithin (Document.greatestDepth - 1)).bind fun v => some (name.text, v) := rfl
  have hname : CommandName.ofText name.text = .ok name := by
    rw [CommandName.ofText, CommandName.ofText?_text]
  rw [Document.ofText] at hdocument
  rw [ofBytes, Document.ofBytes, Text.symbolsOfBytes_toUTF8, hdocument]
  simp only [ofDocument, hsplit, hv, Option.bind_some, hname]
  rfl

/-- An identifier may be spelled in every way that JSON allows. -/
theorem ofBytes_identifier (name : CommandName) {i : String} {spelled : List Char}
    (h : Json.Token.Spells i.toList spelled) :
    ofBytes (payload name ("\"" ++ String.ofList spelled ++ "\"")).toUTF8 =
      (ofArguments name (.string i)).mapError (.invalidArguments name) := by
  refine ofBytes_payload name (d := .string (some i)) ?_ rfl
  have hquoted : ("\"" ++ String.ofList spelled ++ "\"").toList = '"' :: spelled ++ ['"'] := by
    simp only [String.toList_append, String.toList_ofList]
    rfl
  rw [hquoted]
  exact Document.writes_quoted h

theorem readIdentifier_string {i : String} (hi : Text.trim i ≠ "") :
    readIdentifier (.string i) = .ok (Text.trim i) :=
  if_neg hi

/-- Commands that forget an entity take its id, and nothing else, from the identifier. -/
theorem ofArguments_eq_of_forgets {name : CommandName} {kind : EntityKind}
    (hname : name.forgets? = some kind) :
    ∃ make : String → Command,
      (∀ arguments, ofArguments name arguments = (readIdentifier arguments).map make) ∧
        ∀ id, (make id).Forgets kind id := by
  cases name with
  | flushUser | flushSensor | flushKey =>
    cases hname
    exact ⟨_, fun _ => rfl, fun _ => .inl rfl⟩
  | deleteUser =>
    cases hname
    exact ⟨_, fun _ => rfl, fun _ => .inr ⟨rfl, rfl⟩⟩
  | _ => exact nomatch hname

/-- A command that forgets an entity forgets the one of its identifier without blanks around it. -/
theorem ofArguments_forgets {name : CommandName} {kind : EntityKind}
    (hname : name.forgets? = some kind) {i : String} (hi : Text.trim i ≠ "") :
    ∃ c, ofArguments name (.string i) = .ok c ∧ c.Forgets kind (Text.trim i) := by
  obtain ⟨make, hmake, hforgets⟩ := ofArguments_eq_of_forgets hname
  refine ⟨make (Text.trim i), ?_, hforgets (Text.trim i)⟩
  rw [hmake, readIdentifier_string hi]
  rfl

theorem exists_arguments_of_ofBytes {bytes : ByteArray} {c : Command} (h : ofBytes bytes = .ok c) :
    ∃ name arguments, ofArguments name arguments = .ok c := by
  rw [ofBytes] at h
  cases hdocument : Document.ofBytes bytes with
  | none => rw [hdocument] at h; exact nomatch h
  | some d =>
    rw [hdocument] at h
    change ofDocument d = .ok c at h
    rcases hsplit : split d with _ | ⟨text, arguments⟩
    · rw [ofDocument, hsplit] at h
      exact nomatch h
    cases hname : CommandName.ofText text with
    | error e => simp only [ofDocument, hsplit, hname] at h; exact nomatch h
    | ok name =>
      refine ⟨name, arguments, ?_⟩
      simp only [ofDocument, hsplit, hname] at h
      change (ofArguments name arguments).mapError _ = .ok c at h
      cases hcommand : ofArguments name arguments with
      | error e => rw [hcommand] at h; exact nomatch h
      | ok c' => rw [hcommand] at h; exact congrArg Except.ok (Except.ok.inj h)

theorem bare_of_readIdentifier {arguments : Value} {id : String}
    (h : readIdentifier arguments = .ok id) : Text.Bare id := by
  cases arguments with
  | string s =>
    rw [readIdentifier] at h
    split at h
    · exact nomatch h
    · cases h
      exact Text.bare_trim s
  | _ => exact nomatch h

theorem exists_of_map_ok {ε α β : Type} {x : Except ε α} {f : α → β} {b : β}
    (h : x.map f = .ok b) : ∃ a, x = .ok a ∧ f a = b := by
  cases x with
  | error e => exact nomatch h
  | ok a => exact ⟨a, rfl, Except.ok.inj h⟩

/-- No command forgets an entity whose id begins or ends with a blank. -/
theorem bare_of_forgets {bytes : ByteArray} {c : Command} (h : ofBytes bytes = .ok c)
    {kind : EntityKind} {id : String} (hc : c.Forgets kind id) : Text.Bare id := by
  obtain ⟨name, arguments, harguments⟩ := exists_arguments_of_ofBytes h
  have hread : readIdentifier arguments = .ok id := by
    cases name
    all_goals
      obtain ⟨a, hread, rfl⟩ := exists_of_map_ok harguments
      rcases hc with hc | ⟨-, hc⟩ <;> cases hc <;> exact hread
  exact bare_of_readIdentifier hread

end Command

end SensorRouter
