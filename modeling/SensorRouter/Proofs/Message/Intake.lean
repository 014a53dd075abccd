import Mathlib
import SensorRouter.Http.Endpoint
import SensorRouter.Proofs.Ring.Window

/-!
What a posted text is taken for. It is a batch, or one message, or nothing that can be taken in, and
never a batch and one message at once: a message in array form begins with its type, a string or a
number, which is not a message itself. Of a text that is neither, nothing enters the input queue, and
of the others all their messages do.
-/

namespace SensorRouter

namespace Message

open Json (Document)

/-! ### Messages as documents -/

variable {form : TypeForm} {now : Instant} {d : Document}

theorem ofDocument_eq (h : d.value?.isSome) :
    ofDocument form now d = (splitType form d).bind fun p => ofFields now p.1 p.2 := by
  have hvalue : d.value?.isNone = false := by
    rw [← Option.not_isSome, h]
    rfl
  simp only [ofDocument, hvalue]
  rfl

/-- A message none of whose parts is without a value, as its type and its other fields. -/
theorem ofDocument_eq_some_iff {m : Message} :
    ofDocument form now d = some m ↔
      d.value?.isSome ∧ ∃ kind rest, splitType form d = some (kind, rest) ∧
        ofFields now kind rest = some m := by
  constructor
  · intro h
    have hvalue : d.value?.isSome := by
      rw [Option.isSome_iff_ne_none]
      intro hnone
      simp [ofDocument, hnone] at h
    rw [ofDocument_eq hvalue] at h
    obtain ⟨⟨kind, rest⟩, hsplit, hfields⟩ := Option.bind_eq_some_iff.1 h
    exact ⟨hvalue, kind, rest, hsplit, hfields⟩
  · rintro ⟨hvalue, kind, rest, hsplit, hfields⟩
    rw [ofDocument_eq hvalue, hsplit]
    exact hfields

/-- A message is an object or an array, of which the array begins with the type. -/
theorem form_of_splitType {kind : MessageKind} {rest : Document}
    (h : splitType form d = some (kind, rest)) :
    (∃ fields, d = .object fields) ∨
      ∃ tag items, d = .array (tag :: items) ∧ readKind form tag = some kind := by
  cases d with
  | object fields => exact .inl ⟨fields, rfl⟩
  | array items =>
    cases items with
    | nil => exact nomatch h
    | cons tag items =>
      obtain ⟨_, hkind, heq⟩ := Option.map_eq_some_iff.1 h
      cases heq
      exact .inr ⟨tag, items, rfl, hkind⟩
  | _ => exact nomatch h

/-- What gives the type of a message is not a message. -/
theorem ofDocument_of_readKind {kind : MessageKind} (h : readKind form d = some kind) :
    ofDocument form now d = none := by
  rw [Option.eq_none_iff_forall_ne_some]
  intro m hm
  obtain ⟨-, _, _, hsplit, -⟩ := ofDocument_eq_some_iff.1 hm
  obtain ⟨fields, rfl⟩ | ⟨tag, items, rfl, -⟩ := form_of_splitType hsplit
  all_goals cases form <;> exact nomatch h

/-- A type that is given by its name may be given by its name or its index. -/
theorem readKind_byNameOrIndex {kind : MessageKind} (h : readKind .byName d = some kind) :
    readKind .byNameOrIndex d = some kind := by
  cases d with
  | string s => exact h
  | _ => exact nomatch h

theorem splitType_byNameOrIndex {p : MessageKind × Document} (h : splitType .byName d = some p) :
    splitType .byNameOrIndex d = some p := by
  have hread {d rest : Document} (h : (readKind .byName d).map (·, rest) = some p) :
      (readKind .byNameOrIndex d).map (·, rest) = some p := by
    obtain ⟨kind, hkind, hp⟩ := Option.map_eq_some_iff.1 h
    exact Option.map_eq_some_iff.2 ⟨kind, readKind_byNameOrIndex hkind, hp⟩
  cases d with
  | array items =>
    cases items with
    | nil => exact nomatch h
    | cons tag rest => exact hread h
  | object fields =>
    simp only [splitType] at h ⊢
    generalize fields.filter (fun f => f.1 = some "type") = typed at h ⊢
    match typed with
    | [_] => exact hread h
  | _ => exact nomatch h

/-! ### The two readings of a text -/

/-- The documents are messages, one by one. -/
def AreMessages (now : Instant) : List Document → List Message → Prop :=
  List.Forall₂ fun d m => ofDocument .byNameOrIndex now d = some m

theorem mapM_eq_some_iff {items : List Document} {messages : List Message} :
    items.mapM (ofDocument .byNameOrIndex now) = some messages ↔ AreMessages now items messages := by
  unfold AreMessages
  induction items generalizing messages with
  | nil => cases messages <;> simp
  | cons d rest ih =>
    rw [List.mapM_cons]
    cases hfirst : ofDocument .byNameOrIndex now d with
    | none => cases messages <;> simp [hfirst]
    | some m =>
      cases hrest : rest.mapM (ofDocument .byNameOrIndex now) with
      | none => cases messages <;> simp [hfirst, ← ih, hrest]
      | some ms => cases messages <;> simp [hfirst, ← ih, hrest]

/-- The text is an array of messages. -/
def IsBatch (now : Instant) (bytes : ByteArray) (messages : List Message) : Prop :=
  ∃ items, Document.ofBytes bytes = some (.array items) ∧ (Document.array items).value?.isSome ∧
    AreMessages now items messages

/-- The text is one message. -/
def IsSingle (now : Instant) (bytes : ByteArray) (m : Message) : Prop :=
  ∃ d, Document.ofBytes bytes = some d ∧ ofDocument .byNameOrIndex now d = some m

variable {bytes : ByteArray}

/-- A message on its own, whose type is always given by name, is one message. -/
theorem isSingle_of_ofBytes {m : Message} (h : ofBytes now bytes = some m) :
    IsSingle now bytes m := by
  obtain ⟨d, hd, hm⟩ := Option.bind_eq_some_iff.1 h
  obtain ⟨hvalue, kind, rest, hsplit, hfields⟩ := ofDocument_eq_some_iff.1 hm
  refine ⟨d, hd, ofDocument_eq_some_iff.2 ⟨hvalue, kind, rest, ?_, hfields⟩⟩
  exact splitType_byNameOrIndex hsplit

theorem areMessages_ne_single {items : List Document} {messages : List Message} {m : Message}
    (h : AreMessages now items messages) :
    ofDocument .byNameOrIndex now (.array items) ≠ some m := by
  intro hm
  obtain ⟨-, kind, rest, hsplit, -⟩ := ofDocument_eq_some_iff.1 hm
  obtain ⟨_, heq⟩ | ⟨tag, more, heq, hkind⟩ := form_of_splitType hsplit
  · exact nomatch heq
  · cases heq
    cases h with
    | cons htag _ => exact nomatch htag.symm.trans (ofDocument_of_readKind hkind)

/-- No text is a batch and one message. -/
theorem IsBatch.not_isSingle {messages : List Message} (h : IsBatch now bytes messages)
    (m : Message) : ¬ IsSingle now bytes m := by
  obtain ⟨items, hitems, -, hmessages⟩ := h
  rintro ⟨d, hd, hm⟩
  cases hitems.symm.trans hd
  exact areMessages_ne_single hmessages hm

theorem listOfDocument_eq_some_iff {messages : List Message} :
    listOfDocument now d = some messages ↔
      d.value?.isSome ∧
        (d.list? (ofDocument .byNameOrIndex now) = some messages ∨
          d.list? (ofDocument .byNameOrIndex now) = none ∧
            ∃ m, ofDocument .byNameOrIndex now d = some m ∧ messages = [m]) := by
  unfold listOfDocument
  cases hvalue : d.value? with
  | none => simp
  | some v =>
    simp only [Option.isNone_some, Bool.false_eq_true, if_false, Option.isSome_some, true_and]
    cases d.list? (ofDocument .byNameOrIndex now) with
    | some batch => simp
    | none => cases ofDocument .byNameOrIndex now d <;> simp [eq_comm]

theorem intake_of_listOfDocument {messages : List Message}
    (hd : Document.ofBytes bytes = some d) (h : listOfDocument now d = some messages) :
    intake now bytes = some (messages.map (restamp · now)) := by
  rw [intake, hd, Option.bind_some, h]
  rfl

theorem intake_of_isBatch {messages : List Message} (h : IsBatch now bytes messages) :
    intake now bytes = some (messages.map (restamp · now)) := by
  obtain ⟨items, hitems, hvalue, hmessages⟩ := h
  have hlist : (Document.array items).list? (ofDocument .byNameOrIndex now) = some messages :=
    mapM_eq_some_iff.2 hmessages
  exact intake_of_listOfDocument hitems (listOfDocument_eq_some_iff.2 ⟨hvalue, .inl hlist⟩)

theorem intake_of_isSingle {m : Message} (h : IsSingle now bytes m) :
    intake now bytes = some [m.restamp now] := by
  obtain ⟨d, hd, hm⟩ := id h
  have hvalue := (ofDocument_eq_some_iff.1 hm).1
  have hlist : d.list? (ofDocument .byNameOrIndex now) = none := by
    rw [Option.eq_none_iff_forall_ne_some]
    intro messages hmessages
    cases d with
    | array items =>
      exact IsBatch.not_isSingle ⟨items, hd, hvalue, mapM_eq_some_iff.1 hmessages⟩ m h
    | _ => exact nomatch hmessages
  exact intake_of_listOfDocument hd
    (listOfDocument_eq_some_iff.2 ⟨hvalue, .inr ⟨hlist, m, hm, rfl⟩⟩)

/-- Whatever is taken in was a batch or one message. -/
theorem reading_of_intake {taken : List Message} (h : intake now bytes = some taken) :
    (∃ messages, IsBatch now bytes messages) ∨ ∃ m, IsSingle now bytes m := by
  obtain ⟨messages, hread, -⟩ := Option.map_eq_some_iff.1 h
  obtain ⟨d, hd, hlisted⟩ := Option.bind_eq_some_iff.1 hread
  obtain ⟨hvalue, hlist | ⟨-, m, hm, -⟩⟩ := listOfDocument_eq_some_iff.1 hlisted
  · cases d with
    | array items => exact .inl ⟨messages, items, hd, hvalue, mapM_eq_some_iff.1 hlist⟩
    | _ => exact nomatch hlist
  · exact .inr ⟨m, d, hd, hm⟩

end Message

/-! ### Posting -/

namespace Http

variable {σ : Type}

/-- The response to a text that is refused: the service is as it was. -/
def Refused (s : Service σ) (outcome : Response × Service σ) : Prop :=
  outcome.1.status = 400 ∧ outcome.2 = s

/-- The messages have been taken in: their number is in the response, and they stand in order at the
back of the input queue, each with the present as its stamp. Nothing else of the service changes. -/
structure TakenIn (present : Instant) (messages : List Message) (s : Service σ)
    (outcome : Response × Service σ) : Prop where
  response : outcome.1 = ⟨202, .json (.ofFields [("accepted", .nat messages.length)])⟩
  input : outcome.2.engine.router.input.toList =
    s.engine.router.input.toList ++ messages.map fun m => { m with stamp := present }
  frame : ∃ input, outcome.2 =
    { s with engine := { s.engine with router := { s.engine.router with input } } }

theorem input_foldl_submit (messages : List Message) (r : Router) :
    messages.foldl .submit r = { r with input := messages.foldl .pushBack r.input } := by
  induction messages generalizing r with
  | nil => rfl
  | cons m rest ih => exact ih (r.submit m)

theorem takenIn_of_intake {w : Surroundings σ} {body : ByteArray} {messages : List Message}
    (h : Message.intake w.present body = some (messages.map (Message.restamp · w.present)))
    (s : Service σ) : TakenIn w.present messages s (postMessages w body s) := by
  simp only [postMessages, h, Service.submitAll, input_foldl_submit]
  refine ⟨?_, Ring.toList_foldl_pushBack _ _, ⟨_, rfl⟩⟩
  rw [List.length_map]

end Http

/-- A text is taken in as the batch or as the one message that it is, and otherwise refused. It is
never both, and a text that reads as a message on its own is one message. -/
theorem Http.postMessages_all_or_none {σ : Type} (w : Surroundings σ) (body : ByteArray)
    (s : Service σ) :
    (Refused s (postMessages w body s) ∨
        ∃ messages, TakenIn w.present messages s (postMessages w body s)) ∧
      (∀ messages, Message.IsBatch w.present body messages →
        TakenIn w.present messages s (postMessages w body s)) ∧
      (∀ m, Message.IsSingle w.present body m →
        TakenIn w.present [m] s (postMessages w body s)) ∧
      ((∀ messages, ¬ Message.IsBatch w.present body messages) →
        (∀ m, ¬ Message.IsSingle w.present body m) → Refused s (postMessages w body s)) ∧
      (∀ messages m, ¬ (Message.IsBatch w.present body messages ∧
        Message.IsSingle w.present body m)) ∧
      ∀ m, Message.ofBytes w.present body = some m → Message.IsSingle w.present body m := by
  have hbatch messages (h : Message.IsBatch w.present body messages) :=
    takenIn_of_intake (Message.intake_of_isBatch h) s
  have hsingle m (h : Message.IsSingle w.present body m) :
      TakenIn w.present [m] s (postMessages w body s) :=
    takenIn_of_intake (Message.intake_of_isSingle h) s
  have hrefused (h : Message.intake w.present body = none) :
      Refused s (postMessages w body s) := by
    rw [postMessages, h]
    exact ⟨rfl, rfl⟩
  refine ⟨?_, hbatch, hsingle, ?_, fun messages m h => h.1.not_isSingle m h.2,
    fun m h => Message.isSingle_of_ofBytes h⟩
  · cases hintake : Message.intake w.present body with
    | none => exact .inl (hrefused hintake)
    | some taken =>
      obtain ⟨messages, h⟩ | ⟨m, h⟩ := Message.reading_of_intake hintake
      · exact .inr ⟨messages, hbatch messages h⟩
      · exact .inr ⟨[m], hsingle m h⟩
  · intro hnobatch hnosingle
    apply hrefused
    rw [Option.eq_none_iff_forall_ne_some]
    intro taken hintake
    obtain ⟨messages, h⟩ | ⟨m, h⟩ := Message.reading_of_intake hintake
    · exact hnobatch messages h
    · exact hnosingle m h

end SensorRouter
