import SensorRouter.Proofs.Outbound.Outbox
import SensorRouter.Proofs.Text.Substitution

/-!
Topics keep destinations apart. A topic tells the sensor or the target that it is for, whatever their
names are; and where the target stands once in its template, the topics of two targets differ also
between kinds of messages. So the records that are counted for a target are those that were added for
it since the last flush.
-/

namespace SensorRouter

open Text (occurrences idMark targetMark typeMark Diverge substituteFrom)

/-! ### Marks -/

namespace Text

/-- The characters behind the sign of a mark, among which there is no sign. -/
structure Names (mark : String) (name : List Char) : Prop where
  toList : mark.toList = '$' :: name
  plain : '$' ∉ name

theorem typeMark_names : Names typeMark "type".toList := ⟨rfl, by decide⟩

theorem idMark_names : Names idMark "id".toList := ⟨rfl, by decide⟩

theorem targetMark_names : Names targetMark "target".toList := ⟨rfl, by decide⟩

theorem Names.substitute_injective {mark template : String} {name : List Char}
    (hmark : Names mark name) (h : 0 < occurrences mark template) :
    Function.Injective (substitute template mark) := by
  intro v w heq
  have hwithin := occurrences_pos_iff.1 h
  rw [hmark.toList] at hwithin
  apply String.toList_injective
  apply substituteFrom_injective hmark.plain hwithin
  have hchars := congrArg String.toList heq
  simp only [substitute, String.toList_ofList, hmark.toList] at hchars
  exact hchars

/-- Another mark still occurs once the mark of the kind has been replaced. -/
theorem Names.occurs_substitute {mark template : String} {name : List Char} (hmark : Names mark name)
    (hdiverge : Diverge "type".toList name) (h : 0 < occurrences mark template) (value : String) :
    0 < occurrences mark (substitute template typeMark value) := by
  have hwithin := occurrences_pos_iff.1 h
  rw [hmark.toList] at hwithin
  apply occurrences_pos_iff.2
  rw [substitute, String.toList_ofList, typeMark_names.toList, hmark.toList]
  exact infix_substituteFrom typeMark_names.plain hmark.plain hdiverge hwithin _

end Text

/-! ### Topics -/

namespace RoutingSettings

variable {s : RoutingSettings}

theorem actuatorTopic_injective (h : 0 < occurrences idMark s.actuatorTemplate) :
    Function.Injective s.actuatorTopic :=
  Text.idMark_names.substitute_injective h

theorem publicTopic_injective (h : 0 < occurrences idMark s.publicTemplate) (kind : MessageKind) :
    Function.Injective (s.publicTopic kind) := by
  apply Text.idMark_names.substitute_injective
  exact Text.idMark_names.occurs_substitute (by decide) h kind.segment

end RoutingSettings

namespace MessageKind

/-- The segments of two kinds can be told apart from either end. -/
theorem segments_diverge {k k' : MessageKind} (h : k ≠ k') :
    Diverge k.segment.toList k'.segment.toList ∧
      Diverge k.segment.toList.reverse k'.segment.toList.reverse := by
  revert h
  cases k <;> cases k' <;> decide +kernel

/-- A segment has no sign, and does not begin like any part of the mark of a target. -/
theorem segment_plain (k : MessageKind) :
    k.segment.toList ≠ [] ∧ '$' ∉ k.segment.toList ∧
      ∀ c ∈ k.segment.toList.head?, c ∉ "target".toList := by
  cases k <;> refine ⟨by decide, by decide, ?_⟩ <;> rintro c ⟨⟩ <;> decide

end MessageKind

namespace QueueSettings

variable {s : QueueSettings}

theorem liveTopic_injective (h : 0 < occurrences targetMark s.liveTemplate) (kind : MessageKind) :
    Function.Injective (s.liveTopic kind) := by
  apply Text.targetMark_names.substitute_injective
  exact Text.targetMark_names.occurs_substitute (by decide) h kind.segment

/-- Where the target stands once in the template, it stands between two parts of the topic in which
only the kind has been filled in. -/
theorem exists_liveTopic_eq (h : occurrences targetMark s.liveTemplate = 1) :
    ∃ front back, ∀ kind target, (s.liveTopic kind target).toList =
      substituteFrom ('$' :: "type".toList) kind.segment.toList 0 front ++
        (target.toList ++ substituteFrom ('$' :: "type".toList) kind.segment.toList 0 back) := by
  obtain ⟨front, back, htemplate, hfront, hback⟩ :=
    Text.exists_of_countP_tails_eq_one (List.cons_ne_nil '$' "target".toList) h
  refine ⟨front, back, fun kind target => ?_⟩
  obtain ⟨hpresent, hsign, hhead⟩ := kind.segment_plain
  have htarget := Text.targetMark_names.plain
  have hfree : ∀ {part : List Char}, ¬ '$' :: "target".toList <:+: part →
      ¬ '$' :: "target".toList <:+:
        substituteFrom ('$' :: "type".toList) kind.segment.toList 0 part :=
    Text.free_substituteFrom htarget hhead hsign hpresent
  have hkind := Text.substituteFrom_around_other Text.typeMark_names.plain htarget (by decide)
    kind.segment.toList front back
  simp only [liveTopic, Text.substitute, String.toList_ofList, Text.typeMark_names.toList,
    Text.targetMark_names.toList]
  rw [htemplate, hkind, Text.substituteFrom_around htarget,
    Text.substituteFrom_of_free (hfree hfront), Text.substituteFrom_of_free (hfree hback)]

/-- Topics of two targets differ, whatever the kinds. -/
theorem eq_of_liveTopic_eq (h : occurrences targetMark s.liveTemplate = 1) {kind kind' : MessageKind}
    {target target' : String} (heq : s.liveTopic kind target = s.liveTopic kind' target') :
    target = target' := by
  obtain ⟨front, back, htopic⟩ := exists_liveTopic_eq h
  have hchars := congrArg String.toList heq
  rw [htopic, htopic] at hchars
  apply String.toList_injective
  by_cases hkind : kind = kind'
  · subst hkind
    exact List.append_cancel_right (List.append_cancel_left hchars)
  · -- the kinds differ, and neither part can have their mark
    obtain ⟨hdiverge, hreverse⟩ := MessageKind.segments_diverge hkind
    have hfront := Text.free_of_append_eq hdiverge hchars
    simp only [Text.substituteFrom_of_free hfront] at hchars
    have htail := List.append_cancel_left hchars
    have hback := Text.free_of_append_eq_back Text.typeMark_names.plain hreverse htail
    simp only [Text.substituteFrom_of_free hback] at htail
    exact List.append_cancel_right htail

end QueueSettings

/-! ### Records for a target -/

/-- What happens to the outbound queues, of which one may be flushed by itself. -/
inductive QueueEvent where
  | enqueue (e : Enqueue)
  | flush
  | flushOne (name : QueueName)

namespace QueueEvent

def flushesLive : QueueEvent → Bool
  | .flush | .flushOne .live => true
  | _ => false

/-- The event adds a message for a live data target. -/
def addsFor (target : String) : QueueEvent → Bool
  | .enqueue (.live t _) => t = target
  | _ => false

/-- The records that the event adds to the live data queue. -/
def liveRecords (settings : QueueSettings) : QueueEvent → List (Outbound Message)
  | .enqueue e => e.records settings .live
  | .flush | .flushOne _ => []

/-- The events after the last flush of the live data queue. -/
def sinceFlush (events : List QueueEvent) : List QueueEvent :=
  (events.reverse.takeWhile fun e => !e.flushesLive).reverse

theorem sinceFlush_flush {e : QueueEvent} (h : e.flushesLive = true) (events : List QueueEvent) :
    sinceFlush (events ++ [e]) = [] := by
  simp [sinceFlush, h]

theorem sinceFlush_other {e : QueueEvent} (h : e.flushesLive = false) (events : List QueueEvent) :
    sinceFlush (events ++ [e]) = sinceFlush events ++ [e] := by
  simp [sinceFlush, h]

end QueueEvent

namespace Queues

theorem items_takeShipments (q : Queues) (name name' : QueueName) :
    ((q.takeShipments name).2.queue name').items =
      if name = name' then (q.queue name').items.drain.2 else (q.queue name').items := by
  cases name <;> cases name' <;> rfl

theorem settings_takeShipments (q : Queues) (name : QueueName) :
    (q.takeShipments name).2.settings = q.settings := by
  cases name <;> rfl

theorem Packed.takeShipments {q : Queues} (h : q.Packed) (name : QueueName) :
    (q.takeShipments name).2.Packed := by
  intro name'
  rw [items_takeShipments]
  split
  · exact (h name').drain_spec.2.2
  · exact h name'

theorem Packed.waiting_takeShipments {q : Queues} (h : q.Packed) (name name' : QueueName) :
    (q.takeShipments name).2.waiting name' = if name = name' then [] else q.waiting name' := by
  rw [waiting, TopicQueue.contents, items_takeShipments]
  split
  · exact (h name').drain_spec.2.1
  · rfl

/-- The records counted for a target are those on one of its topics. -/
theorem lengthForTarget_eq (q : Queues) (target : String) :
    q.lengthForTarget target =
      (q.waiting .live).countP fun item =>
        MessageKind.all.any fun k => q.settings.liveTopic k target == item.topic := by
  simp only [lengthForTarget, TopicQueue.countWhere, Ring.countWhere, List.any_map]
  rfl

/-- The buffers are in order, and the live data queue holds what was added since its last flush. -/
structure HoldsSince (q : Queues) (settings : QueueSettings) (events : List QueueEvent) : Prop where
  sameSettings : q.settings = settings
  packed : q.Packed
  waiting : q.waiting .live = (QueueEvent.sinceFlush events).flatMap (·.liveRecords settings)

namespace HoldsSince

variable {q : Queues} {settings : QueueSettings} {events : List QueueEvent}

theorem enqueue (h : q.HoldsSince settings events) (e : Enqueue) :
    (q.enqueue e).HoldsSince settings (events ++ [.enqueue e]) := by
  refine ⟨(q.settings_enqueue e).trans h.sameSettings, h.packed.enqueue e, ?_⟩
  have hadded := q.waiting_enqueue e .live
  rw [h.sameSettings, h.waiting] at hadded
  rw [QueueEvent.sinceFlush_other rfl, List.flatMap_append, List.flatMap_singleton]
  exact hadded

theorem flush {σ : Type} (h : q.HoldsSince settings events) (p : Publisher σ) (s : σ) :
    (q.flush p s).2.1.HoldsSince settings (events ++ [.flush]) := by
  obtain ⟨hpacked, hnothing⟩ := h.packed.flush_empties p s
  refine ⟨h.sameSettings, hpacked, ?_⟩
  rw [QueueEvent.sinceFlush_flush rfl]
  exact (hnothing .live).1

theorem flushOne (h : q.HoldsSince settings events) (name : QueueName) :
    (q.takeShipments name).2.HoldsSince settings (events ++ [.flushOne name]) := by
  refine ⟨(q.settings_takeShipments name).trans h.sameSettings, h.packed.takeShipments name, ?_⟩
  apply (h.packed.waiting_takeShipments name .live).trans
  cases name with
  | live =>
    rw [QueueEvent.sinceFlush_flush rfl]
    rfl
  | trigger | storage | publication | events =>
    rw [QueueEvent.sinceFlush_other rfl, List.flatMap_append, List.flatMap_singleton, ← h.waiting]
    exact (List.append_nil _).symm

end HoldsSince

end Queues

namespace Outbox

variable {σ : Type} (p : Publisher σ)

def perform (x : Outbox σ) : QueueEvent → Outbox σ
  | .enqueue e => { x with queues := x.queues.enqueue e }
  | .flush =>
    let (_, queues, publisher) := x.queues.flush p x.publisher
    { queues, publisher }
  | .flushOne name =>
    let (_, queues, publisher) := x.queues.flushOne name p x.publisher
    { queues, publisher }

def performAll (x : Outbox σ) (events : List QueueEvent) : Outbox σ :=
  events.foldl (perform p) x

theorem holdsSince_performAll (settings : QueueSettings) (s : σ) (events : List QueueEvent) :
    (performAll p ⟨.empty settings, s⟩ events).queues.HoldsSince settings events := by
  induction events using List.reverseRecOn with
  | nil => exact ⟨rfl, Queues.packed_empty settings, rfl⟩
  | append_singleton events e ih =>
    rw [performAll, List.foldl_append]
    cases e with
    | enqueue e => exact ih.enqueue e
    | flush => exact ih.flush p (performAll p ⟨.empty settings, s⟩ events).publisher
    | flushOne name => exact ih.flushOne name

end Outbox

/-- What an event adds is on a topic of a target exactly if it is for this target. -/
theorem QueueEvent.countP_liveRecords {settings : QueueSettings}
    (h : occurrences targetMark settings.liveTemplate = 1) (target : String) (e : QueueEvent) :
    ((e.liveRecords settings).countP fun item =>
        MessageKind.all.any fun k => settings.liveTopic k target == item.topic) =
      if e.addsFor target then 1 else 0 := by
  cases e with
  | flush | flushOne => rfl
  | enqueue e =>
    cases e with
    | trigger | storage | publication | event => rfl
    | live t m =>
      have hon : (MessageKind.all.any fun k =>
          settings.liveTopic k target == settings.liveTopic m.kind t) = true ↔
            (QueueEvent.enqueue (.live t m)).addsFor target = true := by
        rw [List.any_eq_true, addsFor, decide_eq_true_iff]
        constructor
        · rintro ⟨k, -, hsame⟩
          exact (QueueSettings.eq_of_liveTopic_eq h (eq_of_beq hsame)).symm
        · rintro rfl
          refine ⟨m.kind, ?_, beq_self_eq_true _⟩
          cases m.kind <;> decide
      exact List.countP_singleton.trans (if_congr hon rfl rfl)

theorem QueueEvent.countP_flatMap_liveRecords {settings : QueueSettings}
    (h : occurrences targetMark settings.liveTemplate = 1) (target : String)
    (events : List QueueEvent) :
    ((events.flatMap (·.liveRecords settings)).countP fun item =>
        MessageKind.all.any fun k => settings.liveTopic k target == item.topic) =
      events.countP (·.addsFor target) := by
  induction events with
  | nil => rfl
  | cons e rest ih =>
    rw [List.flatMap_cons, List.countP_append, countP_liveRecords h, ih, List.countP_cons,
      Nat.add_comm]

/-- A topic that names its sensor or its target belongs to no other: for every template in which the
mark occurs the topic of one kind is injective in the name. Where the mark of the target occurs once,
what is counted for a target, after any adding and flushing, are the messages of any kind that were
added for it since the last flush, and none that were added for another. -/
theorem topics_keep_apart {σ : Type} (routing : RoutingSettings) (queues : QueueSettings) :
    (0 < occurrences idMark routing.actuatorTemplate → Function.Injective routing.actuatorTopic) ∧
      (0 < occurrences idMark routing.publicTemplate →
        ∀ kind, Function.Injective (routing.publicTopic kind)) ∧
      (0 < occurrences targetMark queues.liveTemplate →
        ∀ kind, Function.Injective (queues.liveTopic kind)) ∧
      (occurrences targetMark queues.liveTemplate = 1 →
        ∀ (p : Publisher σ) (s : σ) (events : List QueueEvent) (target : String),
          (Outbox.performAll p ⟨.empty queues, s⟩ events).queues.lengthForTarget target =
            (QueueEvent.sinceFlush events).countP (·.addsFor target)) := by
  refine ⟨RoutingSettings.actuatorTopic_injective, RoutingSettings.publicTopic_injective,
    QueueSettings.liveTopic_injective, ?_⟩
  intro h p s events target
  have hholds := Outbox.holdsSince_performAll p queues s events
  rw [Queues.lengthForTarget_eq, hholds.sameSettings, hholds.waiting]
  exact QueueEvent.countP_flatMap_liveRecords h target _

/-- Marks side by side and next to further signs, targets that look like marks, a flush of another
queue, and messages of two kinds. -/
theorem topics_keep_apart_beside_signs :
    let routing : RoutingSettings :=
      { actuatorTemplate := "$id$$id", publicTemplate := "$type$id$type" }
    let queues : QueueSettings := { liveTemplate := "$$target$type$" }
    let reading : Message := { sensorId := "s1", stamp := default, content := .text none "on" none }
    let order : Message := { sensorId := "s1", stamp := default, content := .control "on" .device }
    let events : List QueueEvent := [.enqueue (.live "a" order), .flush,
      .enqueue (.live "a" reading), .enqueue (.live "$type" order), .flushOne .storage,
      .enqueue (.live "a" order)]
    (0 < occurrences idMark routing.actuatorTemplate ∧ Function.Injective routing.actuatorTopic) ∧
      (0 < occurrences idMark routing.publicTemplate ∧
        ∀ kind, Function.Injective (routing.publicTopic kind)) ∧
      (0 < occurrences targetMark queues.liveTemplate ∧
        ∀ kind, Function.Injective (queues.liveTopic kind)) ∧
      occurrences targetMark queues.liveTemplate = 1 ∧
        (Outbox.performAll logPublisher ⟨.empty queues, ()⟩ events).queues.lengthForTarget "a" = 2 := by
  intro routing queues reading order events
  have hactuator : 0 < occurrences idMark routing.actuatorTemplate := by decide
  have hpublic : 0 < occurrences idMark routing.publicTemplate := by decide
  have hlive : occurrences targetMark queues.liveTemplate = 1 := by decide
  have hoccurs : 0 < occurrences targetMark queues.liveTemplate := hlive ▸ Nat.one_pos
  obtain ⟨hactuators, hpublics, htargets, hcounted⟩ :=
    topics_keep_apart (σ := Unit) routing queues
  refine ⟨⟨hactuator, hactuators hactuator⟩, ⟨hpublic, hpublics hpublic⟩,
    ⟨hoccurs, htargets hoccurs⟩, hlive, ?_⟩
  exact hcounted hlive logPublisher () events "a"

end SensorRouter
