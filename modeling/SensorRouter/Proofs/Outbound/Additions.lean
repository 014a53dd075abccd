import SensorRouter.Outbound.Queues
import SensorRouter.Proofs.Ring.Contents

/-!
What is added to the outbound queues. `Queues.Gains` compares two states of the queues by their
contents: each queue kept what it held and got the listed records at its back.
-/

namespace SensorRouter

namespace TopicQueue

variable {α : Type}

/-- The records that wait, with their topics, from front to back. -/
def contents (q : TopicQueue α) : List (Outbound α) :=
  q.items.toList

@[simp]
theorem contents_push (q : TopicQueue α) (topic : String) (record : α) :
    (q.push topic record).contents = q.contents ++ [⟨topic, record⟩] :=
  Ring.toList_pushBack _ _

end TopicQueue

/-- Records for the outbound queues, with their topics. -/
structure Additions where
  trigger : List (Outbound Message) := []
  storage : List (Outbound Message) := []
  live : List (Outbound Message) := []
  publication : List (Outbound Message) := []
  events : List (Outbound NetworkEvent) := []

namespace Additions

def none : Additions := {}

def append (a b : Additions) : Additions where
  trigger := a.trigger ++ b.trigger
  storage := a.storage ++ b.storage
  live := a.live ++ b.live
  publication := a.publication ++ b.publication
  events := a.events ++ b.events

instance : Append Additions := ⟨append⟩

@[simp]
theorem mk_append (trigger storage live publication trigger' storage' live' publication' :
    List (Outbound Message)) (events events' : List (Outbound NetworkEvent)) :
    mk trigger storage live publication events ++
        mk trigger' storage' live' publication' events' =
      mk (trigger ++ trigger') (storage ++ storage') (live ++ live')
        (publication ++ publication') (events ++ events') := rfl

end Additions

namespace Queues

/-- The queues for copies of messages, all but that of the events, are the same. -/
structure SameCopies (q q' : Queues) : Prop where
  trigger : q.trigger = q'.trigger
  storage : q.storage = q'.storage
  live : q.live = q'.live
  publication : q.publication = q'.publication

theorem SameCopies.refl (q : Queues) : q.SameCopies q :=
  ⟨rfl, rfl, rfl, rfl⟩

/-- `after` is `before` with records added at the back. -/
structure Gains (before after : Queues) (a : Additions) : Prop where
  settings : after.settings = before.settings
  trigger : after.trigger.contents = before.trigger.contents ++ a.trigger
  storage : after.storage.contents = before.storage.contents ++ a.storage
  live : after.live.contents = before.live.contents ++ a.live
  publication : after.publication.contents = before.publication.contents ++ a.publication
  events : after.events.contents = before.events.contents ++ a.events

theorem Gains.refl (q : Queues) : q.Gains q .none := by
  constructor <;> simp [Additions.none]

theorem Gains.trans {q q' q'' : Queues} {a b : Additions} (h : q.Gains q' a)
    (h' : q'.Gains q'' b) : q.Gains q'' (a ++ b) where
  settings := h'.settings.trans h.settings
  trigger := by rw [h'.trigger, h.trigger, List.append_assoc]; rfl
  storage := by rw [h'.storage, h.storage, List.append_assoc]; rfl
  live := by rw [h'.live, h.live, List.append_assoc]; rfl
  publication := by rw [h'.publication, h.publication, List.append_assoc]; rfl
  events := by rw [h'.events, h.events, List.append_assoc]; rfl

theorem gains_addTrigger (q : Queues) {m : Message} (hm : m.kind ≠ .control) :
    q.Gains (q.addTrigger m) { trigger := [⟨q.settings.triggerTopic m.kind, m⟩] } := by
  have hcontrol : m.isControl = false := decide_eq_false hm
  constructor <;> simp [addTrigger, hcontrol]

theorem gains_addStorage (q : Queues) {m : Message} {topic : String}
    (htopic : q.settings.storageTopic? m.kind = some topic) :
    q.Gains (q.addStorage m) { storage := [⟨topic, m⟩] } := by
  constructor <;> simp [addStorage, htopic]

theorem gains_addLive (q : Queues) (target : String) (m : Message) :
    q.Gains (q.addLive target m) { live := [⟨q.settings.liveTopic m.kind target, m⟩] } := by
  constructor <;> simp [addLive]

theorem gains_addPublication (q : Queues) (topic : String) (m : Message) :
    q.Gains (q.addPublication topic m) { publication := [⟨topic, m⟩] } := by
  constructor <;> simp [addPublication]

theorem gains_addEvent (q : Queues) (e : NetworkEvent) :
    q.Gains (q.addEvent e) { events := [⟨q.settings.eventTopic, e⟩] } := by
  constructor <;> simp [addEvent]

/-- One copy for each of several live data targets, in their order. -/
theorem gains_addLiveEach (q : Queues) (targets : List String) (m : Message) :
    q.Gains (targets.foldl (fun q target => q.addLive target m) q)
      { live := targets.map fun target => ⟨q.settings.liveTopic m.kind target, m⟩ } := by
  induction targets generalizing q with
  | nil => exact .refl q
  | cons target rest ih =>
    have hfirst := q.gains_addLive target m
    have hrest := ih (q.addLive target m)
    rw [hfirst.settings] at hrest
    exact hfirst.trans hrest

end Queues

end SensorRouter
