import SensorRouter.Proofs.Outbound.Additions
import SensorRouter.Proofs.Outbound.Grouping
import SensorRouter.Proofs.Outbound.Outcomes
import SensorRouter.Proofs.Ring.Removal

/-!
A flush of the outbound queues. Each queue hands its records to the publisher in parcels, one for
each topic on which it has any, and is empty afterwards; the result reflects what came of the
parcels.
-/

namespace SensorRouter

open Json (Value)

theorem TopicQueue.takeShipments_eq {α : Type} {q : TopicQueue α} (h : q.items.Packed)
    (toValue : α → Value) :
    (q.takeShipments toValue).1 = (TopicBatch.group q.contents).map fun b =>
      ⟨⟨b.topic, Batch.encode (b.records.map toValue), q.retain⟩, b.records.length⟩ := by
  rw [takeShipments, contents, ← h.drain_spec.1]

/-! ### Queues by name -/

/-- What a queue holds. -/
abbrev QueueName.Record : QueueName → Type
  | trigger | storage | live | publication => Message
  | events => NetworkEvent

def QueueName.toValue : (name : QueueName) → name.Record → Value
  | trigger | storage | live | publication => Message.toValue
  | events => NetworkEvent.toValue

namespace Queues

def queue (q : Queues) : (name : QueueName) → TopicQueue name.Record
  | .trigger => q.trigger
  | .storage => q.storage
  | .live => q.live
  | .publication => q.publication
  | .events => q.events

/-- The records that wait in a queue, with their topics. -/
def waiting (q : Queues) (name : QueueName) : List (Outbound name.Record) :=
  (q.queue name).contents

/-- The buffers of the queues are in order. -/
def Packed (q : Queues) : Prop :=
  ∀ name, (q.queue name).items.Packed

theorem takeAll_fst (q : Queues) :
    q.takeAll.1 = QueueName.all.map fun name => ((q.queue name).takeShipments name.toValue).1 := rfl

theorem queue_takeAll (q : Queues) (name : QueueName) :
    q.takeAll.2.queue name = ((q.queue name).takeShipments name.toValue).2 := by
  cases name <;> rfl

end Queues

/-! ### Parcels -/

/-- A batch of one of the queues. -/
structure Parcel where
  queue : QueueName
  batch : TopicBatch queue.Record

namespace Parcel

def topic (x : Parcel) : String :=
  x.batch.topic

def size (x : Parcel) : Nat :=
  x.batch.records.length

/-- The records of the parcel, if it is from a queue and for a topic. -/
def recordsOn (x : Parcel) (name : QueueName) (topic : String) : List name.Record :=
  if h : x.queue = name then
    if x.topic = topic then h ▸ x.batch.records else []
  else []

end Parcel

namespace Queues

variable {σ : Type} {q : Queues}

/-- What a flush makes of the records of a queue. -/
def parcelsOf (q : Queues) (name : QueueName) : List Parcel :=
  (TopicBatch.group (q.waiting name)).map (Parcel.mk name)

/-- What a flush makes of the records of all queues. -/
def parcels (q : Queues) : List Parcel :=
  QueueName.all.flatMap q.parcelsOf

/-- The parcel as the publisher gets it. -/
def delivery (q : Queues) (x : Parcel) : Delivery :=
  ⟨x.topic, Batch.encode (x.batch.records.map x.queue.toValue), (q.queue x.queue).retain⟩

def shipment (q : Queues) (x : Parcel) : Shipment :=
  ⟨q.delivery x, x.size⟩

/-- The parcels that a flush offers to a publisher, and what comes of them. -/
def handovers (q : Queues) (p : Publisher σ) (s : σ) : List (Attempt Parcel) :=
  (p.attempts q.delivery q.parcels s).1

theorem Packed.takeAll_shipments (h : q.Packed) :
    q.takeAll.1 = QueueName.all.map fun name => (q.parcelsOf name).map q.shipment := by
  rw [takeAll_fst]
  refine List.map_congr_left fun name _ => ?_
  rw [TopicQueue.takeShipments_eq (h name), parcelsOf, List.map_map]
  rfl

theorem Packed.takeAll_flatten (h : q.Packed) : q.takeAll.1.flatten = q.parcels.map q.shipment := by
  rw [h.takeAll_shipments, parcels, List.map_flatMap, List.flatMap_def]

/-- A queue hands over a topic once, if it has records on it. -/
theorem topics_parcelsOf (q : Queues) (name : QueueName) :
    (q.parcelsOf name).map Parcel.topic = topicsOf (q.waiting name) := by
  rw [parcelsOf, List.map_map, ← TopicBatch.topics_group]
  rfl

theorem filter_parcelsOf (q : Queues) (name name' : QueueName) :
    ((q.parcelsOf name').filter fun x => x.queue = name) =
      if name' = name then q.parcelsOf name' else [] := by
  by_cases hname : name' = name
  · rw [if_pos hname, List.filter_eq_self]
    intro x hx
    obtain ⟨b, -, rfl⟩ := List.mem_map.1 hx
    exact decide_eq_true hname
  · rw [if_neg hname, List.filter_eq_nil_iff]
    intro x hx
    obtain ⟨b, -, rfl⟩ := List.mem_map.1 hx
    exact fun hsame => hname (of_decide_eq_true hsame)

theorem filter_parcels (q : Queues) (name : QueueName) :
    (q.parcels.filter fun x => x.queue = name) = q.parcelsOf name := by
  rw [parcels, List.filter_flatMap]
  simp only [filter_parcelsOf]
  cases name <;> simp [QueueName.all]

theorem recordsOn_parcelsOf (q : Queues) (name : QueueName) (topic : String) :
    ((q.parcelsOf name).flatMap fun x => x.recordsOn name topic) =
      (TopicBatch.ofTopic (q.waiting name) topic).records := by
  rw [parcelsOf, List.flatMap_map, ← TopicBatch.flatMap_group]
  exact List.flatMap_congr fun b _ => dif_pos rfl

/-- The parcels of a flush have each record that waits in a queue on a topic once, in order. -/
theorem recordsOn_parcels (q : Queues) (name : QueueName) (topic : String) :
    (q.parcels.flatMap fun x => x.recordsOn name topic) =
      (TopicBatch.ofTopic (q.waiting name) topic).records := by
  -- the parcels of the other queues have nothing to add
  have hother : ∀ name' ≠ name,
      ((q.parcelsOf name').flatMap fun x => x.recordsOn name topic) = [] := by
    intro name' hne
    refine List.flatMap_eq_nil_iff.2 fun x hx => ?_
    obtain ⟨b, -, rfl⟩ := List.mem_map.1 hx
    exact dif_neg hne
  rw [← recordsOn_parcelsOf, parcels, List.flatMap_assoc]
  cases name <;> simp [QueueName.all, hother]

theorem nodup_topics_parcelsOf (q : Queues) (name : QueueName) :
    ((q.parcelsOf name).map Parcel.topic).Nodup := by
  rw [topics_parcelsOf]
  exact nodup_topicsOf _

theorem mem_topics_parcelsOf {name : QueueName} {topic : String} :
    topic ∈ (q.parcelsOf name).map Parcel.topic ↔ ∃ item ∈ q.waiting name, item.topic = topic := by
  rw [topics_parcelsOf, mem_topicsOf]

/-- No topic is used by two queues. -/
def Separate (q : Queues) : Prop :=
  ∀ name name', ∀ a ∈ q.waiting name, ∀ b ∈ q.waiting name', a.topic = b.topic → name = name'

theorem Separate.nodup_topics (h : q.Separate) : (q.parcels.map Parcel.topic).Nodup := by
  rw [parcels, List.map_flatMap, List.nodup_flatMap]
  refine ⟨fun name _ => q.nodup_topics_parcelsOf name, ?_⟩
  have hnames : QueueName.all.Pairwise (· ≠ ·) := by decide
  refine hnames.imp fun {name name'} hne => ?_
  intro topic htopic htopic'
  obtain ⟨a, ha, hsame⟩ := mem_topics_parcelsOf.1 htopic
  obtain ⟨b, hb, hsame'⟩ := mem_topics_parcelsOf.1 htopic'
  exact hne (h name name' a ha b hb (hsame.trans hsame'.symm))

/-! ### One flush -/

variable (p : Publisher σ) (s : σ)

theorem offered_handovers (q : Queues) : (q.handovers p s).map (·.offered) = q.parcels :=
  p.offered_attempts q.delivery q.parcels s

theorem recordsOn_handovers (q : Queues) (name : QueueName) (topic : String) :
    ((q.handovers p s).flatMap fun a => a.offered.recordsOn name topic) =
      (TopicBatch.ofTopic (q.waiting name) topic).records := by
  rw [← recordsOn_parcels, ← offered_handovers p s, List.flatMap_map]

theorem Packed.attempts_shipments (h : q.Packed) :
    (p.attempts Shipment.delivery q.takeAll.1.flatten s).1 =
      (q.handovers p s).map (Attempt.map q.shipment) := by
  rw [h.takeAll_flatten, Publisher.attempts_map]
  rfl

/-- The result of a flush reflects what came of the parcels. -/
theorem Packed.flush_reflects (h : q.Packed) :
    (q.flush p s).1.Reflects ((q.handovers p s).map (Attempt.map q.shipment)) := by
  have htopics : ∀ xs ∈ q.takeAll.1, (xs.map (·.delivery.topic)).Nodup := by
    rw [h.takeAll_shipments]
    intro xs hxs
    obtain ⟨name, -, rfl⟩ := List.mem_map.1 hxs
    rw [List.map_map]
    exact q.nodup_topics_parcelsOf name
  -- only the topics of one queue are distinct; where two queues share one, the merge adds up
  have hreflects := (publishEach_reflects p FlushResult.reflects_empty htopics s).1
  rwa [List.nil_append, h.attempts_shipments] at hreflects

/-- The publisher of a flush gets the parcels and nothing else. -/
theorem Packed.flush_logged (h : q.Packed) (log : List (Attempt Delivery)) :
    q.flush p.logged (s, log) =
      ((q.flush p s).1, (q.flush p s).2.1, (q.flush p s).2.2,
        log ++ (q.handovers p s).map (Attempt.map q.delivery)) := by
  have hlogged := publishEach_logged p q.takeAll.1 .empty s log
  rw [h.attempts_shipments, List.map_map] at hlogged
  rw [flush]
  simp only [hlogged]
  rfl

theorem isEmpty_eq (q : Queues) (name : QueueName) : q.isEmpty name = (q.queue name).isEmpty := by
  cases name <;> rfl

theorem Packed.flush_empties (h : q.Packed) :
    (q.flush p s).2.1.Packed ∧ ∀ name,
      (q.flush p s).2.1.waiting name = [] ∧ (q.flush p s).2.1.isEmpty name = true := by
  have hring : ∀ name, ((q.flush p s).2.1.queue name).items = (q.queue name).items.drain.2 :=
    fun name => congrArg TopicQueue.items (q.queue_takeAll name)
  have hpacked : (q.flush p s).2.1.Packed := fun name => by
    rw [hring]
    exact (h name).drain_spec.2.2
  have hnothing : ∀ name, (q.flush p s).2.1.waiting name = [] := fun name => by
    rw [waiting, TopicQueue.contents, hring]
    exact (h name).drain_spec.2.1
  refine ⟨hpacked, fun name => ⟨hnothing name, ?_⟩⟩
  have hlength := (hpacked name).length_toList
  rw [isEmpty_eq, TopicQueue.isEmpty, Ring.isEmpty, ← hlength]
  exact decide_eq_true (congrArg List.length (hnothing name))

/-- What a flush does with the records that wait in the queues. -/
structure HandsOver (q : Queues) : Prop where
  /-- The publisher is called for the parcels, once for each, and for nothing else. -/
  calls : q.flush p.logged (s, []) =
    ((q.flush p s).1, (q.flush p s).2.1, (q.flush p s).2.2,
      (q.handovers p s).map (Attempt.map q.delivery))
  /-- A queue has one parcel for each topic on which it has records. -/
  oncePerTopic : ∀ name,
    (((q.handovers p s).filter (·.offered.queue = name)).map (·.offered.topic)).Nodup
  topics : ∀ name topic,
    topic ∈ ((q.handovers p s).filter (·.offered.queue = name)).map (·.offered.topic) ↔
      ∃ item ∈ q.waiting name, item.topic = topic
  nonempty : ∀ a ∈ q.handovers p s, 0 < a.offered.size
  empties : ∀ name,
    (q.flush p s).2.1.waiting name = [] ∧ (q.flush p s).2.1.isEmpty name = true
  /-- The result counts the records of the parcels that arrived. -/
  delivered : (q.flush p s).1.delivered =
    (((q.handovers p s).filter (·.succeeded)).map (·.offered.size)).sum
  succeeded : ∀ topic, topic ∈ (q.flush p s).1.succeeded.keys ↔
    ∃ a ∈ q.handovers p s, a.offered.topic = topic ∧ a.succeeded = true
  failed : ∀ topic, topic ∈ (q.flush p s).1.failed.keys ↔
    ∃ a ∈ q.handovers p s, a.offered.topic = topic ∧ a.failed = true
  publishes : q.Separate → (q.flush p s).1.publishes = (q.handovers p s).length

theorem topics_handovers (q : Queues) (name : QueueName) :
    ((q.handovers p s).filter (·.offered.queue = name)).map (·.offered.topic) =
      (q.parcelsOf name).map Parcel.topic := by
  rw [← filter_parcels, ← offered_handovers p s, List.filter_map, List.map_map]
  rfl

theorem mem_topics_filter {as : List (Attempt Parcel)} {test : Attempt Parcel → Bool}
    {topic : String} :
    topic ∈ (as.filter test).map (·.offered.topic) ↔
      ∃ a ∈ as, a.offered.topic = topic ∧ test a = true := by
  simp only [List.mem_map, List.mem_filter]
  constructor
  · rintro ⟨a, ⟨ha, htest⟩, htopic⟩
    exact ⟨a, ha, htopic, htest⟩
  · rintro ⟨a, ha, htopic, htest⟩
    exact ⟨a, ⟨ha, htest⟩, htopic⟩

theorem Packed.handsOver (h : q.Packed) : q.HandsOver p s where
  calls := h.flush_logged p s []
  oncePerTopic name := by
    rw [topics_handovers]
    exact q.nodup_topics_parcelsOf name
  topics name topic := by
    rw [topics_handovers, mem_topics_parcelsOf]
  nonempty a ha := by
    have hparcel : a.offered ∈ q.parcels := by
      rw [← offered_handovers p s]
      exact List.mem_map_of_mem ha
    obtain ⟨name, -, hx⟩ := List.mem_flatMap.1 hparcel
    obtain ⟨b, hb, hbatch⟩ := List.mem_map.1 hx
    rw [← hbatch]
    exact List.length_pos_iff.2 (TopicBatch.records_ne_nil hb)
  empties := (h.flush_empties p s).2
  delivered := by
    have hdelivered := (h.flush_reflects p s).delivered
    rw [hdelivered, List.filter_map, List.map_map]
    rfl
  succeeded topic := by
    rw [(h.flush_reflects p s).succeeded, List.filter_map, List.map_map]
    exact mem_topics_filter
  failed topic := by
    rw [(h.flush_reflects p s).failed, List.filter_map, List.map_map]
    exact mem_topics_filter
  publishes hseparate := by
    have htopics : (((q.handovers p s).map (Attempt.map q.shipment)).map
        FlushResult.topicOf).Nodup := by
      have hparcels := hseparate.nodup_topics
      rw [← offered_handovers p s, List.map_map] at hparcels
      rwa [List.map_map]
    rw [(h.flush_reflects p s).publishes_eq htopics, List.length_map]

/-- Where two queues use one topic, two parcels are one topic of the result. -/
example :
    let settings : QueueSettings := { eventTopic := "t" }
    let m : Message := { sensorId := "s1", stamp := default, content := .control "on" .device }
    let q := ((empty settings).addPublication "t" m).addEvent ⟨"s1", "a1", .control, []⟩
    (q.handovers logPublisher ()).length = 2 ∧ (q.flush logPublisher ()).1.publishes = 1 := by
  decide +kernel

end Queues

end SensorRouter
