import SensorRouter.Outbound.Batch
import SensorRouter.Outbound.Publisher
import SensorRouter.Ring

/-!
Queues of records for topics. A flush empties a queue and publishes one batch for each topic in it; a
batch whose publish fails is gone.
-/

namespace SensorRouter

open Json (Value)

/-- A record that waits to be published on a topic. -/
structure Outbound (α : Type) where
  topic : String
  record : α

/-- The records of one topic, in order. -/
structure TopicBatch (α : Type) where
  topic : String
  records : List α

/-- Records as they are grouped: a group for each topic, and where that of a topic is. -/
structure Grouping (α : Type) where
  index : Dict Nat := ∅
  groups : Array (String × Array α) := #[]

namespace Grouping

variable {α : Type}

/-- Appends a record to the group of its topic, or begins one if the topic has none yet. -/
def add (g : Grouping α) (item : Outbound α) : Grouping α :=
  match g.index.get? item.topic with
  | some slot =>
    { g with groups := g.groups.modify slot fun (topic, records) =>
        (topic, records.push item.record) }
  | none => {
      index := g.index.insert item.topic g.groups.size
      groups := g.groups.push (item.topic, #[item.record]) }

/-- The groups as batches. -/
def batches (g : Grouping α) : List (TopicBatch α) :=
  g.groups.toList.map fun (topic, records) => ⟨topic, records.toList⟩

end Grouping

/-- One batch for each topic, in the order in which the topics first occur. -/
def TopicBatch.group {α : Type} (items : List (Outbound α)) : List (TopicBatch α) :=
  (items.foldl Grouping.add {}).batches

/-- What a flush came to: how many records each topic took, and why others failed. -/
structure FlushResult where
  succeeded : Dict Nat := ∅
  failed : Dict String := ∅
  deriving DecidableEq, Inhabited

namespace FlushResult

def empty : FlushResult := {}

/-- Counts of one topic are added up; of two failures the later stays. -/
def merge (a b : FlushResult) : FlushResult where
  succeeded := b.succeeded.toList.foldl
    (fun d e => d.insert e.1 ((d.get? e.1).getD 0 + e.2)) a.succeeded
  failed := b.failed.toList.foldl (fun d e => d.insert e.1 e.2) a.failed

/-- The number of records delivered. -/
def delivered (r : FlushResult) : Nat :=
  r.succeeded.values.foldr (· + ·) 0

/-- The number of topics with an outcome. -/
def publishes (r : FlushResult) : Nat :=
  r.succeeded.size + r.failed.size

/-- Notes the outcome of the batch of a topic. -/
def note (r : FlushResult) (topic : String) (count : Nat) :
    Except PublishError Unit → FlushResult
  | .ok () => { r with succeeded := r.succeeded.insert topic count }
  | .error e => { r with failed := r.failed.insert topic e.message }

def toValue (r : FlushResult) : Value :=
  .object [
    ("succeeded", .ofDict (r.succeeded.map .nat)),
    ("failed", .ofDict (r.failed.map .string)),
    ("delivered", .nat r.delivered),
    ("publishes", .nat r.publishes)]

end FlushResult

/-- A batch ready to be published, and how many records it holds. -/
structure Shipment where
  delivery : Delivery
  count : Nat

namespace Shipment

variable {σ : Type}

/-- Publishes shipments in order. -/
def publishAll (p : Publisher σ) : List Shipment → FlushResult → σ → FlushResult × σ
  | [], r, s => (r, s)
  | shipment :: rest, r, s =>
    let (outcome, s) := p.publish shipment.delivery s
    publishAll p rest (r.note shipment.delivery.topic shipment.count outcome) s

end Shipment

structure TopicQueue (α : Type) where
  items : Ring (Outbound α) := .empty
  /-- Whether the publisher is asked to retain the batches. -/
  retain : Bool := false

namespace TopicQueue

variable {α σ : Type}

def push (q : TopicQueue α) (topic : String) (record : α) : TopicQueue α :=
  { q with items := q.items.pushBack ⟨topic, record⟩ }

def length (q : TopicQueue α) : Nat :=
  q.items.length

def isEmpty (q : TopicQueue α) : Bool :=
  q.items.isEmpty

/-- The number of records whose topic passes the test. -/
def countWhere (q : TopicQueue α) (test : String → Bool) : Nat :=
  q.items.countWhere fun item => test item.topic

/-- Empties the queue into shipments, one for each topic. -/
def takeShipments (q : TopicQueue α) (toValue : α → Value) : List Shipment × TopicQueue α :=
  let (items, ring) := q.items.drain
  let shipments := (TopicBatch.group items).map fun b => {
    delivery := ⟨b.topic, Batch.encode (b.records.map toValue), q.retain⟩
    count := b.records.length }
  (shipments, { q with items := ring })

/-- Empties the queue and publishes what was in it. -/
def flush (q : TopicQueue α) (toValue : α → Value) (p : Publisher σ) (s : σ) :
    FlushResult × TopicQueue α × σ :=
  let (shipments, q) := q.takeShipments toValue
  let (result, s) := Shipment.publishAll p shipments .empty s
  (result, q, s)

end TopicQueue

end SensorRouter
