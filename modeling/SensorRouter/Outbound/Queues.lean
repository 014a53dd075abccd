import SensorRouter.NetworkEvent
import SensorRouter.Outbound.TopicQueue
import SensorRouter.Outbound.Topics

/-!
The five outbound queues: messages for trigger evaluation, storage, live data consumers and public
topics, and network events.
-/

namespace SensorRouter

open Json (Value)

inductive QueueName where
  | trigger
  | storage
  | live
  | publication
  | events
  deriving DecidableEq, Repr

namespace QueueName

def text : QueueName → String
  | trigger => "trigger"
  | storage => "storage"
  | live => "live_data"
  | publication => "public"
  | events => "network_event"

/-- All queues, in the order in which a flush takes them. -/
def all : List QueueName :=
  [trigger, storage, live, publication, events]

def ofText? (s : String) : Option QueueName :=
  all.find? fun q => q.text = s

end QueueName

/-- Numbers of waiting messages and records. -/
structure QueueDepths where
  input : Nat := 0
  trigger : Nat := 0
  storage : Nat := 0
  live : Nat := 0
  publication : Nat := 0
  events : Nat := 0
  deriving DecidableEq, Repr, Inhabited

def QueueDepths.toValue (d : QueueDepths) : Value :=
  .object [("input", .nat d.input), ("trigger", .nat d.trigger), ("storage", .nat d.storage),
    ("live_data", .nat d.live), ("public", .nat d.publication), ("network_events", .nat d.events)]

structure Queues where
  settings : QueueSettings
  trigger : TopicQueue Message := {}
  storage : TopicQueue Message := {}
  live : TopicQueue Message := {}
  publication : TopicQueue Message := {}
  events : TopicQueue NetworkEvent := {}

namespace Queues

variable {σ : Type}

def empty (settings : QueueSettings) : Queues where
  settings

/-- Adds a message for trigger evaluation, unless it is a control message. -/
def addTrigger (q : Queues) (m : Message) : Queues :=
  if m.isControl then q
  else { q with trigger := q.trigger.push (q.settings.triggerTopic m.kind) m }

/-- Adds a message for storage, unless it is a control message. -/
def addStorage (q : Queues) (m : Message) : Queues :=
  match q.settings.storageTopic? m.kind with
  | some topic => { q with storage := q.storage.push topic m }
  | none => q

/-- Adds a message for a live data target. -/
def addLive (q : Queues) (target : String) (m : Message) : Queues :=
  { q with live := q.live.push (q.settings.liveTopic m.kind target) m }

def addPublication (q : Queues) (topic : String) (m : Message) : Queues :=
  { q with publication := q.publication.push topic m }

def addEvent (q : Queues) (e : NetworkEvent) : Queues :=
  { q with events := q.events.push q.settings.eventTopic e }

/-- The number of messages that wait on a topic of a live data target. -/
def lengthForTarget (q : Queues) (target : String) : Nat :=
  let topics := MessageKind.all.map fun k => q.settings.liveTopic k target
  q.live.countWhere fun topic => topics.any (· == topic)

/-- The depths, with that of the input queue given. -/
def depths (q : Queues) (input : Nat) : QueueDepths where
  input
  trigger := q.trigger.length
  storage := q.storage.length
  live := q.live.length
  publication := q.publication.length
  events := q.events.length

def isEmpty (q : Queues) : QueueName → Bool
  | .trigger => q.trigger.isEmpty
  | .storage => q.storage.isEmpty
  | .live => q.live.isEmpty
  | .publication => q.publication.isEmpty
  | .events => q.events.isEmpty

/-- Empties one queue into shipments. -/
def takeShipments (q : Queues) : QueueName → List Shipment × Queues
  | .trigger =>
    let (shipments, trigger) := q.trigger.takeShipments Message.toValue
    (shipments, { q with trigger })
  | .storage =>
    let (shipments, storage) := q.storage.takeShipments Message.toValue
    (shipments, { q with storage })
  | .live =>
    let (shipments, live) := q.live.takeShipments Message.toValue
    (shipments, { q with live })
  | .publication =>
    let (shipments, publication) := q.publication.takeShipments Message.toValue
    (shipments, { q with publication })
  | .events =>
    let (shipments, events) := q.events.takeShipments NetworkEvent.toValue
    (shipments, { q with events })

/-- Empties queues in order; the shipments of each are kept apart. -/
def takeEach (q : Queues) : List QueueName → List (List Shipment) × Queues
  | [] => ([], q)
  | name :: rest =>
    let (shipments, q) := q.takeShipments name
    let (more, q) := takeEach q rest
    (shipments :: more, q)

/-- Empties all queues. -/
def takeAll (q : Queues) : List (List Shipment) × Queues :=
  q.takeEach QueueName.all

/-- Publishes the shipments of queues in order and merges what each came to. -/
def publishEach (p : Publisher σ) : List (List Shipment) → FlushResult → σ → FlushResult × σ
  | [], r, s => (r, s)
  | shipments :: rest, r, s =>
    let (result, s) := Shipment.publishAll p shipments .empty s
    publishEach p rest (r.merge result) s

/-- Empties all queues and publishes what was in them. -/
def flush (q : Queues) (p : Publisher σ) (s : σ) : FlushResult × Queues × σ :=
  let (shipments, q) := q.takeAll
  let (result, s) := publishEach p shipments .empty s
  (result, q, s)

/-- Empties one queue and publishes what was in it. -/
def flushOne (q : Queues) (name : QueueName) (p : Publisher σ) (s : σ) :
    FlushResult × Queues × σ :=
  let (shipments, q) := q.takeShipments name
  let (result, s) := Shipment.publishAll p shipments .empty s
  (result, q, s)

end Queues

end SensorRouter
