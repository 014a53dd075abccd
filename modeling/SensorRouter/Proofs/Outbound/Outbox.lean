import SensorRouter.Proofs.Outbound.Handover

/-!
Runs of the outbound queues: records are added and flushes happen in any order. Over a whole run,
what a queue handed over on a topic and what still waits there is what was added, in the same order.
-/

namespace SensorRouter

/-- Something to add to the outbound queues. -/
inductive Enqueue where
  | trigger (m : Message)
  | storage (m : Message)
  | live (target : String) (m : Message)
  | publication (topic : String) (m : Message)
  | event (e : NetworkEvent)

/-- The records that it makes for a queue, with their topics. -/
def Enqueue.records (settings : QueueSettings) (e : Enqueue) :
    (name : QueueName) → List (Outbound name.Record)
  | .trigger =>
    match e with
    | .trigger m => if m.isControl then [] else [⟨settings.triggerTopic m.kind, m⟩]
    | _ => []
  | .storage =>
    match e with
    | .storage m => (settings.storageTopic? m.kind).toList.map fun topic => ⟨topic, m⟩
    | _ => []
  | .live =>
    match e with
    | .live target m => [⟨settings.liveTopic m.kind target, m⟩]
    | _ => []
  | .publication =>
    match e with
    | .publication topic m => [⟨topic, m⟩]
    | _ => []
  | .events =>
    match e with
    | .event e => [⟨settings.eventTopic, e⟩]
    | _ => []

/-! ### Adding records -/

namespace TopicQueue

variable {α : Type}

/-- Adds records at the back, in order. -/
def pushAll (q : TopicQueue α) (items : List (Outbound α)) : TopicQueue α :=
  items.foldl (fun q item => q.push item.topic item.record) q

theorem contents_pushAll (q : TopicQueue α) (items : List (Outbound α)) :
    (q.pushAll items).contents = q.contents ++ items := by
  induction items generalizing q with
  | nil => exact (List.append_nil _).symm
  | cons item rest ih =>
    have hrest := ih (q.push item.topic item.record)
    rw [contents_push, List.append_assoc] at hrest
    exact hrest

theorem packed_pushAll {q : TopicQueue α} (h : q.items.Packed) (items : List (Outbound α)) :
    (q.pushAll items).items.Packed := by
  induction items generalizing q with
  | nil => exact h
  | cons item rest ih => exact ih (q := q.push item.topic item.record) (h.pushBack item)

end TopicQueue

namespace Queues

variable {q : Queues}

def enqueue (q : Queues) : Enqueue → Queues
  | .trigger m => q.addTrigger m
  | .storage m => q.addStorage m
  | .live target m => q.addLive target m
  | .publication topic m => q.addPublication topic m
  | .event e => q.addEvent e

theorem queue_enqueue (q : Queues) (e : Enqueue) (name : QueueName) :
    (q.enqueue e).queue name = (q.queue name).pushAll (e.records q.settings name) := by
  cases e with
  | trigger m =>
    by_cases hcontrol : m.isControl = true <;> cases name <;>
      simp [enqueue, addTrigger, Enqueue.records, queue, TopicQueue.pushAll, hcontrol]
  | storage m =>
    cases htopic : q.settings.storageTopic? m.kind <;> cases name <;>
      simp [enqueue, addStorage, Enqueue.records, queue, TopicQueue.pushAll, htopic]
  | live | publication | event => cases name <;> rfl

theorem waiting_enqueue (q : Queues) (e : Enqueue) (name : QueueName) :
    (q.enqueue e).waiting name = q.waiting name ++ e.records q.settings name := by
  rw [waiting, queue_enqueue, TopicQueue.contents_pushAll, waiting]

theorem settings_enqueue (q : Queues) (e : Enqueue) : (q.enqueue e).settings = q.settings := by
  cases e with
  | trigger m =>
    rw [enqueue, addTrigger]
    split <;> rfl
  | storage m =>
    rw [enqueue, addStorage]
    split <;> rfl
  | live | publication | event => rfl

theorem Packed.enqueue (h : q.Packed) (e : Enqueue) : (q.enqueue e).Packed := by
  intro name
  rw [queue_enqueue]
  exact TopicQueue.packed_pushAll (h name) _

theorem packed_empty (settings : QueueSettings) : (empty settings).Packed := by
  intro name
  cases name <;> exact Ring.packed_empty

end Queues

/-! ### Runs -/

/-- What happens to the outbound queues. -/
inductive OutboundEvent where
  | enqueue (e : Enqueue)
  | flush

/-- The records that an event makes for a queue. -/
def OutboundEvent.records (settings : QueueSettings) (name : QueueName) :
    OutboundEvent → List (Outbound name.Record)
  | .enqueue e => e.records settings name
  | .flush => []

/-- The outbound queues with the state of the publisher that they are flushed to. -/
structure Outbox (σ : Type) where
  queues : Queues
  publisher : σ

namespace Outbox

variable {σ : Type} (p : Publisher σ) (x : Outbox σ)

def step : OutboundEvent → Outbox σ
  | .enqueue e => { x with queues := x.queues.enqueue e }
  | .flush =>
    let (_, queues, publisher) := x.queues.flush p x.publisher
    { queues, publisher }

def run (events : List OutboundEvent) : Outbox σ :=
  events.foldl (step p) x

/-- The flushes that an event is, as what was there when they began. -/
def flushOf : OutboundEvent → List (Outbox σ)
  | .enqueue _ => []
  | .flush => [x]

/-- The flushes of a run. -/
def flushes : Outbox σ → List OutboundEvent → List (Outbox σ)
  | _, [] => []
  | x, event :: rest => x.flushOf event ++ flushes (x.step p event) rest

/-- The records that a queue hands over on a topic in a flush. -/
def handedOver (name : QueueName) (topic : String) : List name.Record :=
  (x.queues.handovers p x.publisher).flatMap fun a => a.offered.recordsOn name topic

/-- The records that wait in a queue on a topic. -/
def waitingOn (name : QueueName) (topic : String) : List name.Record :=
  (TopicBatch.ofTopic (x.queues.waiting name) topic).records

variable {x}

theorem run_cons (event : OutboundEvent) (rest : List OutboundEvent) :
    x.run p (event :: rest) = (x.step p event).run p rest := rfl

theorem flushes_cons (event : OutboundEvent) (rest : List OutboundEvent) :
    x.flushes p (event :: rest) = x.flushOf event ++ (x.step p event).flushes p rest := rfl

/-! ### One event -/

theorem step_packed (h : x.queues.Packed) (event : OutboundEvent) :
    (x.step p event).queues.Packed := by
  cases event with
  | enqueue e => exact h.enqueue e
  | flush => exact (h.flush_empties p x.publisher).1

theorem settings_step (event : OutboundEvent) :
    (x.step p event).queues.settings = x.queues.settings := by
  cases event with
  | enqueue e => exact x.queues.settings_enqueue e
  | flush => rfl

/-- What an event hands over and what waits after it is what waited before, and what it adds. -/
theorem step_conserves (h : x.queues.Packed) (event : OutboundEvent) (name : QueueName)
    (topic : String) :
    ((x.flushOf event).flatMap fun y => y.handedOver p name topic) ++
        (x.step p event).waitingOn name topic =
      x.waitingOn name topic ++
        (TopicBatch.ofTopic (event.records x.queues.settings name) topic).records := by
  cases event with
  | enqueue e =>
    have hwaiting := x.queues.waiting_enqueue e name
    rw [flushOf, List.flatMap_nil, List.nil_append, waitingOn, step, hwaiting]
    exact TopicBatch.records_ofTopic_append _ _ topic
  | flush =>
    have hnothing := ((h.flush_empties p x.publisher).2 name).1
    have hafter : (x.step p .flush).waitingOn name topic = [] := by
      rw [waitingOn, step]
      simp only [hnothing]
      rfl
    rw [hafter, flushOf, List.flatMap_singleton, handedOver, Queues.recordsOn_handovers]
    rfl

/-! ### Whole runs -/

theorem run_conserves (h : x.queues.Packed) (events : List OutboundEvent) (name : QueueName)
    (topic : String) :
    ((x.flushes p events).flatMap fun y => y.handedOver p name topic) ++
        (x.run p events).waitingOn name topic =
      x.waitingOn name topic ++
        (TopicBatch.ofTopic (events.flatMap (·.records x.queues.settings name)) topic).records := by
  induction events generalizing x with
  | nil => exact (List.append_nil _).symm
  | cons event rest ih =>
    have hstep := step_conserves p h event name topic
    have hrest := ih (step_packed p h event)
    rw [settings_step] at hrest
    rw [flushes_cons, run_cons, List.flatMap_append, List.append_assoc, hrest, ← List.append_assoc,
      hstep, List.append_assoc, List.flatMap_cons, TopicBatch.records_ofTopic_append]

theorem flushes_hand_over (h : x.queues.Packed) (events : List OutboundEvent) :
    ∀ y ∈ x.flushes p events, y.queues.HandsOver p y.publisher := by
  induction events generalizing x with
  | nil => exact fun y hy => nomatch hy
  | cons event rest ih =>
    intro y hy
    rw [flushes_cons] at hy
    rcases List.mem_append.1 hy with hnow | hlater
    · cases event with
      | enqueue e => exact nomatch hnow
      | flush =>
        rw [List.mem_singleton.1 hnow]
        exact h.handsOver p x.publisher
    · exact ih (step_packed p h event) y hlater

/-- From empty queues on, each flush hands over what waits, one parcel for each queue and topic, and
its result reflects what came of that. Over the whole run, what a queue handed over on a topic, also
in parcels that did not arrive, and what still waits there, is what was added, in order and each
record once. -/
theorem run_hands_over (settings : QueueSettings) (p : Publisher σ) (s : σ)
    (events : List OutboundEvent) :
    let start : Outbox σ := ⟨.empty settings, s⟩
    (∀ x ∈ start.flushes p events, x.queues.HandsOver p x.publisher) ∧
      ∀ name topic,
        ((start.flushes p events).flatMap fun x => x.handedOver p name topic) ++
            (start.run p events).waitingOn name topic =
          (TopicBatch.ofTopic (events.flatMap (·.records settings name)) topic).records := by
  intro start
  have hpacked : start.queues.Packed := Queues.packed_empty settings
  refine ⟨flushes_hand_over p hpacked events, fun name topic => ?_⟩
  have hnothing : start.waitingOn name topic = [] := by cases name <;> rfl
  rw [run_conserves p hpacked, hnothing, List.nil_append]
  rfl

end Outbox

end SensorRouter
