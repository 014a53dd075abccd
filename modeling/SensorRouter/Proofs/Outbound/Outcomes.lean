import Mathlib
import SensorRouter.Outbound.Queues
import SensorRouter.Proofs.Dict

/-!
What came of the offers to a publisher. A flush result reflects a list of offers when it counts the
records of the successful ones, and names the topics of the successful and of the failed ones;
noting an offer and merging two results keep that.
-/

namespace SensorRouter

/-- Something that was offered to a publisher, and what came of it. -/
structure Attempt (β : Type) where
  offered : β
  outcome : Except PublishError Unit

namespace Attempt

variable {β γ : Type}

def map (f : β → γ) (a : Attempt β) : Attempt γ :=
  ⟨f a.offered, a.outcome⟩

def succeeded (a : Attempt β) : Bool :=
  a.outcome.isOk

def failed (a : Attempt β) : Bool :=
  !a.succeeded

@[simp]
theorem failed_ok (b : β) (u : Unit) : (mk b (.ok u)).failed = false := rfl

@[simp]
theorem succeeded_error (b : β) (e : PublishError) : (mk b (.error e)).succeeded = false := rfl

end Attempt

namespace Publisher

variable {σ β γ : Type}

/-- Offers things in order, each as the delivery that it makes. -/
def attempts (p : Publisher σ) (delivery : β → Delivery) : List β → σ → List (Attempt β) × σ
  | [], s => ([], s)
  | b :: rest, s =>
    let (outcome, s) := p.publish (delivery b) s
    let (more, s) := p.attempts delivery rest s
    (⟨b, outcome⟩ :: more, s)

variable (p : Publisher σ) (delivery : β → Delivery)

theorem offered_attempts (xs : List β) (s : σ) :
    (p.attempts delivery xs s).1.map (·.offered) = xs := by
  induction xs generalizing s with
  | nil => rfl
  | cons b rest ih => exact congrArg (b :: ·) (ih _)

theorem attempts_append (xs ys : List β) (s : σ) :
    p.attempts delivery (xs ++ ys) s =
      ((p.attempts delivery xs s).1 ++ (p.attempts delivery ys (p.attempts delivery xs s).2).1,
        (p.attempts delivery ys (p.attempts delivery xs s).2).2) := by
  induction xs generalizing s with
  | nil => rfl
  | cons b rest ih =>
    rw [List.cons_append, attempts, attempts]
    simp only [ih]
    rfl

theorem attempts_map (f : γ → β) (xs : List γ) (s : σ) :
    p.attempts delivery (xs.map f) s =
      ((p.attempts (fun c => delivery (f c)) xs s).1.map (Attempt.map f),
        (p.attempts (fun c => delivery (f c)) xs s).2) := by
  induction xs generalizing s with
  | nil => rfl
  | cons c rest ih =>
    rw [List.map_cons, attempts, attempts]
    simp only [ih]
    rfl

/-- The publisher with a log of its deliveries and their outcomes beside its state. -/
def logged (p : Publisher σ) : Publisher (σ × List (Attempt Delivery)) where
  publish d s := ((p.publish d s.1).1, (p.publish d s.1).2, s.2 ++ [⟨d, (p.publish d s.1).1⟩])
  isConnected s := p.isConnected s.1
  latency s := p.latency s.1

/-- Logging changes no outcome and not the state, and notes all that is offered. -/
theorem attempts_logged (xs : List β) (s : σ) (log : List (Attempt Delivery)) :
    p.logged.attempts delivery xs (s, log) =
      ((p.attempts delivery xs s).1, (p.attempts delivery xs s).2,
        log ++ (p.attempts delivery xs s).1.map (Attempt.map delivery)) := by
  induction xs generalizing s log with
  | nil => simp [attempts]
  | cons b rest ih =>
    rw [attempts, attempts]
    simp only [logged] at ih ⊢
    simp only [ih, List.map_cons, List.append_assoc, List.cons_append, List.nil_append]
    rfl

end Publisher

/-! ### Results -/

namespace FlushResult

theorem delivered_eq (r : FlushResult) : r.delivered = r.succeeded.values.sum := rfl

/-- Notes the outcomes of offers in order. -/
def noteAll (r : FlushResult) (as : List (Attempt Shipment)) : FlushResult :=
  as.foldl (fun r a => r.note a.offered.delivery.topic a.offered.count a.outcome) r

/-- The topic of an offer. -/
def topicOf (a : Attempt Shipment) : String :=
  a.offered.delivery.topic

/-- The result counts the records of successful offers, and has the topics of the successful and of
the failed ones. -/
structure Reflects (r : FlushResult) (as : List (Attempt Shipment)) : Prop where
  delivered : r.delivered = ((as.filter Attempt.succeeded).map (·.offered.count)).sum
  succeeded : ∀ topic, topic ∈ r.succeeded.keys ↔ topic ∈ (as.filter Attempt.succeeded).map topicOf
  failed : ∀ topic, topic ∈ r.failed.keys ↔ topic ∈ (as.filter Attempt.failed).map topicOf

theorem reflects_empty : empty.Reflects [] where
  delivered := rfl
  succeeded topic := by simp [empty]
  failed topic := by simp [empty]

variable {r r' : FlushResult} {as bs : List (Attempt Shipment)}

/-- The outcome of an offer on a new topic is noted. -/
theorem Reflects.note (h : r.Reflects as) (a : Attempt Shipment)
    (hnew : topicOf a ∉ as.map topicOf) :
    (r.note a.offered.delivery.topic a.offered.count a.outcome).Reflects (as ++ [a]) := by
  obtain ⟨shipment, e | _⟩ := a
  · constructor
    · simpa [FlushResult.note, delivered_eq] using h.delivered
    · simpa [FlushResult.note] using h.succeeded
    · intro topic
      simp only [FlushResult.note, Dict.mem_keys_insert, h.failed, List.filter_append,
        List.map_append, List.mem_append]
      exact or_comm.trans (or_congr_right List.mem_singleton.symm)
  · have hfresh : r.succeeded.get? shipment.delivery.topic = none := by
      rw [← Option.not_isSome_iff_eq_none, ← Dict.mem_keys_iff, h.succeeded]
      exact fun hmem => hnew (List.map_subset topicOf (List.filter_subset_self as) hmem)
    have hsum := Dict.sum_insert r.succeeded shipment.delivery.topic shipment.count
    rw [hfresh] at hsum
    constructor
    · rw [FlushResult.note, delivered_eq, List.filter_append, List.map_append, List.sum_append,
        ← h.delivered]
      exact hsum
    · intro topic
      simp only [FlushResult.note, Dict.mem_keys_insert, h.succeeded, List.filter_append,
        List.map_append, List.mem_append]
      exact or_comm.trans (or_congr_right List.mem_singleton.symm)
    · simpa [FlushResult.note] using h.failed

/-- Offers that are noted from nothing on, each on a topic of its own. -/
theorem reflects_noteAll (htopics : (as.map topicOf).Nodup) : (empty.noteAll as).Reflects as := by
  induction as using List.reverseRecOn with
  | nil => exact reflects_empty
  | append_singleton as a ih =>
    rw [List.map_append, List.map_singleton, List.nodup_append_comm, List.singleton_append,
      List.nodup_cons] at htopics
    rw [noteAll, List.foldl_append]
    exact (ih htopics.2).note a htopics.1

theorem Reflects.merge (h : r.Reflects as) (h' : r'.Reflects bs) :
    (r.merge r').Reflects (as ++ bs) where
  delivered := by
    have hsum : (r.merge r').delivered = r.delivered + r'.delivered :=
      Dict.sum_foldl_add r'.succeeded.toList r.succeeded
    rw [hsum, h.delivered, h'.delivered, List.filter_append, List.map_append, List.sum_append]
  succeeded topic := by
    have hkeys : topic ∈ (r.merge r').succeeded.keys ↔
        topic ∈ r.succeeded.keys ∨ topic ∈ r'.succeeded.keys :=
      Dict.mem_keys_foldl_insert _ r'.succeeded.toList r.succeeded topic
    rw [hkeys, h.succeeded, h'.succeeded, List.filter_append, List.map_append, List.mem_append]
  failed topic := by
    have hkeys : topic ∈ (r.merge r').failed.keys ↔
        topic ∈ r.failed.keys ∨ topic ∈ r'.failed.keys :=
      Dict.mem_keys_foldl_insert _ r'.failed.toList r.failed topic
    rw [hkeys, h.failed, h'.failed, List.filter_append, List.map_append, List.mem_append]

/-- A dictionary whose keys are listed by distinct topics has as many entries. -/
theorem size_eq_length {α : Type} {d : Dict α} {topics : List String} (hnodup : topics.Nodup)
    (h : ∀ topic, topic ∈ d.keys ↔ topic ∈ topics) : d.size = topics.length := by
  have hperm : d.keys.Perm topics := (List.perm_ext_iff_of_nodup d.nodup_keys hnodup).2 h
  rw [← hperm.length_eq, Dict.keys, List.length_map, Dict.size]

/-- Where no topic has two offers, each offer is a topic of the result. -/
theorem Reflects.publishes_eq (h : r.Reflects as) (htopics : (as.map topicOf).Nodup) :
    r.publishes = as.length := by
  have hsucceeded : r.succeeded.size = (as.filter Attempt.succeeded).length :=
    (size_eq_length (htopics.sublist (List.filter_sublist.map _)) h.succeeded).trans
      (List.length_map _)
  have hfailed : r.failed.size = (as.filter Attempt.failed).length :=
    (size_eq_length (htopics.sublist (List.filter_sublist.map _)) h.failed).trans
      (List.length_map _)
  rw [publishes, hsucceeded, hfailed]
  exact (List.length_eq_length_filter_add Attempt.succeeded).symm

end FlushResult

/-! ### Publishing -/

section

variable {σ : Type} (p : Publisher σ)

theorem Shipment.publishAll_eq (xs : List Shipment) (r : FlushResult) (s : σ) :
    publishAll p xs r s =
      (r.noteAll (p.attempts delivery xs s).1, (p.attempts delivery xs s).2) := by
  induction xs generalizing r s with
  | nil => rfl
  | cons x rest ih =>
    rw [publishAll, Publisher.attempts]
    simp only [ih]
    rfl

namespace Queues

theorem publishEach_cons (xs : List Shipment) (rest : List (List Shipment)) (r : FlushResult)
    (s : σ) :
    publishEach p (xs :: rest) r s =
      publishEach p rest (r.merge (FlushResult.empty.noteAll (p.attempts Shipment.delivery xs s).1))
        (p.attempts Shipment.delivery xs s).2 := by
  rw [publishEach, Shipment.publishAll_eq]

/-- Shipments of several queues are offered one after another, and the merged result reflects the
offers. -/
theorem publishEach_reflects {r : FlushResult} {as : List (Attempt Shipment)} (h : r.Reflects as)
    {xss : List (List Shipment)} (htopics : ∀ xs ∈ xss, (xs.map (·.delivery.topic)).Nodup) (s : σ) :
    (publishEach p xss r s).1.Reflects
        (as ++ (p.attempts Shipment.delivery xss.flatten s).1) ∧
      (publishEach p xss r s).2 = (p.attempts Shipment.delivery xss.flatten s).2 := by
  induction xss generalizing r as s with
  | nil =>
    rw [List.flatten_nil, Publisher.attempts, List.append_nil]
    exact ⟨h, rfl⟩
  | cons xs rest ih =>
    obtain ⟨hfirst, hrest⟩ := List.forall_mem_cons.1 htopics
    rw [publishEach_cons, List.flatten_cons, Publisher.attempts_append, ← List.append_assoc]
    refine ih (h.merge (FlushResult.reflects_noteAll ?_)) hrest _
    rwa [← p.offered_attempts Shipment.delivery xs s, List.map_map] at hfirst

theorem publishEach_logged (xss : List (List Shipment)) (r : FlushResult) (s : σ)
    (log : List (Attempt Delivery)) :
    publishEach p.logged xss r (s, log) =
      ((publishEach p xss r s).1, (publishEach p xss r s).2,
        log ++ (p.attempts Shipment.delivery xss.flatten s).1.map
          (Attempt.map Shipment.delivery)) := by
  induction xss generalizing r s log with
  | nil => simp [publishEach, Publisher.attempts]
  | cons xs rest ih =>
    rw [publishEach_cons, Publisher.attempts_logged, ih, publishEach_cons, List.flatten_cons,
      Publisher.attempts_append, List.map_append, List.append_assoc]

end Queues

end

end SensorRouter
