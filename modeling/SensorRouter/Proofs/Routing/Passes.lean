import SensorRouter.Proofs.Outbound.Handover
import SensorRouter.Proofs.Ring.Window
import SensorRouter.Proofs.Routing.Isolation

/-!
Passes over the input queue. A pass decides about the messages at the front of the queue one after
another, and so nothing but their order matters: over a run every message that was submitted is decided
about once, in its turn, or still waits, and how the messages are cut into passes makes no difference to
what becomes of them.
-/

namespace SensorRouter

abbrev Decision := Except Rejection (List EventAction)

/-- A message whose turn it is, and the times that are read then. -/
structure Turn where
  now : Nat
  present : Instant
  message : Message

/-! ### Counting decisions -/

/-- The outcome that some decisions come to. -/
def PassOutcome.ofDecisions (decisions : List (Message × Decision)) : PassOutcome where
  routed := decisions.countP fun d => d.2.isOk
  rejected := decisions.countP fun d => !d.2.isOk

/-- The rejections of both kinds. -/
def RoutingStats.rejected (s : RoutingStats) : Nat :=
  s.invalid + s.unauthorized

theorem PassOutcome.note_eq (o : PassOutcome) (d : Decision) :
    o.note d = ⟨o.routed + if d.isOk then 1 else 0, o.rejected + if !d.isOk then 1 else 0⟩ := by
  cases d <;> rfl

theorem RoutingStats.noteDecision_counts (s : RoutingStats) (d : Decision) :
    (s.noteDecision d).routed = s.routed + (if d.isOk then 1 else 0) ∧
      (s.noteDecision d).rejected = s.rejected + if !d.isOk then 1 else 0 := by
  unfold RoutingStats.rejected
  rcases d with (e | e) | actions
  · exact ⟨rfl, Nat.add_right_comm ..⟩
  · exact ⟨rfl, rfl⟩
  · exact ⟨rfl, rfl⟩

namespace Router

/-! ### Messages one after another -/

/-- Decides about messages in their turn, and lists what was decided about each. -/
def decideEach (r : Router) : List Turn → List (Message × Decision) × Router
  | [] => ([], r)
  | t :: rest =>
    let routed := r.route t.now t.present t.message
    let later := routed.2.decideEach rest
    ((t.message, routed.1) :: later.1, later.2)

theorem decideEach_append (r : Router) (turns later : List Turn) :
    r.decideEach (turns ++ later) =
      ((r.decideEach turns).1 ++ ((r.decideEach turns).2.decideEach later).1,
        ((r.decideEach turns).2.decideEach later).2) := by
  induction turns generalizing r with
  | nil => rfl
  | cons t rest ih =>
    rw [List.cons_append, decideEach, ih]
    rfl

theorem messages_decideEach (r : Router) (turns : List Turn) :
    (r.decideEach turns).1.map Prod.fst = turns.map Turn.message := by
  induction turns generalizing r with
  | nil => rfl
  | cons t rest ih =>
    rw [decideEach, List.map_cons, List.map_cons, ih]

/-- The input queue has no part in the decisions. -/
theorem decideEach_withInput (r : Router) (input : Ring Message) (turns : List Turn) :
    decideEach { r with input } turns =
      ((r.decideEach turns).1, { (r.decideEach turns).2 with input }) := by
  induction turns generalizing r with
  | nil => rfl
  | cons t rest ih =>
    have hroute : ({ r with input } : Router).route t.now t.present t.message =
        ((r.route t.now t.present t.message).1,
          { (r.route t.now t.present t.message).2 with input }) := rfl
    rw [decideEach, decideEach, hroute]
    simp only
    rw [ih]

theorem routeEach_eq (now : Nat) (present : Instant) (batch : List Message) (o : PassOutcome)
    (r : Router) :
    let decided := r.decideEach (batch.map (Turn.mk now present))
    routeEach now present batch o r =
      (⟨o.routed + (PassOutcome.ofDecisions decided.1).routed,
        o.rejected + (PassOutcome.ofDecisions decided.1).rejected⟩, decided.2) := by
  induction batch generalizing o r with
  | nil => rfl
  | cons m rest ih =>
    intro decided
    have hlater := ih (o.note (r.route now present m).1) (r.route now present m).2
    rw [routeEach]
    refine hlater.trans ?_
    simp only [decided, PassOutcome.note_eq, PassOutcome.ofDecisions, List.map_cons, decideEach,
      List.countP_cons]
    congr 2 <;> omega

/-- The statistics count what was decided. -/
theorem stats_decideEach (r : Router) (turns : List Turn) :
    let outcome := PassOutcome.ofDecisions (r.decideEach turns).1
    (r.decideEach turns).2.stats.routed = r.stats.routed + outcome.routed ∧
      (r.decideEach turns).2.stats.rejected = r.stats.rejected + outcome.rejected := by
  induction turns generalizing r with
  | nil => exact ⟨rfl, rfl⟩
  | cons t rest ih =>
    let routed := r.route t.now t.present t.message
    obtain ⟨hrouted, hrejected⟩ := ih routed.2
    obtain ⟨hone, hother⟩ :=
      (r.stats.noteLatency t.message t.present).noteDecision_counts routed.1
    change routed.2.stats.routed = r.stats.routed + _ at hone
    change routed.2.stats.rejected = r.stats.rejected + _ at hother
    rw [hone] at hrouted
    rw [hother] at hrejected
    simp only [decideEach, PassOutcome.ofDecisions, List.countP_cons]
    constructor
    · refine hrouted.trans ?_
      rw [Nat.add_assoc, Nat.add_comm (ite _ _ _)]
      rfl
    · refine hrejected.trans ?_
      rw [Nat.add_assoc, Nat.add_comm (ite _ _ _)]
      rfl

/-! ### One pass -/

/-- The turns of the messages that a pass takes. -/
def turns (r : Router) (now : Nat) (present : Instant) : List Turn :=
  (r.input.take r.batchSize).1.map (Turn.mk now present)

theorem messages_turns {r : Router} (h : r.input.Packed) (now : Nat) (present : Instant) :
    (r.turns now present).map Turn.message = r.input.toList.take r.batchSize := by
  rw [turns, List.map_map, (h.take_spec r.batchSize).1]
  exact List.map_id _

/-- A pass takes messages off the queue and decides about one after another. -/
theorem routeBatch_eq (r : Router) (now : Nat) (present : Instant) :
    let decided := r.decideEach (r.turns now present)
    r.routeBatch now present =
      (.ofDecisions decided.1, { decided.2 with input := (r.input.take r.batchSize).2 }) := by
  intro decided
  change routeEach now present (r.input.take r.batchSize).1 {} _ = _
  rw [routeEach_eq, decideEach_withInput]
  simp only [Nat.zero_add, decided, turns]

/-- The decisions of a pass are about the front of the queue, and the rest of it stays. -/
theorem input_routeBatch {r : Router} (h : r.input.Packed) (now : Nat) (present : Instant) :
    (r.routeBatch now present).2.input.toList = r.input.toList.drop r.batchSize := by
  rw [routeBatch_eq]
  exact (h.take_spec r.batchSize).2.1

theorem total_ofDecisions (decisions : List (Message × Decision)) :
    (PassOutcome.ofDecisions decisions).routed + (PassOutcome.ofDecisions decisions).rejected =
      decisions.length := by
  have hparts := decisions.length_eq_countP_add_countP fun d => d.2.isOk
  simp only [Bool.not_eq_true, Bool.decide_eq_false] at hparts
  exact hparts.symm

/-- A pass decides about as many messages as the batch size allows and the queue holds. -/
theorem total_routeBatch {r : Router} (h : r.input.Packed) (now : Nat) (present : Instant) :
    (r.routeBatch now present).1.routed + (r.routeBatch now present).1.rejected =
      min r.batchSize r.input.length := by
  have hlength : (r.decideEach (r.turns now present)).1.length = min r.batchSize r.input.length := by
    rw [← List.length_map Prod.fst, messages_decideEach, messages_turns h, List.length_take,
      h.length_toList]
  rw [routeBatch_eq, total_ofDecisions, hlength]

/-! ### Runs -/

end Router

/-- Operations on a router. A flush comes with a publisher and the state that it starts in. -/
inductive RouterOperation (σ : Type) where
  | submit (m : Message)
  | submitAll (messages : List Message)
  | pass (now : Nat) (present : Instant)
  | flush (publisher : Publisher σ) (s : σ)
  | update (directory : Directory)

variable {σ : Type}

/-- The messages that an operation puts into the input queue. -/
def RouterOperation.submitted : RouterOperation σ → List Message
  | .submit m => [m]
  | .submitAll messages => messages
  | .pass _ _ | .flush _ _ | .update _ => []

namespace Router

def step (r : Router) : RouterOperation σ → Router
  | .submit m => r.submit m
  | .submitAll messages => r.submitAll messages
  | .pass now present => (r.routeBatch now present).2
  | .flush publisher s => (r.flush publisher s).2.1
  | .update directory => r.withDirectory directory

/-- The router after operations in order. -/
def run (r : Router) (ops : List (RouterOperation σ)) : Router :=
  ops.foldl step r

/-- What an operation decides about the messages that it takes. -/
def decisions (r : Router) : RouterOperation σ → List (Message × Decision)
  | .pass now present => (r.decideEach (r.turns now present)).1
  | .submit _ | .submitAll _ | .flush _ _ | .update _ => []

/-- All decisions of a run, in the order in which they are made. -/
def journal (r : Router) : List (RouterOperation σ) → List (Message × Decision)
  | [] => []
  | op :: rest => r.decisions op ++ (r.step op).journal rest

/-- What an operation reports; only a pass routes or rejects anything. -/
def report (r : Router) : RouterOperation σ → PassOutcome
  | .pass now present => (r.routeBatch now present).1
  | .submit _ | .submitAll _ | .flush _ _ | .update _ => {}

/-- What the operations of a run report. -/
def reports (r : Router) : List (RouterOperation σ) → List PassOutcome
  | [] => []
  | op :: rest => r.report op :: (r.step op).reports rest

/-- What a run from a router comes to: nothing that was submitted is lost, skipped, reordered or decided
about twice, and all the counts agree. -/
structure Conserves (r : Router) (ops : List (RouterOperation σ)) : Prop where
  /-- The messages decided about are those submitted first, each once and in their order. The others
  still wait. -/
  order : r.input.toList ++ ops.flatMap RouterOperation.submitted =
    (r.journal ops).map Prod.fst ++ (r.run ops).input.toList
  /-- The number of messages submitted. -/
  total : r.input.length + (ops.flatMap RouterOperation.submitted).length =
    (r.run ops).input.length + ((r.reports ops).map PassOutcome.routed).sum +
      ((r.reports ops).map PassOutcome.rejected).sum
  /-- The passes report as many acceptances as there were, and the statistics agree. -/
  routed : ((r.reports ops).map PassOutcome.routed).sum =
      (r.journal ops).countP (fun d => d.2.isOk) ∧
    (r.run ops).stats.routed = r.stats.routed + ((r.reports ops).map PassOutcome.routed).sum
  /-- Likewise of rejections. -/
  rejected : ((r.reports ops).map PassOutcome.rejected).sum =
      (r.journal ops).countP (fun d => !d.2.isOk) ∧
    (r.run ops).stats.rejected = r.stats.rejected + ((r.reports ops).map PassOutcome.rejected).sum
  /-- A pass takes as many messages as the batch size allows and the queue holds. -/
  taken : ∀ before now present after, ops = before ++ .pass now present :: after →
    let q := r.run before
    (q.decisions (.pass now present : RouterOperation σ)).map Prod.fst =
        q.input.toList.take q.batchSize ∧
      (q.routeBatch now present).1.routed + (q.routeBatch now present).1.rejected =
        min q.batchSize q.input.length

theorem tidy_step {r : Router} (h : r.input.Tidy) (op : RouterOperation σ) :
    (r.step op).input.Tidy := by
  cases op with
  | submit m => exact h.pushBack m
  | submitAll messages => exact h.append messages
  | pass now present =>
    change (r.routeBatch now present).2.input.Tidy
    rw [routeBatch_eq]
    exact h.take r.batchSize
  | flush publisher s => exact h
  | update directory => exact h

theorem tidy_run {r : Router} (h : r.input.Tidy) (ops : List (RouterOperation σ)) :
    (r.run ops).input.Tidy := by
  induction ops generalizing r with
  | nil => exact h
  | cons op rest ih => exact ih (tidy_step h op)

/-- What one operation submits goes to the back of the queue, and what it decides about has come from
the front. -/
theorem order_step {r : Router} (h : r.input.Tidy) (op : RouterOperation σ) :
    r.input.toList ++ op.submitted =
      (r.decisions op).map Prod.fst ++ (r.step op).input.toList := by
  cases op with
  | submit m => exact (Ring.toList_pushBack r.input m).symm
  | submitAll messages => exact (Ring.toList_append r.input messages).symm
  | pass now present =>
    change r.input.toList ++ [] =
      (r.decideEach (r.turns now present)).1.map Prod.fst ++ (r.routeBatch now present).2.input.toList
    rw [messages_decideEach, messages_turns h.toPacked, input_routeBatch h.toPacked,
      List.take_append_drop, List.append_nil]
  | flush publisher s => exact List.append_nil _
  | update directory => exact List.append_nil _

/-- The report of one operation, and what it adds to the statistics, count its decisions. -/
theorem counts_step (r : Router) (op : RouterOperation σ) :
    r.report op = .ofDecisions (r.decisions op) ∧
      (r.step op).stats.routed = r.stats.routed + (r.report op).routed ∧
      (r.step op).stats.rejected = r.stats.rejected + (r.report op).rejected := by
  cases op with
  | pass now present =>
    change (r.routeBatch now present).1 = .ofDecisions (r.decideEach (r.turns now present)).1 ∧
      (r.routeBatch now present).2.stats.routed = _ + (r.routeBatch now present).1.routed ∧
      (r.routeBatch now present).2.stats.rejected = _ + (r.routeBatch now present).1.rejected
    rw [routeBatch_eq]
    exact ⟨rfl, r.stats_decideEach (r.turns now present)⟩
  | submit m => exact ⟨rfl, rfl, rfl⟩
  | submitAll messages => exact ⟨rfl, rfl, rfl⟩
  | flush publisher s => exact ⟨rfl, rfl, rfl⟩
  | update directory => exact ⟨rfl, rfl, rfl⟩

theorem order_run {r : Router} (h : r.input.Tidy) (ops : List (RouterOperation σ)) :
    r.input.toList ++ ops.flatMap RouterOperation.submitted =
      (r.journal ops).map Prod.fst ++ (r.run ops).input.toList := by
  induction ops generalizing r with
  | nil => exact List.append_nil _
  | cons op rest ih =>
    have hlater := ih (tidy_step h op)
    rw [List.flatMap_cons, ← List.append_assoc, order_step h op, List.append_assoc, hlater, journal,
      List.map_append, List.append_assoc]
    rfl

theorem counts_run (r : Router) (ops : List (RouterOperation σ)) :
    ((r.reports ops).map PassOutcome.routed).sum = (r.journal ops).countP (fun d => d.2.isOk) ∧
      ((r.reports ops).map PassOutcome.rejected).sum =
        (r.journal ops).countP (fun d => !d.2.isOk) ∧
      (r.run ops).stats.routed = r.stats.routed + ((r.reports ops).map PassOutcome.routed).sum ∧
      (r.run ops).stats.rejected =
        r.stats.rejected + ((r.reports ops).map PassOutcome.rejected).sum := by
  induction ops generalizing r with
  | nil => exact ⟨rfl, rfl, rfl, rfl⟩
  | cons op rest ih =>
    obtain ⟨hreport, hrouted, hrejected⟩ := r.counts_step op
    obtain ⟨hrouteds, hrejecteds, hstats, hstats'⟩ := ih (r.step op)
    simp only [reports, journal, List.map_cons, List.sum_cons, List.countP_append]
    refine ⟨?_, ?_, ?_, ?_⟩
    · rw [hrouteds, hreport]
      rfl
    · rw [hrejecteds, hreport]
      rfl
    · refine hstats.trans ?_
      rw [hrouted, Nat.add_assoc]
    · refine hstats'.trans ?_
      rw [hrejected, Nat.add_assoc]

theorem conserves {r : Router} (h : r.input.Tidy) (ops : List (RouterOperation σ)) :
    r.Conserves ops := by
  have horder := order_run h ops
  obtain ⟨hrouted, hrejected, hstats, hstats'⟩ := r.counts_run ops
  refine ⟨horder, ?_, ⟨hrouted, hstats⟩, ⟨hrejected, hstats'⟩, ?_⟩
  · have hlength := congrArg List.length horder
    rw [List.length_append, List.length_append, h.length_toList, (tidy_run h ops).length_toList,
      List.length_map] at hlength
    have htotal := total_ofDecisions (r.journal ops)
    simp only [PassOutcome.ofDecisions] at htotal
    rw [hrouted, hrejected]
    omega
  · intro before now present after hops q
    have hq : q.input.Packed := (tidy_run h before).toPacked
    refine ⟨?_, total_routeBatch hq now present⟩
    change (q.decideEach (q.turns now present)).1.map Prod.fst = _
    rw [messages_decideEach, messages_turns hq]

end Router

/-! ### Batches of different sizes -/

/-- The same numbers have been counted; how long the messages took is another matter. -/
structure RoutingStats.SameCounts (s s' : RoutingStats) : Prop where
  routed : s'.routed = s.routed
  invalid : s'.invalid = s.invalid
  unauthorized : s'.unauthorized = s.unauthorized
  samples : s'.samples = s.samples

theorem RoutingStats.SameCounts.note {s s' : RoutingStats} (h : s.SameCounts s') (m : Message)
    (present present' : Instant) (d : Decision) :
    ((s.noteLatency m present).noteDecision d).SameCounts
      ((s'.noteLatency m present').noteDecision d) := by
  have hsamples : s'.samples + 1 = s.samples + 1 := congrArg (· + 1) h.samples
  rcases d with (e | e) | actions
  · exact ⟨h.routed, congrArg (· + 1) h.invalid, h.unauthorized, hsamples⟩
  · exact ⟨h.routed, h.invalid, congrArg (· + 1) h.unauthorized, hsamples⟩
  · exact ⟨congrArg (· + 1) h.routed, h.invalid, h.unauthorized, hsamples⟩

theorem Queues.Gains.waiting_congr {q q' q₁ q₁' : Queues} {a : Additions} (h : q.Gains q₁ a)
    (h' : q'.Gains q₁' a) (hsame : ∀ name, q'.waiting name = q.waiting name) (name : QueueName) :
    q₁'.waiting name = q₁.waiting name := by
  have hbefore := hsame name
  cases name with
  | trigger => exact h'.trigger.trans ((congrArg (· ++ a.trigger) hbefore).trans h.trigger.symm)
  | storage => exact h'.storage.trans ((congrArg (· ++ a.storage) hbefore).trans h.storage.symm)
  | live => exact h'.live.trans ((congrArg (· ++ a.live) hbefore).trans h.live.symm)
  | publication =>
    exact h'.publication.trans ((congrArg (· ++ a.publication) hbefore).trans h.publication.symm)
  | events => exact h'.events.trans ((congrArg (· ++ a.events) hbefore).trans h.events.symm)

namespace Router

/-- The same records wait in all outbound queues, and the same numbers have been counted. -/
structure SameWork (r r' : Router) : Prop where
  waiting : ∀ name, r'.state.queues.waiting name = r.state.queues.waiting name
  counts : r.stats.SameCounts r'.stats

/-- Besides, the routers differ at most in the batch size, in the input, and in what their caches note
of uses. -/
structure Matches (r r' : Router) : Prop extends r.SameWork r' where
  settings : ∃ size, r'.settings = { r.settings with batchSize := size }
  lookup : ∀ kind id, r'.state.directory.lookup kind id = r.state.directory.lookup kind id
  live : r'.state.directory.live = r.state.directory.live
  topics : r'.state.queues.settings = r.state.queues.settings

def withBatchSize (r : Router) (size : Nat) : Router :=
  { r with settings := { r.settings with batchSize := size } }

/-- Passes at given times, one after another. -/
def passes (r : Router) (times : List (Nat × Instant)) : Router :=
  times.foldl (fun r t => (r.routeBatch t.1 t.2).2) r

theorem matches_withBatchSize (r : Router) (size : Nat) : r.Matches (r.withBatchSize size) where
  waiting _ := rfl
  counts := ⟨rfl, rfl, rfl, rfl⟩
  settings := ⟨size, rfl⟩
  lookup _ _ := rfl
  live := rfl
  topics := rfl

namespace Matches

variable {r r' : Router}

theorem withInput (h : r.Matches r') (input input' : Ring Message) :
    Matches { r with input } { r' with input := input' } where
  waiting := h.waiting
  counts := h.counts
  settings := h.settings
  lookup := h.lookup
  live := h.live
  topics := h.topics

/-- Both routers decide alike about a message, at whatever times, and match still. -/
theorem route (h : r.Matches r') (m : Message) (now now' : Nat) (present present' : Instant) :
    Matches (r.route now present m).2 (r'.route now' present' m).2 := by
  let d := r.state.directory
  let d' := r'.state.directory
  have hagree : d.AgreeFor d' m := {
    sensor := h.lookup .sensor m.sensorId
    account := fun s _ => h.lookup .account s.accountId
    secret := fun s _ => h.lookup .apiKey s.secret
    presented := fun _ key _ => h.lookup .apiKey key
    targets := fun _ => congrArg (LiveIndex.targets · m.sensorId) h.live }
  obtain ⟨size, hsettings⟩ := h.settings
  let ruling := m.ruling r.settings r.state.queues.settings (d.lookup .sensor m.sensorId)
    (d.authorize now m.sensorId m.apiKey).1 (d.live.targets m.sensorId)
  -- the batch size has no part in a ruling
  have hruling : m.ruling r'.settings r'.state.queues.settings (d'.lookup .sensor m.sensorId)
      (d'.authorize now' m.sensorId m.apiKey).1 (d'.live.targets m.sensorId) = ruling := by
    rw [h.topics, hagree.ruling_eq now now', hsettings]
    rfl
  obtain ⟨hdecision, hgains⟩ := RoutingStage.route_ruling r.settings now m r.state
  obtain ⟨hdecision', hgains'⟩ := RoutingStage.route_ruling r'.settings now' m r'.state
  rw [hruling] at hdecision' hgains'
  have hused := RoutingStage.route_used r.settings now m r.state
  have hused' := RoutingStage.route_used r'.settings now' m r'.state
  have hcounts := h.counts.note m present present' ruling.1
  rw [← hdecision] at hcounts
  nth_rewrite 2 [hdecision.trans hdecision'.symm] at hcounts
  exact {
    waiting := hgains.waiting_congr hgains' h.waiting
    counts := hcounts
    settings := ⟨size, hsettings⟩
    lookup := fun kind id =>
      (hused'.lookup_eq kind id).trans ((h.lookup kind id).trans (hused.lookup_eq kind id).symm)
    live := hused'.live_eq.trans (h.live.trans hused.live_eq.symm)
    topics := hgains'.settings.trans (h.topics.trans hgains.settings.symm) }

/-- The same messages, in the same order, are all that counts. -/
theorem decideEach (h : r.Matches r') {turns turns' : List Turn}
    (hmessages : turns'.map Turn.message = turns.map Turn.message) :
    Matches (r.decideEach turns).2 (r'.decideEach turns').2 := by
  induction turns generalizing r r' turns' with
  | nil =>
    rw [List.map_nil, List.map_eq_nil_iff] at hmessages
    rw [hmessages]
    exact h
  | cons t rest ih =>
    obtain ⟨t', rest', rfl, hfirst, hlater⟩ := List.map_eq_cons_iff.1 hmessages
    have hroute := h.route t.message t.now t'.now t.present t'.present
    rw [Router.decideEach, Router.decideEach, hfirst]
    exact ih hroute hlater

end Matches

theorem packed_routeBatch {r : Router} (h : r.input.Packed) (now : Nat) (present : Instant) :
    (r.routeBatch now present).2.input.Packed := by
  rw [routeBatch_eq]
  exact (h.take_spec r.batchSize).2.2

/-- Passes come to deciding about the messages that they take one after another. -/
theorem passes_eq {r : Router} (h : r.input.Packed) (times : List (Nat × Instant)) :
    ∃ turns, turns.map Turn.message ++ (r.passes times).input.toList = r.input.toList ∧
      r.passes times = { (r.decideEach turns).2 with input := (r.passes times).input } := by
  induction times generalizing r with
  | nil => exact ⟨[], rfl, rfl⟩
  | cons t rest ih =>
    let after := (r.routeBatch t.1 t.2).2
    let first := r.turns t.1 t.2
    have hafter : after = { (r.decideEach first).2 with input := after.input } := by
      simp only [after, routeBatch_eq, first]
    obtain ⟨later, hmessages, heq⟩ := ih (packed_routeBatch h t.1 t.2)
    refine ⟨first ++ later, ?_, ?_⟩
    · change _ ++ (after.passes rest).input.toList = _
      rw [List.map_append, List.append_assoc, hmessages, input_routeBatch h, messages_turns h,
        List.take_append_drop]
    · have hlater : (after.decideEach later).2 =
          { (r.decideEach (first ++ later)).2 with input := after.input } := by
        rw [hafter, decideEach_withInput, decideEach_append]
      rw [hlater] at heq
      exact heq

/-- Every pass takes a message, if there is one. -/
theorem length_passes {r : Router} (h : r.input.Packed) (times : List (Nat × Instant)) :
    (r.passes times).input.length ≤ r.input.length - times.length := by
  induction times generalizing r with
  | nil => exact Nat.le_refl _
  | cons t rest ih =>
    have hlater := ih (packed_routeBatch h t.1 t.2)
    have htotal := r.routeBatch_total t.1 t.2
    have htaken := total_routeBatch h t.1 t.2
    have hsize : 1 ≤ r.batchSize := Nat.le_max_left 1 _
    change ((r.routeBatch t.1 t.2).2.passes rest).input.length ≤ _
    rw [List.length_cons]
    omega

/-- Matching routers with the same input have done the same work once both have no input left. -/
theorem Matches.passes {r r' : Router} (h : r.Matches r') (hr : r.input.Packed)
    (hinput : r'.input = r.input) {times times' : List (Nat × Instant)}
    (hdone : (r.passes times).input.length = 0) (hdone' : (r'.passes times').input.length = 0) :
    (r.passes times).SameWork (r'.passes times') := by
  obtain ⟨turns, hmessages, heq⟩ := passes_eq hr times
  obtain ⟨turns', hmessages', heq'⟩ := passes_eq (hinput ▸ hr) times'
  rw [Ring.toList_of_length_eq_zero hdone, List.append_nil] at hmessages
  rw [Ring.toList_of_length_eq_zero hdone', List.append_nil, hinput] at hmessages'
  have hsame := h.decideEach (hmessages'.trans hmessages.symm)
  rw [heq, heq']
  exact (hsame.withInput _ _).toSameWork

/-- Every run conserves the messages submitted, and however the messages of the input queue are cut into
batches, passes until none is left do the same work. Enough passes leave none. The input queue may be any
ring as rings are built and worked on. -/
theorem passes_conserve {r : Router} (h : r.input.Tidy) :
    (∀ (σ : Type) (ops : List (RouterOperation σ)), r.Conserves ops) ∧
      (∀ size times times', (r.passes times).input.length = 0 →
        ((r.withBatchSize size).passes times').input.length = 0 →
          (r.passes times).SameWork ((r.withBatchSize size).passes times')) ∧
      ∀ size (times : List (Nat × Instant)), r.input.length ≤ times.length →
        ((r.withBatchSize size).passes times).input.length = 0 := by
  refine ⟨fun σ ops => conserves h ops, fun size times times' hdone hdone' => ?_,
    fun size times hlong => ?_⟩
  · exact (r.matches_withBatchSize size).passes h.toPacked rfl hdone hdone'
  · have hleft := length_passes (r := r.withBatchSize size) h.toPacked times
    change _ ≤ r.input.length - times.length at hleft
    omega

/-- Three messages in passes of two, with a fourth submitted between them, and in passes of one. -/
theorem passes_conserve_small :
    let m (id : String) : Message :=
      { sensorId := id, stamp := default, content := .control "on" .device }
    let r : Router := {
      settings := { batchSize := 2 }, limits := default, state := ⟨.empty {}, .empty {}⟩
      input := .ofList [m "s1", m "s2", m "s3"] }
    let ops : List (RouterOperation Unit) := [.pass 0 default, .submit (m "s4"), .pass 1 default]
    let times : List (Nat × Instant) := [(0, default), (0, default), (0, default)]
    r.input.Tidy ∧ r.Conserves ops ∧
      (r.journal ops).map (fun d => d.1.sensorId) = ["s1", "s2", "s3", "s4"] ∧
      (r.passes times).input.length = 0 ∧
      ((r.withBatchSize 1).passes times).input.length = 0 ∧
      (r.passes times).SameWork ((r.withBatchSize 1).passes times) := by
  intro m r ops times
  have htidy : r.input.Tidy := Ring.tidy_ofList [m "s1", m "s2", m "s3"]
  have hjournal : (r.journal ops).map (fun d => d.1.sensorId) = ["s1", "s2", "s3", "s4"] := by
    decide +kernel
  have hlong : r.input.length ≤ times.length := by decide +kernel
  obtain ⟨hconserves, hsame, henough⟩ := passes_conserve htidy
  have hdone : (r.passes times).input.length = 0 := by decide +kernel
  have hdone₁ : ((r.withBatchSize 1).passes times).input.length = 0 := henough 1 times hlong
  exact ⟨htidy, hconserves Unit ops, hjournal, hdone, hdone₁, hsame 1 times times hdone hdone₁⟩

end Router

end SensorRouter
