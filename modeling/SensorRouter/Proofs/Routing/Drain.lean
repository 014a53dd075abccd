import SensorRouter.Proofs.Outbound.Outbox
import SensorRouter.Proofs.Routing.Passes

/-!
Draining a router. Passes over the input queue are repeated until one finds no message, which takes as
many passes as the batch size calls for, and one more. Whatever is decided about a message, the stages do
nothing to the outbound queues but add records, so the buffers of all queues stay in order; and a router
without messages and records has nothing more to do.
-/

namespace SensorRouter

/-! ### Stages only add records -/

def Queues.enqueueAll (q : Queues) (es : List Enqueue) : Queues :=
  es.foldl Queues.enqueue q

theorem Queues.Packed.enqueueAll {q : Queues} (h : q.Packed) (es : List Enqueue) :
    (q.enqueueAll es).Packed := by
  induction es generalizing q with
  | nil => exact h
  | cons e rest ih => exact ih (h.enqueue e)

/-- All that has happened to outbound queues is that records were added. -/
def Queues.Grows (before after : Queues) : Prop :=
  ∃ es, after = before.enqueueAll es

namespace Queues.Grows

variable {q q' q'' : Queues}

theorem refl (q : Queues) : q.Grows q :=
  ⟨[], rfl⟩

theorem single (q : Queues) (e : Enqueue) : q.Grows (q.enqueue e) :=
  ⟨[e], rfl⟩

theorem trans (h : q.Grows q') (h' : q'.Grows q'') : q.Grows q'' := by
  obtain ⟨es, rfl⟩ := h
  obtain ⟨more, rfl⟩ := h'
  exact ⟨es ++ more, List.foldl_append.symm⟩

theorem packed (h : q.Grows q') (hq : q.Packed) : q'.Packed := by
  obtain ⟨es, rfl⟩ := h
  exact hq.enqueueAll es

end Queues.Grows

/-- Whatever the stage finds, it does not take records out of the outbound queues. -/
def Stage.OnlyAdds (stage : Stage RoutingState) : Prop :=
  ∀ (t : Transit) (s : RoutingState), s.queues.Grows (stage.run t s).2.2.queues

namespace RoutingStage

theorem validation_onlyAdds (maxDataPoints : Nat) : (validation maxDataPoints).OnlyAdds := by
  intro t s
  simp only [validation]
  split <;> exact .refl _

theorem authorization_onlyAdds (now : Nat) : (authorization now).OnlyAdds := by
  intro t s
  simp only [authorization]
  split <;> exact .refl _

theorem trigger_onlyAdds : trigger.OnlyAdds := by
  intro t s
  simp only [trigger]
  split
  · split
    · exact .single s.queues (.trigger t.message)
    · exact .refl _
  · exact .refl _

theorem storage_onlyAdds : storage.OnlyAdds := by
  intro t s
  simp only [storage]
  split
  · exact .single s.queues (.storage t.message)
  · exact .refl _

theorem liveData_onlyAdds : liveData.OnlyAdds := by
  intro t s
  simp only [liveData]
  split
  · exact .refl _
  · refine ⟨(s.directory.live.targets t.message.sensorId).map (.live · t.message), ?_⟩
    rw [Queues.enqueueAll, List.foldl_map]
    rfl

theorem publication_onlyAdds (settings : RoutingSettings) : (publication settings).OnlyAdds := by
  intro t s
  simp only [publication]
  split
  · exact .single s.queues (.publication _ t.message)
  · exact .refl _

theorem metering_onlyAdds (now : Nat) : (metering now).OnlyAdds := by
  intro t s
  simp only [metering]
  split
  · exact .single s.queues (.event _)
  · exact .refl _

theorem standard_onlyAdds (settings : RoutingSettings) (now : Nat) :
    ∀ stage ∈ standard settings now, stage.OnlyAdds := by
  simp only [standard, List.forall_mem_cons]
  exact ⟨validation_onlyAdds _, authorization_onlyAdds now, trigger_onlyAdds, storage_onlyAdds,
    liveData_onlyAdds, publication_onlyAdds settings, metering_onlyAdds now, List.forall_mem_nil _⟩

end RoutingStage

theorem Pipeline.pass_grows {stages : List (Stage RoutingState)}
    (h : ∀ stage ∈ stages, stage.OnlyAdds) (settled : Bool) (t : Transit) (s : RoutingState) :
    s.queues.Grows (pass stages settled t s).2.queues := by
  induction stages generalizing settled t s with
  | nil => exact .refl _
  | cons stage rest ih =>
    obtain ⟨hstage, hrest⟩ := List.forall_mem_cons.1 h
    rw [pass]
    split
    · exact ih hrest settled t s
    · -- whatever the stage decides, the others run on what it left
      have hfirst := hstage t s
      generalize stage.run t s = ran at hfirst ⊢
      obtain ⟨outcome, findings, after⟩ := ran
      cases outcome with
      | proceed | handled | rejected => exact hfirst.trans (ih hrest _ _ after)

namespace Router

variable {σ : Type} {r : Router}

theorem route_grows (r : Router) (now : Nat) (present : Instant) (m : Message) :
    r.state.queues.Grows (r.route now present m).2.state.queues :=
  Pipeline.pass_grows (RoutingStage.standard_onlyAdds r.settings now) false _ r.state

theorem decideEach_grows (r : Router) (turns : List Turn) :
    r.state.queues.Grows (r.decideEach turns).2.state.queues := by
  induction turns generalizing r with
  | nil => exact .refl _
  | cons t rest ih => exact (r.route_grows t.now t.present t.message).trans (ih _)

theorem settings_decideEach (r : Router) (turns : List Turn) :
    (r.decideEach turns).2.settings = r.settings := by
  induction turns generalizing r with
  | nil => rfl
  | cons t rest ih => exact ih _

/-! ### Buffers in order -/

/-- The buffers of the input queue and of the outbound queues are in order. -/
structure Orderly (r : Router) : Prop where
  input : r.input.Tidy
  queues : r.state.queues.Packed

theorem orderly_ofSettings (s : Settings) (d : Directory) : (ofSettings s d).Orderly where
  input := Ring.tidy_withCapacity _
  queues := Queues.packed_empty s.queues

theorem Orderly.step (h : r.Orderly) (op : RouterOperation σ) : (r.step op).Orderly := by
  refine ⟨tidy_step h.input op, ?_⟩
  cases op with
  | submit m => exact h.queues
  | submitAll messages => exact h.queues
  | pass now present =>
    change (r.routeBatch now present).2.state.queues.Packed
    rw [routeBatch_eq]
    exact (r.decideEach_grows (r.turns now present)).packed h.queues
  | flush publisher s => exact (h.queues.flush_empties publisher s).1
  | update directory => exact h.queues

theorem Orderly.run (h : r.Orderly) (ops : List (RouterOperation σ)) : (r.run ops).Orderly := by
  induction ops generalizing r with
  | nil => exact h
  | cons op rest ih => exact ih (h.step op)

/-! ### What has come about -/

/-- The second router has come about from the first by operations that submit these messages. -/
def Evolves (σ : Type) (r : Router) (messages : List Message) (r' : Router) : Prop :=
  ∃ ops : List (RouterOperation σ),
    ops.flatMap RouterOperation.submitted = messages ∧ r' = r.run ops

namespace Evolves

variable {r' r'' : Router} {messages more : List Message}

theorem refl (r : Router) : r.Evolves σ [] r :=
  ⟨[], rfl, rfl⟩

theorem single (r : Router) (op : RouterOperation σ) : r.Evolves σ op.submitted (r.step op) :=
  ⟨[op], List.flatMap_singleton _ op, rfl⟩

theorem trans (h : r.Evolves σ messages r') (h' : r'.Evolves σ more r'') :
    r.Evolves σ (messages ++ more) r'' := by
  obtain ⟨ops, rfl, rfl⟩ := h
  obtain ⟨ops', rfl, rfl⟩ := h'
  exact ⟨ops ++ ops', List.flatMap_append, List.foldl_append.symm⟩

theorem orderly (h : r.Evolves σ messages r') (hr : r.Orderly) : r'.Orderly := by
  obtain ⟨ops, -, rfl⟩ := h
  exact hr.run ops

/-- Messages that are submitted one after another. -/
theorem submits (r : Router) (messages : List Message) :
    r.Evolves σ messages (messages.foldl submit r) := by
  induction messages generalizing r with
  | nil => exact refl r
  | cons m rest ih => exact (single r (.submit m)).trans (ih (r.submit m))

/-- A drain submits nothing. -/
theorem drain (r : Router) (now : Nat) (present : Instant) :
    r.Evolves σ [] (r.routeAll now present) := by
  fun_induction routeAll r now present with
  | case1 r pass hnone => exact single r (.pass now present)
  | case2 r pass hsome ih => exact (single r (.pass now present)).trans ih

end Evolves

end Router

/-! ### Nothing to do -/

theorem TopicQueue.takeShipments_of_empty {α : Type} {q : TopicQueue α} (h : q.length = 0)
    (toValue : α → Json.Value) : q.takeShipments toValue = ([], q) := by
  have hdrain : q.items.drain = ([], q.items) := by
    rw [Ring.drain, show q.items.length = 0 from h]
    rfl
  rw [takeShipments, hdrain]
  rfl

namespace Queues

variable {σ : Type} {q : Queues}

theorem takeShipments_of_empty {name : QueueName} (h : (q.queue name).length = 0) :
    q.takeShipments name = ([], q) := by
  cases name with
  | trigger => rw [takeShipments, TopicQueue.takeShipments_of_empty (q := q.trigger) h]
  | storage => rw [takeShipments, TopicQueue.takeShipments_of_empty (q := q.storage) h]
  | live => rw [takeShipments, TopicQueue.takeShipments_of_empty (q := q.live) h]
  | publication => rw [takeShipments, TopicQueue.takeShipments_of_empty (q := q.publication) h]
  | events => rw [takeShipments, TopicQueue.takeShipments_of_empty (q := q.events) h]

theorem takeEach_of_empty (h : ∀ name, (q.queue name).length = 0) (names : List QueueName) :
    q.takeEach names = (names.map fun _ => [], q) := by
  induction names with
  | nil => rfl
  | cons name rest ih =>
    rw [takeEach, takeShipments_of_empty (h name)]
    simp only [ih, List.map_cons]

theorem handovers_of_empty (h : ∀ name, (q.queue name).length = 0) (p : Publisher σ) (s : σ) :
    q.handovers p s = [] := by
  have hnothing : ∀ name, q.parcelsOf name = [] := by
    intro name
    have hwaiting : q.waiting name = [] := Ring.toList_of_length_eq_zero (h name)
    rw [parcelsOf, hwaiting]
    rfl
  have hparcels : q.parcels = [] := List.flatMap_eq_nil_iff.2 fun name _ => hnothing name
  rw [handovers, hparcels]
  rfl

end Queues

namespace Router

variable {σ : Type} {r : Router}

/-- No message waits to be routed, and no record to be published. -/
structure Idle (r : Router) : Prop where
  input : r.input.length = 0
  queues : ∀ name, (r.state.queues.queue name).length = 0

/-- A pass over an empty input queue changes nothing. -/
theorem routeBatch_of_empty (h : r.input.length = 0) (now : Nat) (present : Instant) :
    r.routeBatch now present = ({}, r) := by
  have hnone : r.input.get? 0 = none := if_neg (by omega)
  have htake : r.input.take r.batchSize = ([], r.input) := by
    cases r.batchSize with
    | zero => rfl
    | succ n => simp only [Ring.take, Ring.popFront, hnone]
  rw [routeBatch, htake]
  rfl

/-- Without a submission there is no more work. -/
theorem Idle.step (h : r.Idle) {op : RouterOperation σ} (hop : op.submitted = []) :
    (r.step op).Idle := by
  cases op with
  | submit m => exact nomatch hop
  | submitAll messages =>
    cases (hop : messages = [])
    exact ⟨(Ring.length_reserve r.input 0).trans h.input, h.queues⟩
  | pass now present =>
    change (r.routeBatch now present).2.Idle
    rw [routeBatch_of_empty h.input]
    exact h
  | flush publisher s =>
    have hqueues : r.state.queues.takeAll.2 = r.state.queues :=
      congrArg Prod.snd (Queues.takeEach_of_empty h.queues _)
    refine ⟨h.input, fun name => ?_⟩
    change (r.state.queues.takeAll.2.queue name).length = 0
    rw [hqueues]
    exact h.queues name
  | update directory => exact ⟨h.input, h.queues⟩

/-- A flush leaves a router without messages with nothing to do. -/
theorem Orderly.idle_flush (h : r.Orderly) (hinput : r.input.length = 0) (p : Publisher σ) (s : σ) :
    (r.flush p s).2.1.Idle where
  input := hinput
  queues name := by
    have hempty := ((h.queues.flush_empties p s).2 name).2
    rw [Queues.isEmpty_eq] at hempty
    exact of_decide_eq_true hempty

theorem Idle.evolves {r' : Router} (hr : r.Idle) (h : r.Evolves σ [] r') : r'.Idle := by
  obtain ⟨ops, hops, rfl⟩ := h
  induction ops generalizing r with
  | nil => exact hr
  | cons op rest ih =>
    obtain ⟨hop, hrest⟩ := List.append_eq_nil_iff.1 (List.flatMap_cons.symm.trans hops)
    exact ih (hr.step hop) hrest

/-! ### The loop -/

/-- The passes that find messages before the input queue is empty. -/
def busyPasses (r : Router) : Nat :=
  (r.input.length + r.batchSize - 1) / r.batchSize

theorem batchSize_pos (r : Router) : 0 < r.batchSize :=
  Nat.le_max_left 1 _

theorem batchSize_routeBatch (r : Router) (now : Nat) (present : Instant) :
    (r.routeBatch now present).2.batchSize = r.batchSize := by
  rw [routeBatch_eq]
  exact congrArg (fun settings => max 1 settings.batchSize) (r.settings_decideEach _)

theorem isEmpty_routeBatch_iff (h : r.input.Packed) (now : Nat) (present : Instant) :
    (r.routeBatch now present).1.isEmpty = true ↔ r.input.length = 0 := by
  have htotal := total_routeBatch h now present
  have hsize := r.batchSize_pos
  simp only [PassOutcome.isEmpty, Bool.and_eq_true, decide_eq_true_eq]
  omega

theorem busyPasses_of_empty (h : r.input.length = 0) : r.busyPasses = 0 := by
  have hsize := r.batchSize_pos
  rw [busyPasses, h]
  exact Nat.div_eq_of_lt (by omega)

theorem busyPasses_routeBatch (h : r.input.Packed) (hsome : r.input.length ≠ 0) (now : Nat)
    (present : Instant) : r.busyPasses = (r.routeBatch now present).2.busyPasses + 1 := by
  have hsize := r.batchSize_pos
  have hleft : (r.routeBatch now present).2.input.length = r.input.length - r.batchSize := by
    have htotal := r.routeBatch_total now present
    have htaken := total_routeBatch h now present
    omega
  rw [busyPasses, busyPasses, batchSize_routeBatch, hleft]
  by_cases hfull : r.batchSize ≤ r.input.length
  · have hone : r.input.length + r.batchSize - 1 =
        r.input.length - r.batchSize + r.batchSize - 1 + r.batchSize := by omega
    rw [hone, Nat.add_div_right _ hsize]
  · have hlast : r.input.length + r.batchSize - 1 = r.input.length - 1 + r.batchSize := by omega
    rw [hlast, Nat.add_div_right _ hsize, Nat.div_eq_of_lt (by omega), Nat.div_eq_of_lt (by omega)]

/-- The passes of a drain: those that find messages, and one that finds none. -/
def drainPasses (r : Router) (now : Nat) (present : Instant) : List (RouterOperation Unit) :=
  List.replicate (r.busyPasses + 1) (.pass now present)

theorem length_routeAll (h : r.input.Packed) (now : Nat) (present : Instant) :
    (r.routeAll now present).input.length = 0 := by
  fun_induction routeAll r now present with
  | case1 r pass hnone =>
    have hempty := (isEmpty_routeBatch_iff h now present).1 hnone
    have hpass : pass = ({}, r) := routeBatch_of_empty hempty now present
    rw [hpass]
    exact hempty
  | case2 r pass hsome ih => exact ih (packed_routeBatch h now present)

/-- The loop ends after these passes, because the last one reports nothing and the others do not. -/
theorem routeAll_eq_run (h : r.input.Packed) (now : Nat) (present : Instant) :
    r.routeAll now present = r.run (r.drainPasses now present) ∧
      ∃ busy, r.reports (r.drainPasses now present) = busy ++ [({} : PassOutcome)] ∧
        busy.length = r.busyPasses ∧ ∀ o ∈ busy, o.isEmpty = false := by
  fun_induction routeAll r now present with
  | case1 r pass hnone =>
    have hempty := (isEmpty_routeBatch_iff h now present).1 hnone
    have hpass : pass = ({}, r) := routeBatch_of_empty hempty now present
    have hreport : r.reports [(.pass now present : RouterOperation Unit)] = [({} : PassOutcome)] :=
      congrArg (fun pass : PassOutcome × Router => [pass.1]) hpass
    rw [drainPasses, busyPasses_of_empty hempty]
    exact ⟨rfl, [], hreport, rfl, nofun⟩
  | case2 r pass hsome ih =>
    have hnonempty := mt (isEmpty_routeBatch_iff h now present).2 hsome
    obtain ⟨hrun, busy, hreports, hcount, hbusy⟩ := ih (packed_routeBatch h now present)
    rw [drainPasses, busyPasses_routeBatch h hnonempty now present]
    refine ⟨hrun, pass.1 :: busy, ?_, ?_, ?_⟩
    · exact congrArg (pass.1 :: ·) hreports
    · rw [List.length_cons, hcount]
    · exact List.forall_mem_cons.2 ⟨Bool.eq_false_iff.2 hsome, hbusy⟩

theorem submitted_drainPasses (r : Router) (now : Nat) (present : Instant) :
    (r.drainPasses now present).flatMap RouterOperation.submitted = [] :=
  List.flatMap_eq_nil_iff.2 fun _ hop => List.eq_of_mem_replicate hop ▸ rfl

/-- Every message that waits is decided about once, in its turn. -/
theorem journal_drainPasses (h : r.input.Tidy) (now : Nat) (present : Instant) :
    (r.journal (r.drainPasses now present)).map Prod.fst = r.input.toList := by
  have horder := order_run h (r.drainPasses now present)
  rw [submitted_drainPasses, List.append_nil, ← (routeAll_eq_run h.toPacked now present).1,
    Ring.toList_of_length_eq_zero (length_routeAll h.toPacked now present), List.append_nil] at horder
  exact horder.symm

/-- What a drain does with the messages that wait. -/
structure Drains (r : Router) (now : Nat) (present : Instant) : Prop where
  passes : r.routeAll now present = r.run (r.drainPasses now present)
  /-- It ends when a pass finds no message, and all passes before that one find some. -/
  ends : ∃ busy, r.reports (r.drainPasses now present) = busy ++ [({} : PassOutcome)] ∧
    busy.length = r.busyPasses ∧ ∀ o ∈ busy, o.isEmpty = false
  /-- Every message that waits is decided about once, in its turn, and no other. -/
  once : (r.journal (r.drainPasses now present)).map Prod.fst = r.input.toList
  empties : (r.routeAll now present).input.length = 0

theorem drains (h : r.input.Tidy) (now : Nat) (present : Instant) : r.Drains now present where
  passes := (routeAll_eq_run h.toPacked now present).1
  ends := (routeAll_eq_run h.toPacked now present).2
  once := journal_drainPasses h now present
  empties := length_routeAll h.toPacked now present

/-- Without messages, a drain comes to nothing. -/
theorem Idle.routeAll_eq (h : r.Idle) (now : Nat) (present : Instant) :
    r.routeAll now present = r := by
  have hpass := routeBatch_of_empty h.input now present
  rw [routeAll, hpass]
  rfl

end Router

end SensorRouter
