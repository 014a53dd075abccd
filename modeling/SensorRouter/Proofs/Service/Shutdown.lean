import SensorRouter.Proofs.Service.Run
import SensorRouter.Repository.Registry

/-!
The shutdown of a service. Once the tasks have ended, all messages that wait are routed, and one flush
takes the records of all outbound queues, those included that the last messages have come to. From then
on no task runs and no command is taken in, so without new messages there is nothing left to do for
another shutdown.
-/

namespace SensorRouter.Service

variable {σ : Type} {s : Service σ} (w : Surroundings σ)

/-! ### Services that have stopped -/

/-- No task is left to run, and no command to be applied. -/
structure Halted (s : Service σ) : Prop where
  phase : s.phase = .stopped
  agenda : s.agenda.entries = []
  commands : s.engine.commands = []

theorem halted_ended (s : Service σ) : (s.ended w).Halted := by
  rw [ended, joinFlush]
  split
  · rename_i hagenda
    exact ⟨rfl, hagenda, rfl⟩
  · refine ⟨rfl, rfl, ?_⟩
    change (s.stop.engine.endFlush w).commands = []
    rw [Engine.endFlush]
    split <;> rfl

theorem halted_shutdown (s : Service σ) : (s.shutdown w).2.Halted := by
  have hended := s.halted_ended w
  rw [shutdown]
  simp only
  split <;> exact ⟨hended.phase, hended.agenda, hended.commands⟩

namespace Halted

theorem stop_eq (h : s.Halted) : s.stop = s := by
  obtain ⟨engine, ⟨entries, ascending⟩, elapsed, phase⟩ := s
  obtain ⟨hphase, hagenda, hcommands⟩ := h
  cases hphase
  cases hagenda
  obtain ⟨settings, router, counts, publisherState, commands, inFlight, flushDue⟩ := engine
  cases hcommands
  rfl

theorem ended_eq (h : s.Halted) : s.ended w = s := by
  rw [ended, h.stop_eq, joinFlush, h.agenda]

/-- A service that has stopped does not start again. -/
theorem step (h : s.Halted) (e : ServiceEvent σ) : (s.step e).Halted := by
  obtain ⟨hphase, hagenda, hcommands⟩ := h
  cases e with
  | submit | submitRange | reload | pass | flush | update => exact ⟨hphase, hagenda, hcommands⟩
  | command w payload =>
    rw [Service.step, submitCommand, hphase]
    exact ⟨hphase, hagenda, hcommands⟩
  | wait w time =>
    have hstop : s.stop = s := stop_eq ⟨hphase, hagenda, hcommands⟩
    rw [Service.step, wait]
    split
    · exact ⟨hphase, hagenda, hcommands⟩
    · simp only [hphase, hstop, hagenda, List.any_nil]
      exact ⟨hphase, hagenda, hcommands⟩
  | cancel =>
    rw [Service.step, cancel, hphase]
    exact ⟨hphase, hagenda, hcommands⟩
  | shutdown w => exact s.halted_shutdown w

theorem run (h : s.Halted) (events : List (ServiceEvent σ)) : (s.run events).Halted := by
  induction events generalizing s with
  | nil => exact h
  | cons e rest ih => exact ih (h.step e)

end Halted

/-! ### Nothing to do -/

/-- A shutdown that has nothing to do. -/
structure Rests (s : Service σ) (w : Surroundings σ) : Prop where
  /-- No flush is under way. -/
  settled : s.ended w = s
  routes : s.engine.router.journal (s.engine.router.drainPasses w.clock w.present) = []
  publishes : (s.drained w).state.queues.handovers w.publisher s.engine.publisherState = []
  unchanged : s.shutdown w = (some .empty, s)

theorem Halted.shutdown_eq (h : s.Halted) (hidle : s.engine.router.Idle) :
    s.shutdown w = (some .empty, s) := by
  have hended : s.stop.joinFlush w = s := h.ended_eq w
  have htake : s.engine.takeShipments = (QueueName.all.map fun _ => [], s.engine) := by
    rw [Engine.takeShipments, Queues.takeAll, Queues.takeEach_of_empty hidle.queues]
  simp only [shutdown, hended, hidle.routeAll_eq, htake]
  rfl

theorem Halted.rests (h : s.Halted) (ho : s.engine.router.Orderly) (hidle : s.engine.router.Idle) :
    s.Rests w where
  settled := h.ended_eq w
  routes := by
    have hjournal := Router.journal_drainPasses ho.input w.clock w.present
    rwa [Ring.toList_of_length_eq_zero hidle.input, List.map_eq_nil_iff] at hjournal
  publishes := by
    rw [drained_eq, hidle.routeAll_eq]
    exact Queues.handovers_of_empty hidle.queues _ _
  unchanged := h.shutdown_eq w hidle

/-! ### The final flush -/

/-- What a shutdown that is over in time has published. -/
structure Publishes (s : Service σ) (w : Surroundings σ) (result : FlushResult) : Prop where
  /-- The result and the state of the publisher are those of one flush of the drained router. -/
  flush : (result, (s.shutdown w).2.engine.router, (s.shutdown w).2.engine.publisherState) =
    (s.drained w).flush w.publisher (s.ended w).engine.publisherState
  handsOver : (s.drained w).state.queues.HandsOver w.publisher (s.ended w).engine.publisherState
  /-- Of each queue, the records that wait on a topic are handed over once, in order. -/
  once : ∀ name topic,
    (((s.drained w).state.queues.handovers w.publisher
        (s.ended w).engine.publisherState).flatMap fun a => a.offered.recordsOn name topic) =
      (TopicBatch.ofTopic ((s.drained w).state.queues.waiting name) topic).records
  empties : ∀ name, (s.shutdown w).2.engine.router.state.queues.isEmpty name = true
  delivered : result.delivered =
    ((((s.drained w).state.queues.handovers w.publisher
      (s.ended w).engine.publisherState).filter (·.succeeded)).map (·.offered.size)).sum

theorem shutdown_of_some {result : FlushResult} (h : (s.shutdown w).1 = some result) :
    (result, (s.shutdown w).2.engine.router, (s.shutdown w).2.engine.publisherState) =
      s.finalFlush w := by
  rw [shutdown] at h ⊢
  simp only at h ⊢
  split at h
  · cases h
    rename_i hintime
    rw [if_pos hintime]
    rfl
  · cases h

theorem publishes_of_some (ho : (s.drained w).Orderly) {result : FlushResult}
    (h : (s.shutdown w).1 = some result) : s.Publishes w result := by
  have hflush := s.shutdown_of_some w h
  have hhands := ho.queues.handsOver w.publisher (s.ended w).engine.publisherState
  exact {
    flush := hflush
    handsOver := hhands
    once := Queues.recordsOn_handovers w.publisher _ _
    empties := fun name => by
      rw [router_shutdown]
      exact (hhands.empties name).2
    delivered := by
      have hresult : result = (s.finalFlush w).1 := congrArg Prod.fst hflush
      rw [hresult]
      exact hhands.delivered }

theorem settings_ended (s : Service σ) : (s.ended w).engine.settings = s.engine.settings := by
  rw [ended, joinFlush]
  split
  · rfl
  · change (s.stop.engine.endFlush w).settings = _
    rw [Engine.endFlush]
    split <;> rfl

/-- No publish that is short enough is cut off. -/
theorem shutdown_in_time
    (h : ∀ t, w.publisher.latency t ≤ s.engine.settings.queues.graceMillis) :
    (s.shutdown w).1 = some (s.finalFlush w).1 := by
  have htime : ∀ (e : Engine σ) (xs : List (List Shipment)),
      e.settings = s.engine.settings → e.deliveryTime w xs ≤ e.settings.queues.graceMillis := by
    intro e xs hsettings
    rw [Engine.deliveryTime]
    split
    · exact Nat.zero_le _
    · exact hsettings ▸ h e.publisherState
  rw [shutdown]
  simp only
  split
  · rfl
  · rename_i hlate
    exact absurd (htime _ _ (s.settings_ended w)) hlate

/-! ### Shutdown -/

/-- What a shutdown comes to. -/
structure ShutsDown (s : Service σ) (w : Surroundings σ) : Prop where
  /-- The messages are routed by passes of which the last one finds none. -/
  drains : s.engine.router.Drains w.clock w.present
  drained : s.drained w = s.engine.router.routeAll w.clock w.present
  /-- In time or not, the messages are gone and the records taken. -/
  router : (s.shutdown w).2.engine.router = (s.finalFlush w).2.1
  input : (s.shutdown w).2.engine.router.input.toList = []
  inTime : (∀ t, w.publisher.latency t ≤ s.engine.settings.queues.graceMillis) →
    (s.shutdown w).1 = some (s.finalFlush w).1
  publishes : ∀ result, (s.shutdown w).1 = some result → s.Publishes w result
  /-- Whatever happens but new messages, another shutdown has nothing to do. -/
  again : ∀ events : List (ServiceEvent σ), events.flatMap ServiceEvent.submitted = [] →
    ∀ w', ((s.shutdown w).2.run events).Rests w'

/-- Whatever has happened to a service since its start, and whatever waits, it shuts down like this. -/
theorem shutdown_drains (h : s.Reachable) (w : Surroundings σ) : s.ShutsDown w := by
  have hdrains := s.engine.router.drains h.orderly.input w.clock w.present
  have hrouted := s.drained_eq w
  have hleft : (s.drained w).input.length = 0 := hrouted ▸ hdrains.empties
  have horderly : (s.drained w).Orderly := by
    rw [hrouted]
    exact (Router.Evolves.drain (σ := σ) s.engine.router w.clock w.present).orderly h.orderly
  have hidle : (s.shutdown w).2.engine.router.Idle := by
    rw [router_shutdown]
    exact horderly.idle_flush hleft _ _
  exact {
    drains := hdrains
    drained := hrouted
    router := s.router_shutdown w
    input := Ring.toList_of_length_eq_zero hidle.input
    inTime := s.shutdown_in_time w
    publishes := fun result hsome => s.publishes_of_some w horderly hsome
    again := fun events hnone w' => by
      have hafter := (s.shutdown w).2.evolves_events events
      rw [hnone] at hafter
      have hstill := (s.evolves_shutdown w).trans hafter
      exact ((s.halted_shutdown w).run events).rests w' (hstill.orderly h.orderly)
        (hidle.evolves hafter) }

/-- Two messages that wait, of which the second is from an unknown sensor, and passes of one message. -/
theorem shutdown_drains_two :
    let r := ((Registry.empty.putAccount { id := "a1" }).putSensor
      { id := "s1", secret := "k1", accountId := "a1" }).putApiKey { key := "k1", accountId := "a1" }
    let w : Surroundings DeliveryStore := ⟨r.toRepository, DeliveryStore.publisher, 0, default⟩
    let settings : Settings := { routing := { batchSize := 1 }, reload := { initialLoad := false } }
    let m (id : String) : Message :=
      { sensorId := id, stamp := default, content := .control "on" .device }
    ∃ first : Service DeliveryStore, start w settings {} = .ok first ∧
      let s := first.run [.reload w, .submit [m "s1", m "s2"]]
      s.Reachable ∧ s.ShutsDown w ∧ s.engine.router.busyPasses = 2 ∧
        (s.shutdown w).1.map (·.delivered) = some 2 := by
  intro r w settings m
  refine ⟨_, rfl, ?_⟩
  intro s
  have hreachable : s.Reachable := ⟨w, settings, {}, _, _, rfl, rfl⟩
  have hshuts := shutdown_drains hreachable w
  have hbusy : s.engine.router.busyPasses = 2 := by decide +kernel
  have hdelivered : (((s.engine.router.run (s.engine.router.drainPasses 0 default)).flush w.publisher
      (s.ended w).engine.publisherState).1).delivered = 2 := by decide +kernel
  refine ⟨hreachable, hshuts, hbusy, ?_⟩
  rw [hshuts.inTime fun _ => Nat.zero_le _, finalFlush, hshuts.drained, hshuts.drains.passes]
  exact congrArg some hdelivered

end SensorRouter.Service
