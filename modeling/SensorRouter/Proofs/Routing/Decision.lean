import SensorRouter.Proofs.Routing.Authorization
import SensorRouter.Proofs.Routing.FanOut
import SensorRouter.Router

/-!
The decision about a message and everything that routing it does: a message that is not valid does
nothing, one that is not authorized is at most metered, and an accepted one is fanned out and metered.
-/

namespace SensorRouter

namespace Pipeline

variable {σ : Type}

/-- A settled message skips the stages that keep no books. -/
theorem pass_settled (stages rest : List (Stage σ))
    (h : ∀ stage ∈ stages, stage.isBookkeeping = false) (t : Transit) (s : σ) :
    pass (stages ++ rest) true t s = pass rest true t s := by
  induction stages with
  | nil => rfl
  | cons stage stages ih =>
    rw [List.forall_mem_cons] at h
    rw [List.cons_append, pass, h.1]
    exact ih h.2

end Pipeline

/-- Recording actions of which none is there yet appends them. -/
theorem NetworkEvent.foldl_record (e : NetworkEvent) (actions : List EventAction)
    (h : (e.actions ++ actions).Nodup) :
    actions.foldl .record e = { e with actions := e.actions ++ actions } := by
  induction actions generalizing e with
  | nil => simp
  | cons a rest ih =>
    have hnew : a ∉ e.actions := by
      intro hmem
      exact List.disjoint_of_nodup_append h hmem List.mem_cons_self
    have hrecord : e.record a = { e with actions := e.actions ++ [a] } := by
      simp [NetworkEvent.record, NetworkEvent.recordAction, hnew]
    rw [List.foldl_cons, hrecord, ih _ (by simpa using h)]
    simp

/-- The event for a message of a sensor: dropped, or routed with what was done. -/
def Message.eventOf (m : Message) (s : Sensor) (decision : Except Rejection (List EventAction)) :
    NetworkEvent where
  sensorId := s.id
  accountId := s.accountId
  kind := m.kind
  actions :=
    match decision with
    | .ok actions => .routed :: actions
    | .error _ => [.dropped]

namespace RoutingStage

variable {settings : RoutingSettings} {now : Nat} {m : Message} {st : RoutingState}

theorem event_of_rejected {t : Transit} {reason : Rejection} (hrejection : t.rejection = some reason)
    (hactions : t.actions = []) (s : Sensor) :
    event t s = t.message.eventOf s (.error reason) := by
  simp [event, hrejection, hactions, Message.eventOf]

theorem event_of_accepted {t : Transit} (hrejection : t.rejection = none)
    (hactions : (.routed :: t.actions).Nodup) (s : Sensor) :
    event t s = t.message.eventOf s (.ok t.actions) := by
  rw [event, hrejection]
  exact NetworkEvent.foldl_record _ _ hactions

/-- Metering comes last and runs for settled messages too. -/
theorem pass_metering (now : Nat) (settled : Bool) (t : Transit) (st : RoutingState) :
    Pipeline.pass [metering now] settled t st =
      match meteredSensor? now t st.directory with
      | some (s, directory) => (t, { directory, queues := st.queues.addEvent (event t s) })
      | none => (t, st) := by
  have hruns : (settled && !(metering now).isBookkeeping) = false := Bool.and_false _
  rw [Pipeline.pass, hruns]
  simp only [metering]
  cases meteredSensor? now t st.directory <;> rfl

/-- A message that is not valid does nothing. -/
theorem route_of_invalid {e : ValidationError}
    (hvalid : m.validate settings.maxDataPoints = .error e) :
    Pipeline.route (standard settings now) m st = (.error (.invalid e), st) := by
  let t : Transit := { message := m, rejection := some (.invalid e) }
  have hpass : Pipeline.pass (standard settings now) false { message := m } st =
      Pipeline.pass [metering now] true t st := by
    rw [standard, Pipeline.pass]
    simp only [validation, hvalid]
    exact Pipeline.pass_settled (authorization now :: fanOut settings) [metering now]
      (by simp [authorization, fanOut, trigger, storage, liveData, publication]) t st
  have hunmetered : meteredSensor? now t st.directory = none := rfl
  rw [Pipeline.route, hpass, pass_metering, hunmetered]
  rfl

/-- A message that is not authorized is metered as dropped if its sensor is known. -/
theorem route_of_unauthorized {e : AuthorizationError} {d : Directory}
    (hvalid : m.validate settings.maxDataPoints = .ok ())
    (hauthorize : st.directory.authorize now m.sensorId m.apiKey = (.error e, d)) :
    ∃ directory, Directory.Used now st.directory directory ∧
      Pipeline.route (standard settings now) m st =
        (.error (.unauthorized e),
          { directory
            queues :=
              match st.directory.lookup .sensor m.sensorId with
              | some s => st.queues.addEvent (m.eventOf s (.error (.unauthorized e)))
              | none => st.queues }) := by
  let t : Transit := { message := m, rejection := some (.unauthorized e) }
  have hused := Directory.used_of_authorize hauthorize
  have hpass : Pipeline.pass (standard settings now) false { message := m } st =
      Pipeline.pass [metering now] true t { st with directory := d } := by
    rw [standard, Pipeline.pass]
    simp only [validation, hvalid]
    rw [Bool.false_and, if_neg Bool.false_ne_true, Pipeline.pass]
    simp only [authorization, hauthorize]
    exact Pipeline.pass_settled (fanOut settings) [metering now]
      (by simp [fanOut, trigger, storage, liveData, publication]) t { st with directory := d }
  have hmetered : meteredSensor? now t d = (d.findSensor now m.sensorId).toOption := rfl
  rw [Pipeline.route, hpass, pass_metering, hmetered, Directory.findSensor_eq, hused.lookup_eq]
  cases st.directory.lookup .sensor m.sensorId with
  | none => exact ⟨d, hused, rfl⟩
  | some s =>
    refine ⟨d.use now .sensor m.sensorId, hused.use _ _, ?_⟩
    simp only [Except.toOption]
    rw [event_of_rejected rfl rfl]
    rfl

/-- An accepted message is fanned out, then metered. -/
theorem route_of_authorized {s : Sensor} {d : Directory}
    (hvalid : m.validate settings.maxDataPoints = .ok ())
    (hauthorize : st.directory.authorize now m.sensorId m.apiKey = (.ok s, d)) :
    let a := m.copies settings st.queues.settings (st.directory.live.targets m.sensorId) s
    ∃ queues, st.queues.Gains queues a ∧
      Pipeline.route (standard settings now) m st =
        (.ok a.actions,
          { directory := d, queues := queues.addEvent (m.eventOf s (.ok a.actions)) }) := by
  intro a
  have hused := Directory.used_of_authorize hauthorize
  let t : Transit := { message := m, sensor := some s }
  have hpass : Pipeline.pass (standard settings now) false { message := m } st =
      Pipeline.pass (fanOut settings ++ [metering now]) false t { st with directory := d } := by
    rw [standard, Pipeline.pass]
    simp only [validation, hvalid]
    rw [Bool.false_and, if_neg Bool.false_ne_true, Pipeline.pass]
    simp only [authorization, hauthorize]
    rfl
  obtain ⟨queues, hgains, hfan⟩ := pass_fanOut settings t { st with directory := d } rfl rfl
    [metering now]
  simp only [hused.live_eq] at hgains hfan
  refine ⟨queues, hgains, ?_⟩
  have hevent : event { t with actions := a.actions } s = m.eventOf s (.ok a.actions) :=
    event_of_accepted rfl a.nodup_actions s
  rw [Pipeline.route, hpass, hfan, pass_metering, ← hevent]
  rfl

/-- Routing only uses the directory. -/
theorem route_used (settings : RoutingSettings) (now : Nat) (m : Message) (st : RoutingState) :
    Directory.Used now st.directory
      (Pipeline.route (standard settings now) m st).2.directory := by
  rcases hvalid : m.validate settings.maxDataPoints with e | _
  · rw [route_of_invalid hvalid]
    exact .refl
  rcases hauthorize : st.directory.authorize now m.sensorId m.apiKey with ⟨e | s, d⟩
  · obtain ⟨directory, hmetered, hroute⟩ := route_of_unauthorized hvalid hauthorize
    rw [hroute]
    exact hmetered
  · obtain ⟨queues, -, hroute⟩ := route_of_authorized hvalid hauthorize
    rw [hroute]
    exact Directory.used_of_authorize hauthorize

/-- A message that the directory does not admit is rejected and goes to none of the queues. -/
theorem route_of_not_admitted (settings : RoutingSettings) (now : Nat)
    (h : ∀ s, ¬ st.directory.Admits m.sensorId m.apiKey s) :
    (∃ reason, (Pipeline.route (standard settings now) m st).1 = .error reason) ∧
      (Pipeline.route (standard settings now) m st).2.queues.SameCopies st.queues := by
  rcases hvalid : m.validate settings.maxDataPoints with e | _
  · rw [route_of_invalid hvalid]
    exact ⟨⟨_, rfl⟩, .refl _⟩
  rcases hauthorize : st.directory.authorize now m.sensorId m.apiKey with ⟨e | s, d⟩
  · obtain ⟨directory, -, hroute⟩ := route_of_unauthorized hvalid hauthorize
    rw [hroute]
    refine ⟨⟨_, rfl⟩, ?_⟩
    cases st.directory.lookup .sensor m.sensorId <;> exact ⟨rfl, rfl, rfl, rfl⟩
  · have hadmits := (st.directory.authorize_eq_ok_iff now m.sensorId m.apiKey s).1
      (by rw [hauthorize])
    exact absurd hadmits (h s)

end RoutingStage

/-- What the decision about a message and the state after it have to do with the state before. -/
structure Routed (settings : RoutingSettings) (now : Nat) (m : Message) (before after : RoutingState)
    (decision : Except Rejection (List EventAction)) : Prop where
  /-- Validation decides first. -/
  invalid : ∀ e, decision = .error (.invalid e) ↔ m.validate settings.maxDataPoints = .error e
  /-- Authorization decides about valid messages. -/
  unauthorized : ∀ e, decision = .error (.unauthorized e) ↔
    m.validate settings.maxDataPoints = .ok () ∧
      (before.directory.authorize now m.sensorId m.apiKey).1 = .error e
  /-- The other messages are accepted, and the actions are those that there were copies for. -/
  accepted : ∀ actions, decision = .ok actions ↔
    m.validate settings.maxDataPoints = .ok () ∧
      ∃ s, (before.directory.authorize now m.sensorId m.apiKey).1 = .ok s ∧
        actions = (m.copies settings before.queues.settings
          (before.directory.live.targets m.sensorId) s).actions
  /-- A rejected message leaves all queues but that of the events as they are. -/
  rejected : ∀ reason, decision = .error reason → after.queues.SameCopies before.queues
  /-- An accepted message adds its copies, each to its queue, and nothing else. -/
  copied : ∀ actions, decision = .ok actions →
    ∀ s, (before.directory.authorize now m.sensorId m.apiKey).1 = .ok s →
      let a := m.copies settings before.queues.settings
        (before.directory.live.targets m.sensorId) s
      after.queues.trigger.contents = before.queues.trigger.contents ++ a.trigger ∧
        after.queues.storage.contents = before.queues.storage.contents ++ a.storage ∧
        after.queues.live.contents = before.queues.live.contents ++ a.live ∧
        after.queues.publication.contents = before.queues.publication.contents ++ a.publication
  /-- There is one event, unless the message is not valid or its sensor not known. -/
  metered : after.queues.events.contents = before.queues.events.contents ++
    match m.validate settings.maxDataPoints, before.directory.lookup .sensor m.sensorId with
    | .ok (), some s => [⟨before.queues.settings.eventTopic, m.eventOf s decision⟩]
    | _, _ => []

/-- Routing decides by validation and then authorization, fans out what it accepts, and meters. -/
theorem Router.route_routed (r : Router) (now : Nat) (present : Instant) (m : Message) :
    Routed r.settings now m r.state (r.route now present m).2.state (r.route now present m).1 := by
  change Routed r.settings now m r.state
    (Pipeline.route (RoutingStage.standard r.settings now) m r.state).2
    (Pipeline.route (RoutingStage.standard r.settings now) m r.state).1
  rcases hvalid : m.validate r.settings.maxDataPoints with e | _
  · rw [RoutingStage.route_of_invalid hvalid]
    constructor
    case rejected => exact fun _ _ => .refl _
    all_goals simp [hvalid]
  rcases hauthorize : r.state.directory.authorize now m.sensorId m.apiKey with ⟨e | s, d⟩
  · obtain ⟨directory, -, hroute⟩ := RoutingStage.route_of_unauthorized hvalid hauthorize
    have hevent := r.state.queues.gains_addEvent
    rw [hroute]
    constructor
    case rejected =>
      intro _ _
      cases r.state.directory.lookup .sensor m.sensorId <;> exact ⟨rfl, rfl, rfl, rfl⟩
    case metered =>
      cases r.state.directory.lookup .sensor m.sensorId with
      | none => simp [hvalid]
      | some s => simpa [hvalid] using (hevent _).events
    all_goals simp [hvalid, hauthorize]
  · obtain ⟨queues, hgains, hroute⟩ := RoutingStage.route_of_authorized hvalid hauthorize
    have hsensor := ((r.state.directory.authorize_eq_ok_iff now m.sensorId m.apiKey s).1
      (by rw [hauthorize])).sensor
    rw [hroute]
    constructor
    case accepted => simpa [hvalid, hauthorize] using fun _ => eq_comm
    case copied =>
      intro actions _ found hfound
      rw [hauthorize] at hfound
      cases hfound
      exact ⟨hgains.trigger, hgains.storage, hgains.live, hgains.publication⟩
    case metered =>
      rw [(queues.gains_addEvent _).events, hgains.events, hgains.settings, hvalid, hsensor]
      simp [Message.copies]
    all_goals simp [hvalid, hauthorize]

end SensorRouter
