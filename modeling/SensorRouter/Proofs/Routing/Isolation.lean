import SensorRouter.Proofs.Routing.Decision

/-!
What routing a message can depend on. The ruling about a message, which is the decision and the
records for the queues, is computed from a few answers of the directory. Directories that give the
same answers lead to the same ruling, whatever else they hold.
-/

namespace SensorRouter

/-! ### Rulings -/

/-- The decision about a message and the records that it adds to the queues, from what the directory
says: the sensor kept under the message's id, the result of authorization, and the live data
targets. -/
def Message.ruling (m : Message) (settings : RoutingSettings) (q : QueueSettings)
    (known : Option Sensor) (authorized : Except AuthorizationError Sensor)
    (targets : List String) : Except Rejection (List EventAction) × Additions :=
  match m.validate settings.maxDataPoints, authorized with
  | .error e, _ => (.error (.invalid e), .none)
  | .ok (), .error e =>
    let decision := .error (.unauthorized e)
    (decision, { events := known.toList.map fun s => ⟨q.eventTopic, m.eventOf s decision⟩ })
  | .ok (), .ok s =>
    let copies := m.copies settings q targets s
    let decision := .ok copies.actions
    (decision, { copies with events := [⟨q.eventTopic, m.eventOf s decision⟩] })

/-- Routing gives the decision of the ruling, and adds its records to the queues. -/
theorem RoutingStage.route_ruling (settings : RoutingSettings) (now : Nat) (m : Message)
    (st : RoutingState) :
    let routed := Pipeline.route (standard settings now) m st
    let ruling := m.ruling settings st.queues.settings (st.directory.lookup .sensor m.sensorId)
      (st.directory.authorize now m.sensorId m.apiKey).1 (st.directory.live.targets m.sensorId)
    routed.1 = ruling.1 ∧ st.queues.Gains routed.2.queues ruling.2 := by
  intro routed ruling
  rcases hvalid : m.validate settings.maxDataPoints with e | _
  · have hruling : ruling = (.error (.invalid e), .none) := by
      simp only [ruling, Message.ruling, hvalid]
    rw [hruling, show routed = _ from route_of_invalid hvalid]
    exact ⟨rfl, .refl _⟩
  rcases hauthorize : st.directory.authorize now m.sensorId m.apiKey with ⟨e | s, d⟩
  · obtain ⟨directory, -, hroute⟩ := route_of_unauthorized hvalid hauthorize
    simp only [routed, ruling, Message.ruling, hroute, hvalid, hauthorize, true_and]
    cases st.directory.lookup .sensor m.sensorId with
    | none => exact .refl _
    | some s => exact st.queues.gains_addEvent _
  · obtain ⟨queues, hgains, hroute⟩ := route_of_authorized hvalid hauthorize
    simp only [routed, ruling, Message.ruling, hroute, hvalid, hauthorize, true_and]
    have hevent := queues.gains_addEvent (m.eventOf s (.ok (m.copies settings st.queues.settings
      (st.directory.live.targets m.sensorId) s).actions))
    rw [hgains.settings] at hevent
    have hboth := hgains.trans hevent
    simpa [Message.copies] using hboth

namespace Directory

variable {d d' : Directory}

/-! ### Two directories that answer alike -/

theorem authorizeKeys_congr (now now' : Nat) (accountId : String) {keys : List String}
    (h : ∀ key ∈ keys, d'.lookup .apiKey key = d.lookup .apiKey key) :
    (d'.authorizeKeys now' accountId keys).1 = (d.authorizeKeys now accountId keys).1 := by
  induction keys generalizing d d' with
  | nil => rfl
  | cons key rest ih =>
    obtain ⟨hkey, hrest⟩ := List.forall_mem_cons.1 h
    rw [authorizeKeys, authorizeKeys, findApiKey_eq, findApiKey_eq, hkey]
    rcases d.lookup .apiKey key with _ | k
    · rfl
    simp only
    rcases k.authorize accountId with e | _
    · rfl
    · -- the use of the first key shows in no later lookup
      have hused : ∀ other ∈ rest, (d'.use now' .apiKey key).lookup .apiKey other =
          (d.use now .apiKey key).lookup .apiKey other := by
        intro other hother
        rw [lookup_use, lookup_use, hrest other hother]
      exact ih hused

/-- Two directories give the same answers to all that routing a message asks: its sensor and, if
that is known, the account, the keys and the live data targets of it. -/
structure AgreeFor (d d' : Directory) (m : Message) : Prop where
  sensor : d'.lookup .sensor m.sensorId = d.lookup .sensor m.sensorId
  account : ∀ s, d.lookup .sensor m.sensorId = some s →
    d'.lookup .account s.accountId = d.lookup .account s.accountId
  secret : ∀ s, d.lookup .sensor m.sensorId = some s →
    d'.lookup .apiKey s.secret = d.lookup .apiKey s.secret
  presented : (d.lookup .sensor m.sensorId).isSome →
    ∀ key ∈ m.apiKey, d'.lookup .apiKey key = d.lookup .apiKey key
  targets : (d.lookup .sensor m.sensorId).isSome →
    d'.live.targets m.sensorId = d.live.targets m.sensorId

theorem AgreeFor.authorize_eq {m : Message} (h : d.AgreeFor d' m) (now now' : Nat) :
    (d'.authorize now' m.sensorId m.apiKey).1 = (d.authorize now m.sensorId m.apiKey).1 := by
  rw [authorize, authorize, findSensor_eq, findSensor_eq, h.sensor]
  rcases hsensor : d.lookup .sensor m.sensorId with _ | s
  · rfl
  simp only
  rw [findAccount_eq, findAccount_eq, lookup_use, lookup_use, h.account s hsensor]
  rcases d.lookup .account s.accountId with _ | a
  · rfl
  simp only
  rcases a.authorize with e | _
  · rfl
  have hkeys : ∀ key ∈ checkedKeys s.secret m.apiKey,
      ((d'.use now' .sensor m.sensorId).use now' .account s.accountId).lookup .apiKey key =
        ((d.use now .sensor m.sensorId).use now .account s.accountId).lookup .apiKey key := by
    simp only [lookup_use]
    rw [forall_checkedKeys]
    exact ⟨h.secret s hsensor, h.presented (by rw [hsensor]; rfl)⟩
  exact congrArg (Except.map fun _ => s) (authorizeKeys_congr now now' s.accountId hkeys)

theorem AgreeFor.ruling_eq {m : Message} (h : d.AgreeFor d' m) (now now' : Nat)
    (settings : RoutingSettings) (q : QueueSettings) :
    m.ruling settings q (d'.lookup .sensor m.sensorId) (d'.authorize now' m.sensorId m.apiKey).1
        (d'.live.targets m.sensorId) =
      m.ruling settings q (d.lookup .sensor m.sensorId) (d.authorize now m.sensorId m.apiKey).1
        (d.live.targets m.sensorId) := by
  rw [h.sensor, h.authorize_eq now now']
  rcases hauthorize : (d.authorize now m.sensorId m.apiKey).1 with e | s
  · -- without authorization the targets are not asked for
    unfold Message.ruling
    rcases m.validate settings.maxDataPoints with _ | _ <;> rfl
  · have hsensor := ((d.authorize_eq_ok_iff now m.sensorId m.apiKey s).1 hauthorize).sensor
    rw [h.targets (by rw [hsensor]; rfl)]

end Directory

/-- Two routers with the same settings, whose directories answer alike to what routing a message
asks, make the same decision about it and add the same records to their queues. -/
theorem Router.route_isolated (r r' : Router) (m : Message) (hsettings : r'.settings = r.settings)
    (hqueues : r'.state.queues.settings = r.state.queues.settings)
    (hagree : r.state.directory.AgreeFor r'.state.directory m) (now now' : Nat)
    (present present' : Instant) :
    (r'.route now' present' m).1 = (r.route now present m).1 ∧
      ∃ a : Additions, r.state.queues.Gains (r.route now present m).2.state.queues a ∧
        r'.state.queues.Gains (r'.route now' present' m).2.state.queues a := by
  let ruling := m.ruling r.settings r.state.queues.settings
    (r.state.directory.lookup .sensor m.sensorId)
    (r.state.directory.authorize now m.sensorId m.apiKey).1
    (r.state.directory.live.targets m.sensorId)
  have hruling : m.ruling r'.settings r'.state.queues.settings
      (r'.state.directory.lookup .sensor m.sensorId)
      (r'.state.directory.authorize now' m.sensorId m.apiKey).1
      (r'.state.directory.live.targets m.sensorId) = ruling := by
    rw [hsettings, hqueues, hagree.ruling_eq now now']
  obtain ⟨hdecision, hgains⟩ := RoutingStage.route_ruling r.settings now m r.state
  obtain ⟨hdecision', hgains'⟩ := RoutingStage.route_ruling r'.settings now' m r'.state
  rw [hruling] at hdecision' hgains'
  exact ⟨hdecision'.trans hdecision.symm, ruling.2, hgains, hgains'⟩

/-- What else a directory holds, here a banned account with its sensor and a live data route of that
sensor, makes no difference to a message that presents its sensor's secret. -/
theorem Router.route_isolated_from_other :
    let account : Account := { id := "a1" }
    let sensor : Sensor := { id := "s1", secret := "k1", accountId := "a1" }
    let own := (((Directory.empty {}).loadAccounts 0 [account]).1.loadSensors 0 [sensor]).1
      |>.loadApiKeys 0 [{ key := "k1", accountId := "a1" }] |>.1
    let shared := ((own.loadAccounts 0 [account, { id := "a2", banned := true }]).1.loadSensors 0
      [sensor, { id := "s2", accountId := "a2" }]).1
      |>.setHandlers [{ name := "dash" }] |>.addRoute ⟨"s2", "dash"⟩ |>.2
    let m : Message :=
      { sensorId := "s1", stamp := default, content := .control "on" .device, apiKey := some "k1" }
    let r : Router := { settings := {}, limits := default, state := ⟨own, .empty {}⟩ }
    let r' : Router := r.withDirectory shared
    own.AgreeFor shared m ∧ (r.route 0 default m).1 = .ok [.published] ∧
      (r'.route 5 default m).1 = (r.route 0 default m).1 ∧
      ∃ a : Additions, r.state.queues.Gains (r.route 0 default m).2.state.queues a ∧
        r'.state.queues.Gains (r'.route 5 default m).2.state.queues a := by
  intro account sensor own shared m r r'
  have hown : own.lookup .sensor m.sensorId = some sensor := by decide +kernel
  have hfound : ∀ s, own.lookup .sensor m.sensorId = some s → s = sensor := fun s hs =>
    Option.some.inj (hs.symm.trans hown)
  have hagree : own.AgreeFor shared m := {
    sensor := by decide +kernel
    account := fun s hs => by rw [hfound s hs]; decide +kernel
    secret := fun s hs => by rw [hfound s hs]; decide +kernel
    presented := fun _ key hkey => by rw [← Option.some.inj hkey]; decide +kernel
    targets := fun _ => by decide +kernel }
  have hdecision : (r.route 0 default m).1 = .ok [.published] := by decide +kernel
  exact ⟨hagree, hdecision, r.route_isolated r' m rfl rfl hagree 0 5 default default⟩

end SensorRouter
