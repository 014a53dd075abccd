import SensorRouter.Proofs.Outbound.Handover
import SensorRouter.Proofs.Routing.Isolation

/-!
Credentials show in what routing sends only through the decision. The key that a message presents,
the secret of its sensor and the API keys known decide whether the message is accepted. Once that is
settled, the records that go to the outbound queues are the same on the wire.
-/

namespace SensorRouter

/-- The message without the key that it presents. -/
def Message.withoutKey (m : Message) : Message :=
  { m with apiKey := none }

/-- The sensor without its secret. -/
def Sensor.withoutSecret (s : Sensor) : Sensor :=
  { s with secret := "" }

/-! ### Records on the wire -/

/-- What goes out for records of a queue: for each its topic, and its JSON text in bytes. -/
def QueueName.wire (name : QueueName) (items : List (Outbound name.Record)) :
    List (String × ByteArray) :=
  items.map fun item => (item.topic, (name.toValue item.record).text.toUTF8)

namespace Additions

/-- The records for a queue. -/
def on (a : Additions) : (name : QueueName) → List (Outbound name.Record)
  | .trigger => a.trigger
  | .storage => a.storage
  | .live => a.live
  | .publication => a.publication
  | .events => a.events

/-- Copies of messages that present no key. -/
def redact (copies : List (Outbound Message)) : List (Outbound Message) :=
  copies.map fun copy => { copy with record := copy.record.withoutKey }

/-- The records, with copies of messages that present no key. -/
def withoutKeys (a : Additions) : Additions where
  trigger := redact a.trigger
  storage := redact a.storage
  live := redact a.live
  publication := redact a.publication
  events := a.events

/-- The key that a message presents is not on the wire. -/
theorem wire_withoutKeys (a : Additions) (name : QueueName) :
    name.wire (a.withoutKeys.on name) = name.wire (a.on name) := by
  cases name with
  | events => rfl
  | trigger | storage | live | publication => exact List.map_map ..

theorem withoutKeys_events {a a' : Additions} (h : a'.withoutKeys = a.withoutKeys)
    (events : List (Outbound NetworkEvent)) :
    { a' with events }.withoutKeys = { a with events }.withoutKeys :=
  congrArg (fun b : Additions => { b with events }) h

theorem actions_withoutKeys (a : Additions) : a.withoutKeys.actions = a.actions := by
  simp only [actions, withoutKeys, redact, List.map_eq_nil_iff]

end Additions

theorem Queues.Gains.waiting {before after : Queues} {a : Additions} (h : before.Gains after a)
    (name : QueueName) : after.waiting name = before.waiting name ++ a.on name := by
  cases name with
  | trigger => exact h.trigger
  | storage => exact h.storage
  | live => exact h.live
  | publication => exact h.publication
  | events => exact h.events

/-! ### Rulings without credentials -/

namespace Message

variable {m m' : Message} {s s' : Sensor}

theorem triggerCopies_withoutKey (m : Message) (q : QueueSettings) (s : Sensor) :
    m.withoutKey.triggerCopies q s.withoutSecret = Additions.redact (m.triggerCopies q s) := by
  rw [triggerCopies, triggerCopies, apply_ite Additions.redact]
  rfl

theorem storageCopies_withoutKey (m : Message) (q : QueueSettings) (s : Sensor) :
    m.withoutKey.storageCopies q s.withoutSecret = Additions.redact (m.storageCopies q s) := by
  rw [storageCopies, storageCopies, apply_ite Additions.redact]
  obtain ⟨_, _, _ | _ | _, _⟩ := m <;> rfl

theorem liveCopies_withoutKey (m : Message) (q : QueueSettings) (targets : List String) :
    m.withoutKey.liveCopies q targets = Additions.redact (m.liveCopies q targets) := by
  rw [liveCopies, liveCopies, Additions.redact, List.map_map]
  rfl

theorem publicCopies_withoutKey (m : Message) (settings : RoutingSettings) :
    m.withoutKey.publicCopies settings = Additions.redact (m.publicCopies settings) := by
  rw [RoutingStage.publicCopies_eq, RoutingStage.publicCopies_eq, Additions.redact, List.map_map]
  rfl

/-- The key of a message and the secret of its sensor make no difference to its copies. -/
theorem copies_withoutKey (m : Message) (settings : RoutingSettings) (q : QueueSettings)
    (targets : List String) (s : Sensor) :
    m.withoutKey.copies settings q targets s.withoutSecret =
      (m.copies settings q targets s).withoutKeys := by
  rw [copies, triggerCopies_withoutKey, storageCopies_withoutKey, liveCopies_withoutKey,
    publicCopies_withoutKey]
  rfl

theorem copies_redacted (hm : m'.withoutKey = m.withoutKey)
    (hs : s'.withoutSecret = s.withoutSecret) (settings : RoutingSettings) (q : QueueSettings)
    (targets : List String) :
    (m'.copies settings q targets s').withoutKeys =
      (m.copies settings q targets s).withoutKeys := by
  rw [← copies_withoutKey, ← copies_withoutKey, hm, hs]

/-- Nor do they make a difference to the event, which does not tell why a message was dropped. -/
theorem eventOf_redacted (hm : m'.withoutKey = m.withoutKey)
    (hs : s'.withoutSecret = s.withoutSecret)
    {decision decision' : Except Rejection (List EventAction)}
    (hdecision : decision'.toOption = decision.toOption) :
    m'.eventOf s' decision' = m.eventOf s decision := by
  change m'.withoutKey.eventOf s'.withoutSecret decision' = _
  rw [hm, hs]
  rcases decision with _ | actions <;> rcases decision' with _ | actions'
  · rfl
  · exact nomatch hdecision
  · exact nomatch hdecision
  · cases hdecision
    rfl

theorem validate_redacted (hm : m'.withoutKey = m.withoutKey) (maxDataPoints : Nat) :
    m'.validate maxDataPoints = m.validate maxDataPoints := by
  change m'.withoutKey.validate maxDataPoints = _
  rw [hm]
  rfl

/-- If authorization finds the same sensor up to its secret, or fails for any reason, the records of
the ruling are the same up to the keys in copies of the message. -/
theorem ruling_redacted (hm : m'.withoutKey = m.withoutKey) (settings : RoutingSettings)
    (q : QueueSettings) (targets : List String) {known known' : Option Sensor}
    (hknown : known'.map Sensor.withoutSecret = known.map Sensor.withoutSecret)
    {found found' : Except AuthorizationError Sensor}
    (hfound : m.validate settings.maxDataPoints = .ok () →
      found'.toOption.map Sensor.withoutSecret = found.toOption.map Sensor.withoutSecret) :
    (m'.ruling settings q known' found' targets).2.withoutKeys =
      (m.ruling settings q known found targets).2.withoutKeys := by
  simp only [ruling, validate_redacted hm]
  rcases hvalid : m.validate settings.maxDataPoints with e | ⟨⟩
  · rfl
  have hsame := hfound hvalid
  rcases found with e | s <;> rcases found' with e' | s'
  · -- both are rejected: there is an event if the sensor is known
    rcases known with _ | s <;> rcases known' with _ | s'
    · rfl
    · cases hknown
    · cases hknown
    · have hevent : m'.eventOf s' (.error (.unauthorized e')) =
          m.eventOf s (.error (.unauthorized e)) :=
        eventOf_redacted hm (Option.some.inj hknown) rfl
      simp only [Option.toList_some, List.map_cons, List.map_nil, hevent]
  · cases hsame
  · cases hsame
  · -- both are accepted
    have hs : s'.withoutSecret = s.withoutSecret := Option.some.inj hsame
    have hcopies := copies_redacted hm hs settings q targets
    have hactions : (m'.copies settings q targets s').actions =
        (m.copies settings q targets s).actions := by
      rw [← Additions.actions_withoutKeys, hcopies, Additions.actions_withoutKeys]
    have hevent := eventOf_redacted hm hs
      (congrArg (fun actions => (Except.ok actions : Except Rejection _).toOption) hactions)
    simp only [hevent]
    exact Additions.withoutKeys_events hcopies _

theorem isOk_ruling (m : Message) (settings : RoutingSettings) (q : QueueSettings)
    (known : Option Sensor) (found : Except AuthorizationError Sensor) (targets : List String)
    (hvalid : m.validate settings.maxDataPoints = .ok ()) :
    (m.ruling settings q known found targets).1.isOk = found.isOk := by
  simp only [ruling, hvalid]
  rcases found with _ | s <;> rfl

end Message

namespace Directory

/-- Two directories know the sensor of a message up to its secret, or both do not, and have the same
live data targets for it. Their accounts and API keys may be any. -/
structure AgreeButSecret (d d' : Directory) (m : Message) : Prop where
  sensor : (d'.lookup .sensor m.sensorId).map Sensor.withoutSecret =
    (d.lookup .sensor m.sensorId).map Sensor.withoutSecret
  targets : d'.live.targets m.sensorId = d.live.targets m.sensorId

/-- What authorization finds is the sensor known. -/
theorem toOption_authorize (d : Directory) (now : Nat) (sensorId : String)
    (presented : Option String) :
    (d.authorize now sensorId presented).1.toOption =
      if (d.authorize now sensorId presented).1.isOk then d.lookup .sensor sensorId else none := by
  rcases hfound : (d.authorize now sensorId presented).1 with e | s
  · rfl
  · exact ((d.authorize_eq_ok_iff now sensorId presented s).1 hfound).sensor.symm

end Directory

namespace Router

/-- The ruling about a message from what the directory of the router says. -/
def ruling (r : Router) (now : Nat) (m : Message) :
    Except Rejection (List EventAction) × Additions :=
  let d := r.state.directory
  m.ruling r.settings r.state.queues.settings (d.lookup .sensor m.sensorId)
    (d.authorize now m.sensorId m.apiKey).1 (d.live.targets m.sensorId)

theorem route_ruled (r : Router) (now : Nat) (present : Instant) (m : Message) :
    (r.route now present m).1 = (r.ruling now m).1 ∧
      r.state.queues.Gains (r.route now present m).2.state.queues (r.ruling now m).2 :=
  RoutingStage.route_ruling r.settings now m r.state

/-- Two rulings that both accept or both reject have the same records up to the keys in copies. -/
theorem ruling_withoutKeys {r r' : Router} {m m' : Message} (hsettings : r'.settings = r.settings)
    (hqueues : r'.state.queues.settings = r.state.queues.settings)
    (hmessage : m'.withoutKey = m.withoutKey)
    (hagree : r.state.directory.AgreeButSecret r'.state.directory m) {now now' : Nat}
    (hdecision : (r'.ruling now' m').1.isOk = (r.ruling now m).1.isOk) :
    (r'.ruling now' m').2.withoutKeys = (r.ruling now m).2.withoutKeys := by
  have hid : m'.sensorId = m.sensorId := congrArg (·.sensorId) hmessage
  rw [ruling, ruling, hsettings, hqueues, hid, hagree.targets] at hdecision ⊢
  refine Message.ruling_redacted hmessage _ _ _ hagree.sensor fun hvalid => ?_
  have hvalid' := (Message.validate_redacted hmessage r.settings.maxDataPoints).trans hvalid
  rw [m.isOk_ruling _ _ _ _ _ hvalid, m'.isOk_ruling _ _ _ _ _ hvalid'] at hdecision
  rw [Directory.toOption_authorize, Directory.toOption_authorize, hdecision]
  split
  · exact hagree.sensor
  · rfl

/-- Two routers with the same settings route a message and one that presents another key, or none.
If both accept it, or both reject it, they add records to their queues that are the same on the wire,
in topics and bytes and order, whatever secret the sensor has and whatever API keys are known. -/
theorem route_credentials (r r' : Router) (m m' : Message) (hsettings : r'.settings = r.settings)
    (hqueues : r'.state.queues.settings = r.state.queues.settings)
    (hmessage : m'.withoutKey = m.withoutKey)
    (hagree : r.state.directory.AgreeButSecret r'.state.directory m) (now now' : Nat)
    (present present' : Instant)
    (hdecision : (r'.route now' present' m').1.isOk = (r.route now present m).1.isOk) :
    ∃ a a' : Additions, r.state.queues.Gains (r.route now present m).2.state.queues a ∧
      r'.state.queues.Gains (r'.route now' present' m').2.state.queues a' ∧
      ∀ name : QueueName, name.wire (a'.on name) = name.wire (a.on name) := by
  obtain ⟨hruled, hgains⟩ := r.route_ruled now present m
  obtain ⟨hruled', hgains'⟩ := r'.route_ruled now' present' m'
  refine ⟨_, _, hgains, hgains', fun name => ?_⟩
  rw [hruled, hruled'] at hdecision
  rw [← Additions.wire_withoutKeys, ← (r.ruling now m).2.wire_withoutKeys,
    ruling_withoutKeys hsettings hqueues hmessage hagree hdecision]

/-- The secret of a sensor has changed, and a message presents the new one; or it presents a key
that is not known, or has been revoked. -/
theorem route_credentials_changed :
    let sensor : Sensor := { id := "s1", secret := "k1", accountId := "a1", storageEnabled := true }
    let knowing (s : Sensor) (keys : List ApiKey) : Directory :=
      (((Directory.empty {}).loadAccounts 0 [{ id := "a1" }]).1.loadSensors 0 [s]).1
        |>.loadApiKeys 0 keys |>.1
    let before := knowing sensor [{ key := "k1", accountId := "a1" }]
    let after := knowing { sensor with secret := "k2" }
      [{ key := "k1", accountId := "a1", revoked := true }, { key := "k2", accountId := "a1" }]
    let sent (key : Option String) : Message :=
      { sensorId := "s1", stamp := default, content := .text none "on" none, apiKey := key }
    let r : Router := { settings := {}, limits := default, state := ⟨before, .empty {}⟩ }
    let r' : Router := r.withDirectory after
    before.AgreeButSecret after (sent none) ∧
      (r.route 0 default (sent none)).1 = .ok [.stored] ∧
      (r'.route 5 default (sent (some "k2"))).1 = .ok [.stored] ∧
      (∃ a a' : Additions,
        r.state.queues.Gains (r.route 0 default (sent none)).2.state.queues a ∧
          r'.state.queues.Gains (r'.route 5 default (sent (some "k2"))).2.state.queues a' ∧
          ∀ name : QueueName, name.wire (a'.on name) = name.wire (a.on name)) ∧
      (r.route 0 default (sent (some "k2"))).1 = .error (.unauthorized .unknownApiKey) ∧
      (r'.route 5 default (sent (some "k1"))).1 = .error (.unauthorized .apiKeyRevoked) ∧
      ∃ a a' : Additions,
        r.state.queues.Gains (r.route 0 default (sent (some "k2"))).2.state.queues a ∧
          r'.state.queues.Gains (r'.route 5 default (sent (some "k1"))).2.state.queues a' ∧
          ∀ name : QueueName, name.wire (a'.on name) = name.wire (a.on name) := by
  intro sensor knowing before after sent r r'
  have hagree : before.AgreeButSecret after (sent none) := ⟨by decide +kernel, by decide +kernel⟩
  have hstored : (r.route 0 default (sent none)).1 = .ok [.stored] := by decide +kernel
  have hstored' : (r'.route 5 default (sent (some "k2"))).1 = .ok [.stored] := by decide +kernel
  have hunknown : (r.route 0 default (sent (some "k2"))).1 =
      .error (.unauthorized .unknownApiKey) := by decide +kernel
  have hrevoked : (r'.route 5 default (sent (some "k1"))).1 =
      .error (.unauthorized .apiKeyRevoked) := by decide +kernel
  refine ⟨hagree, hstored, hstored', ?_, hunknown, hrevoked, ?_⟩
  · exact r.route_credentials r' (sent none) (sent (some "k2")) rfl rfl rfl hagree 0 5 default
      default (by rw [hstored, hstored'])
  · exact r.route_credentials r' (sent (some "k2")) (sent (some "k1")) rfl rfl rfl
      ⟨hagree.sensor, hagree.targets⟩ 0 5 default default (by rw [hunknown, hrevoked]; rfl)

end Router

end SensorRouter
