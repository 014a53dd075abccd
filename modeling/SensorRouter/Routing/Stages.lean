import SensorRouter.Outbound.Queues
import SensorRouter.Routing.Authorization
import SensorRouter.Routing.Pipeline
import SensorRouter.Routing.Validation

/-!
The stages that messages pass in the router: validation, authorization, four ways of fanning out
copies to the outbound queues, and metering.
-/

namespace SensorRouter

/-- What routing reads and writes. -/
structure RoutingState where
  directory : Directory
  queues : Queues

namespace RoutingStage

/-- The number of data points allowed where the settings say nothing. -/
def defaultDataPoints : Nat := 25

def validation (maxDataPoints : Nat) : Stage RoutingState where
  name := "validation"
  run t s :=
    match t.message.validate maxDataPoints with
    | .ok () => (.proceed, t.toFindings, s)
    | .error e => (.rejected (.invalid e), t.toFindings, s)

/-- Finds the sensor of the message, if it may send. -/
def authorization (now : Nat) : Stage RoutingState where
  name := "authorization"
  run t s :=
    let (result, directory) := s.directory.authorize now t.message.sensorId t.message.apiKey
    match result with
    | .ok sensor => (.proceed, { t.toFindings with sensor := some sensor }, { s with directory })
    | .error e => (.rejected (.unauthorized e), t.toFindings, { s with directory })

/-- Whether triggers for texts evaluate messages of a kind, if any triggers do. -/
def triggerKind? : MessageKind → Option Bool
  | .measurement => some false
  | .text => some true
  | .control => none

/-- A copy to trigger evaluation when the sensor has a trigger for such messages. -/
def trigger : Stage RoutingState where
  name := "trigger"
  run t s :=
    match t.sensor, triggerKind? t.message.kind with
    | some sensor, some text =>
      if sensor.hasTrigger text then
        (.proceed, t.record .triggered, { s with queues := s.queues.addTrigger t.message })
      else (.proceed, t.toFindings, s)
    | _, _ => (.proceed, t.toFindings, s)

/-- A copy to storage when the sensor asks for it, except of control messages. -/
def storage : Stage RoutingState where
  name := "storage"
  run t s :=
    if t.sensor.any (·.storageEnabled) && !t.message.isControl then
      (.proceed, t.record .stored, { s with queues := s.queues.addStorage t.message })
    else (.proceed, t.toFindings, s)

/-- One copy for each live data target of the message's sensor. -/
def liveData : Stage RoutingState where
  name := "live_data"
  run t s :=
    let targets := s.directory.live.targets t.message.sensorId
    if t.sensor.isNone || targets.isEmpty then (.proceed, t.toFindings, s)
    else
      (.proceed, t.record .liveData,
        { s with queues := targets.foldl (fun q target => q.addLive target t.message) s.queues })

/-- The topic on which a message goes out in public: that of the actuators for a control message to
a device, that of the republished messages for others if there are any. -/
def publicationTopic? (settings : RoutingSettings) (m : Message) : Option String :=
  match m.content with
  | .control _ .device => some (settings.actuatorTopic m.sensorId)
  | .control _ .liveData => none
  | _ => if settings.publicRepublish then some (settings.publicTopic m.kind m.sensorId) else none

def publication (settings : RoutingSettings) : Stage RoutingState where
  name := "public"
  run t s :=
    match t.sensor, publicationTopic? settings t.message with
    | some _, some topic =>
      (.proceed, t.record .published,
        { s with queues := s.queues.addPublication topic t.message })
    | _, _ => (.proceed, t.toFindings, s)

/-- The sensor to be metered: the one found, or else the one of the message's id. A message that is
not valid is not metered. -/
def meteredSensor? (now : Nat) (t : Transit) (d : Directory) : Option (Sensor × Directory) :=
  if t.rejection.any (·.isInvalid) then none
  else
    match t.sensor with
    | some sensor => some (sensor, d)
    | none => (d.findSensor now t.message.sensorId).toOption

/-- The event of a message of a sensor: whether it was dropped, then what was done. -/
def event (t : Transit) (sensor : Sensor) : NetworkEvent :=
  t.actions.foldl .record {
    sensorId := sensor.id
    accountId := sensor.accountId
    kind := t.message.kind
    actions := [if t.rejection.isSome then .dropped else .routed] }

/-- Metering: an event for every message whose sensor is known, also for a rejected one. -/
def metering (now : Nat) : Stage RoutingState where
  name := "network_event"
  isBookkeeping := true
  run t s :=
    match meteredSensor? now t s.directory with
    | some (sensor, directory) =>
      (.proceed, t.toFindings, { directory, queues := s.queues.addEvent (event t sensor) })
    | none => (.proceed, t.toFindings, s)

/-- All stages in order. -/
def standard (settings : RoutingSettings) (now : Nat) : List (Stage RoutingState) :=
  [validation settings.maxDataPoints, authorization now, trigger, storage, liveData,
    publication settings, metering now]

end RoutingStage

end SensorRouter
