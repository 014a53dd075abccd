import SensorRouter.Expiry.Cache
import SensorRouter.SocketAddress

/-!
Settings of the router, their defaults, and the rules that settings must meet to run with.
-/

namespace SensorRouter

structure RoutingSettings where
  /-- Messages taken from the input queue in one pass. -/
  batchSize : Nat := 1000
  /-- Pause between passes while the input queue is empty. -/
  idleMillis : Nat := 25
  /-- Measurements with more data points are rejected. -/
  maxDataPoints : Nat := 25
  /-- Whether measurements and text messages are published again on the public topic. -/
  publicRepublish : Bool := false
  actuatorTemplate : String := "sensate/actuators/$id"
  publicTemplate : String := "sensate/public/$type/$id"
  commandCapacity : Nat := 1024
  deriving DecidableEq, Repr, Inhabited

structure QueueSettings where
  flushMillis : Nat := 1000
  /-- Bound on the last flush. -/
  graceMillis : Nat := 5000
  triggerTemplate : String := "sensate/trigger/$type"
  liveTemplate : String := "sensate/live/$type/$target"
  measurementStorageTopic : String := "sensate/storage/measurements"
  messageStorageTopic : String := "sensate/storage/messages"
  eventTopic : String := "sensate/network/events"
  deriving DecidableEq, Repr, Inhabited

/-- Greatest acceptable depth of each watched queue. -/
structure HealthLimits where
  input : Nat
  publication : Nat
  live : Nat
  trigger : Nat
  deriving DecidableEq, Repr, Inhabited

structure HealthSettings where
  defaultLimit : Nat := 10000
  inputLimit : Option Nat := none
  publicLimit : Option Nat := none
  liveLimit : Option Nat := none
  triggerLimit : Option Nat := none
  deriving DecidableEq, Repr, Inhabited

def HealthSettings.limits (s : HealthSettings) : HealthLimits where
  input := s.inputLimit.getD s.defaultLimit
  publication := s.publicLimit.getD s.defaultLimit
  live := s.liveLimit.getD s.defaultLimit
  trigger := s.triggerLimit.getD s.defaultLimit

structure CacheSettings where
  /-- Seconds that an entry may be idle; 0 keeps entries until the next reload. -/
  timeoutSeconds : Nat := 0
  sliding : Bool := true
  sweepMillis : Nat := 60000
  presize : Nat := 1024
  deriving DecidableEq, Repr, Inhabited

/-- The timeout of entries in nanoseconds, none for ever. -/
def CacheSettings.timeout (s : CacheSettings) : Option Nat :=
  if 0 < s.timeoutSeconds then some (s.timeoutSeconds * 1000000000) else none

def CacheSettings.options (s : CacheSettings) : CacheOptions where
  timeout := s.timeout
  sliding := s.sliding
  capacity := none
  presize := s.presize

structure ReloadSettings where
  /-- Whether the index is filled before routing starts. -/
  initialLoad : Bool := true
  /-- Whether the index is reloaded again and again. -/
  enabled : Bool := false
  intervalSeconds : Nat := 300
  deriving DecidableEq, Repr, Inhabited

structure ServerSettings where
  listen : String := "127.0.0.1:8080"
  deriving DecidableEq, Repr, Inhabited

inductive PublisherKind where
  | log
  | http
  deriving DecidableEq, Repr, Inhabited

structure PublisherSettings where
  kind : PublisherKind := .log
  baseUrl : Option String := none
  timeoutMillis : Nat := 5000
  /-- How long a failed request marks the publisher as disconnected. -/
  reconnectMillis : Nat := 30000
  deriving DecidableEq, Repr, Inhabited

structure Settings where
  routing : RoutingSettings := {}
  queues : QueueSettings := {}
  health : HealthSettings := {}
  cache : CacheSettings := {}
  reload : ReloadSettings := {}
  server : ServerSettings := {}
  publisher : PublisherSettings := {}
  deriving DecidableEq, Repr, Inhabited

/-- Why the router cannot run with settings. -/
inductive SettingsError where
  | mustBePositive (setting : String)
  | reloadIntervalZero
  | baseUrlMissing
  | listenAddress (text : String)
  deriving DecidableEq, Repr

def SettingsError.message : SettingsError → String
  | .mustBePositive setting => setting ++ " must be greater than 0"
  | .reloadIntervalZero =>
    "reload.interval_secs must be greater than 0 when reload is enabled"
  | .baseUrlMissing => "publisher.base_url is required for the http publisher"
  | .listenAddress text => "Invalid listen address '" ++ text ++ "'"

namespace Settings

def listenAddress (s : Settings) : Except SettingsError SocketAddress :=
  match SocketAddress.ofText s.server.listen with
  | some a => .ok a
  | none => .error (.listenAddress s.server.listen)

/-- The first rule that the settings break. -/
def validate (s : Settings) : Except SettingsError Unit := do
  if s.routing.batchSize = 0 then throw (.mustBePositive "routing.dequeue_batch_size")
  if s.routing.commandCapacity = 0 then throw (.mustBePositive "routing.command_channel_capacity")
  if s.queues.flushMillis = 0 then throw (.mustBePositive "queues.flush_interval_ms")
  if s.cache.sweepMillis = 0 then throw (.mustBePositive "cache.sweep_interval_ms")
  if s.reload.enabled && s.reload.intervalSeconds = 0 then throw .reloadIntervalZero
  if s.publisher.kind = .http && s.publisher.baseUrl.isNone then throw .baseUrlMissing
  discard s.listenAddress

end Settings

end SensorRouter
