import SensorRouter.Json.Record
import SensorRouter.Settings.Basic
import SensorRouter.Toml.Printer
import SensorRouter.Toml.Text

/-!
Settings as JSON records and as TOML texts. Every setting may be left out.
-/

namespace SensorRouter

open Json (Value Document Record)

/-- The notations that settings are read from; they differ in how a choice that carries nothing may be
written, and in whether an array for a record may be too long. -/
inductive SettingsSource where
  | json
  | toml
  deriving DecidableEq, Repr

def SettingsSource.nothing : SettingsSource → Document.Nothing
  | json => .null
  | toml => .emptyTable

def SettingsSource.read (source : SettingsSource) (declared : List Json.FieldName) (d : Document) :
    Option Record :=
  Record.read declared d (source = .toml)

namespace RoutingSettings

def ofDocument (source : SettingsSource) (d : Document) : Option RoutingSettings := do
  let r ← source.read ["dequeue_batch_size", "idle_interval_ms", "max_data_points",
    "public_republish", "actuator_topic_template", "public_topic_template",
    "command_channel_capacity"] d
  let base : RoutingSettings := {}
  return {
    batchSize := ← r.withDefault "dequeue_batch_size" base.batchSize Document.nat?
    idleMillis := ← r.withDefault "idle_interval_ms" base.idleMillis Document.nat?
    maxDataPoints := ← r.withDefault "max_data_points" base.maxDataPoints Document.nat?
    publicRepublish := ← r.withDefault "public_republish" base.publicRepublish Document.bool?
    actuatorTemplate :=
      ← r.withDefault "actuator_topic_template" base.actuatorTemplate Document.string?
    publicTemplate := ← r.withDefault "public_topic_template" base.publicTemplate Document.string?
    commandCapacity :=
      ← r.withDefault "command_channel_capacity" base.commandCapacity Document.nat? }

def entries (s : RoutingSettings) : List (String × Toml.Scalar) :=
  [("dequeue_batch_size", .natural s.batchSize),
    ("idle_interval_ms", .natural s.idleMillis),
    ("max_data_points", .natural s.maxDataPoints),
    ("public_republish", .boolean s.publicRepublish),
    ("actuator_topic_template", .string s.actuatorTemplate),
    ("public_topic_template", .string s.publicTemplate),
    ("command_channel_capacity", .natural s.commandCapacity)]

end RoutingSettings

namespace QueueSettings

def ofDocument (source : SettingsSource) (d : Document) : Option QueueSettings := do
  let r ← source.read ["flush_interval_ms", "shutdown_grace_ms", "trigger_topic_template",
    "live_data_topic_template", "measurement_storage_topic", "message_storage_topic",
    "network_event_topic"] d
  let base : QueueSettings := {}
  return {
    flushMillis := ← r.withDefault "flush_interval_ms" base.flushMillis Document.nat?
    graceMillis := ← r.withDefault "shutdown_grace_ms" base.graceMillis Document.nat?
    triggerTemplate :=
      ← r.withDefault "trigger_topic_template" base.triggerTemplate Document.string?
    liveTemplate := ← r.withDefault "live_data_topic_template" base.liveTemplate Document.string?
    measurementStorageTopic :=
      ← r.withDefault "measurement_storage_topic" base.measurementStorageTopic Document.string?
    messageStorageTopic :=
      ← r.withDefault "message_storage_topic" base.messageStorageTopic Document.string?
    eventTopic := ← r.withDefault "network_event_topic" base.eventTopic Document.string? }

def entries (s : QueueSettings) : List (String × Toml.Scalar) :=
  [("flush_interval_ms", .natural s.flushMillis),
    ("shutdown_grace_ms", .natural s.graceMillis),
    ("trigger_topic_template", .string s.triggerTemplate),
    ("live_data_topic_template", .string s.liveTemplate),
    ("measurement_storage_topic", .string s.measurementStorageTopic),
    ("message_storage_topic", .string s.messageStorageTopic),
    ("network_event_topic", .string s.eventTopic)]

end QueueSettings

namespace HealthSettings

def ofDocument (source : SettingsSource) (d : Document) : Option HealthSettings := do
  let r ← source.read ["default_queue_limit", "input_queue_limit", "public_queue_limit",
    "live_data_queue_limit", "trigger_queue_limit"] d
  let base : HealthSettings := {}
  let limit name := r.withDefault name none (Document.optional Document.nat?)
  return {
    defaultLimit := ← r.withDefault "default_queue_limit" base.defaultLimit Document.nat?
    inputLimit := ← limit "input_queue_limit"
    publicLimit := ← limit "public_queue_limit"
    liveLimit := ← limit "live_data_queue_limit"
    triggerLimit := ← limit "trigger_queue_limit" }

/-- All settings, with `none` for a limit that is not set. -/
def fields (s : HealthSettings) : List (String × Option Toml.Scalar) :=
  [("default_queue_limit", some (.natural s.defaultLimit)),
    ("input_queue_limit", s.inputLimit.map .natural),
    ("public_queue_limit", s.publicLimit.map .natural),
    ("live_data_queue_limit", s.liveLimit.map .natural),
    ("trigger_queue_limit", s.triggerLimit.map .natural)]

def entries (s : HealthSettings) : List (String × Toml.Scalar) :=
  s.fields.filterMap fun f => f.2.map (f.1, ·)

end HealthSettings

namespace CacheSettings

def ofDocument (source : SettingsSource) (d : Document) : Option CacheSettings := do
  let r ← source.read ["entry_timeout_secs", "sliding_expiration", "sweep_interval_ms",
    "presize"] d
  let base : CacheSettings := {}
  return {
    timeoutSeconds := ← r.withDefault "entry_timeout_secs" base.timeoutSeconds Document.nat?
    sliding := ← r.withDefault "sliding_expiration" base.sliding Document.bool?
    sweepMillis := ← r.withDefault "sweep_interval_ms" base.sweepMillis Document.nat?
    presize := ← r.withDefault "presize" base.presize Document.nat? }

def entries (s : CacheSettings) : List (String × Toml.Scalar) :=
  [("entry_timeout_secs", .natural s.timeoutSeconds),
    ("sliding_expiration", .boolean s.sliding),
    ("sweep_interval_ms", .natural s.sweepMillis),
    ("presize", .natural s.presize)]

end CacheSettings

namespace ReloadSettings

def ofDocument (source : SettingsSource) (d : Document) : Option ReloadSettings := do
  let r ← source.read ["initial_load", "enabled", "interval_secs"] d
  let base : ReloadSettings := {}
  return {
    initialLoad := ← r.withDefault "initial_load" base.initialLoad Document.bool?
    enabled := ← r.withDefault "enabled" base.enabled Document.bool?
    intervalSeconds := ← r.withDefault "interval_secs" base.intervalSeconds Document.nat? }

def entries (s : ReloadSettings) : List (String × Toml.Scalar) :=
  [("initial_load", .boolean s.initialLoad),
    ("enabled", .boolean s.enabled),
    ("interval_secs", .natural s.intervalSeconds)]

end ReloadSettings

namespace ServerSettings

def ofDocument (source : SettingsSource) (d : Document) : Option ServerSettings := do
  let r ← source.read ["listen"] d
  let base : ServerSettings := {}
  return { listen := ← r.withDefault "listen" base.listen Document.string? }

def entries (s : ServerSettings) : List (String × Toml.Scalar) :=
  [("listen", .string s.listen)]

end ServerSettings

namespace PublisherKind

def name : PublisherKind → String
  | log => "log"
  | http => "http"

def ofName? (s : String) : Option PublisherKind :=
  [log, http].find? fun k => k.name = s

end PublisherKind

namespace PublisherSettings

def ofDocument (source : SettingsSource) (d : Document) : Option PublisherSettings := do
  let r ← source.read ["kind", "base_url", "timeout_ms", "reconnect_after_ms"] d
  let base : PublisherSettings := {}
  return {
    kind := ← r.withDefault "kind" base.kind fun d =>
      (d.choice? source.nothing).bind PublisherKind.ofName?
    baseUrl := ← r.withDefault "base_url" none (Document.optional Document.string?)
    timeoutMillis := ← r.withDefault "timeout_ms" base.timeoutMillis Document.nat?
    reconnectMillis := ← r.withDefault "reconnect_after_ms" base.reconnectMillis Document.nat? }

def entries (s : PublisherSettings) : List (String × Toml.Scalar) :=
  [("kind", .string s.kind.name)] ++ (s.baseUrl.map fun u => ("base_url", .string u)).toList ++
    [("timeout_ms", .natural s.timeoutMillis), ("reconnect_after_ms", .natural s.reconnectMillis)]

end PublisherSettings

namespace Settings

def ofDocument (source : SettingsSource) (d : Document) : Option Settings := do
  let r ← source.read ["routing", "queues", "health", "cache", "reload", "server", "publisher"] d
  return {
    routing := ← r.withDefault "routing" {} (RoutingSettings.ofDocument source)
    queues := ← r.withDefault "queues" {} (QueueSettings.ofDocument source)
    health := ← r.withDefault "health" {} (HealthSettings.ofDocument source)
    cache := ← r.withDefault "cache" {} (CacheSettings.ofDocument source)
    reload := ← r.withDefault "reload" {} (ReloadSettings.ofDocument source)
    server := ← r.withDefault "server" {} (ServerSettings.ofDocument source)
    publisher := ← r.withDefault "publisher" {} (PublisherSettings.ofDocument source) }

def sections (s : Settings) : List Toml.Section :=
  [("routing", s.routing.entries), ("queues", s.queues.entries), ("health", s.health.entries),
    ("cache", s.cache.entries), ("reload", s.reload.entries), ("server", s.server.entries),
    ("publisher", s.publisher.entries)]

/-- The settings as a TOML text. Numbers beyond 63 bits have no such text. -/
def toToml? (s : Settings) : Option String :=
  Toml.sectionsText? s.sections

def scalarValue : Toml.Scalar → Value
  | .string s => .string s
  | .natural n => .nat n
  | .boolean b => .bool b

/-- All settings, with `null` for a limit that is not set. -/
def toValue (s : Settings) : Value :=
  let record (entries : List (String × Toml.Scalar)) : Value :=
    .ofFields (entries.map fun e => (e.1, scalarValue e.2))
  .ofFields ((s.sections.map fun e => (e.1, record e.2)) ++
    [("health", .ofFields (s.health.fields.map fun f => (f.1, (f.2.map scalarValue).getD .null)))])

end Settings

namespace Toml.Node

mutual

/-- A tree as a document. A date reads like a record without known fields, a fraction like a number
that is no integer. -/
def toDocument : Node → Document
  | .string s => .string (some s)
  | .integer i => .number (some (.integer i))
  | .fraction => .number (some (.double (.zero false)))
  | .boolean b => .bool b
  | .date => .object [(some "", .null)]
  | .array items => .array (itemDocuments items)
  | .table _ fields => .object (fieldDocuments fields)
  | .tables items => .array (itemDocuments items).reverse
termination_by structural n => n

def itemDocuments : List Node → List Document
  | [] => []
  | n :: rest => n.toDocument :: itemDocuments rest
termination_by structural ns => ns

def fieldDocuments : List (String × Node) → List (Option String × Document)
  | [] => []
  | (name, n) :: rest => (some name, n.toDocument) :: fieldDocuments rest
termination_by structural fs => fs

end

end Toml.Node

/-- Settings of a TOML text. -/
def Settings.ofToml (text : String) : Option Settings :=
  (Toml.Node.ofText text).bind fun n => Settings.ofDocument .toml n.toDocument

/-- Why a settings file gives no settings. -/
inductive SettingsFileError where
  | unreadable (path : String)
  | malformed (path : String)
  deriving DecidableEq, Repr

def SettingsFileError.message : SettingsFileError → String
  | .unreadable path => "Failed to read " ++ path
  | .malformed path => "Failed to parse " ++ path

/-- The settings of a file with the given contents, which are absent if there is no file. -/
def Settings.ofFile (path : String) (contents : Option ByteArray) :
    Except SettingsFileError Settings :=
  match contents.bind String.fromUTF8? with
  | none => .error (.unreadable path)
  | some text =>
    match Settings.ofToml text with
    | some s => .ok s
    | none => .error (.malformed path)

end SensorRouter
