import SensorRouter.Instant.Text
import SensorRouter.Json.Record
import SensorRouter.Message.Basic

/-!
Messages as JSON records, told apart by their field `type`; in an array the type comes first. The fields
are read in any order and written as they are declared, without those that are absent. An API key is read
and never written.
-/

namespace SensorRouter

open Json (Value Document Record FieldName)

def Instant.ofDocument (d : Document) : Option Instant :=
  d.string?.bind Instant.ofText

def Instant.toValue (t : Instant) : Value :=
  .string t.text

namespace Location

def ofDocument (d : Document) : Option Location := do
  let r ← Record.read ["latitude", "longitude"] d
  return {
    latitude := ← r.required "latitude" Document.double?
    longitude := ← r.required "longitude" Document.double? }

def fields (l : Location) : List (String × Option Value) :=
  [("latitude", some (.double l.latitude)), ("longitude", some (.double l.longitude))]

def toValue (l : Location) : Value :=
  .ofPresent l.fields

end Location

namespace DataPoint

def ofDocument (d : Document) : Option DataPoint := do
  let r ← Record.read ["value", "unit", "precision", "accuracy"] d
  return {
    value := ← r.required "value" Document.double?
    unit := ← r.withDefault "unit" none (Document.optional Document.string?)
    precision := ← r.withDefault "precision" none (Document.optional Document.double?)
    accuracy := ← r.withDefault "accuracy" none (Document.optional Document.double?) }

def fields (p : DataPoint) : List (String × Option Value) :=
  [("value", some (.double p.value)), ("unit", p.unit.map .string),
    ("precision", p.precision.map .double), ("accuracy", p.accuracy.map .double)]

def toValue (p : DataPoint) : Value :=
  .ofPresent p.fields

end DataPoint

namespace Destination

def name : Destination → String
  | device => "mqtt"
  | liveData => "live_data"

def ofName? (s : String) : Option Destination :=
  [device, liveData].find? fun d => d.name = s

def ofDocument (d : Document) : Option Destination :=
  (d.choice? .nullOrEmptyObject).bind ofName?

end Destination

namespace Message

/-- The fields of a message of a kind, in the order of its array form. -/
def fieldNames : MessageKind → List FieldName
  | .measurement => ["sensor_id", "platform_timestamp", "timestamp", "data", "location", "api_key"]
  | .text => ["sensor_id", "platform_timestamp", "timestamp", "data", "location", "api_key"]
  | .control => ["sensor_id", "platform_timestamp", "data", "destination", "api_key"]

/-- The content of a message of a kind. -/
def readContent (kind : MessageKind) (r : Record) : Option Content :=
  let timestamp := r.withDefault "timestamp" none (Document.optional Instant.ofDocument)
  let location := r.withDefault "location" none (Document.optional Location.ofDocument)
  match kind with
  | .measurement => do
    let data ← r.withDefault "data" ∅ (Document.dict? DataPoint.ofDocument)
    return .measurement (← timestamp) data (← location)
  | .text => do
    return .text (← timestamp) (← r.required "data" Document.string?) (← location)
  | .control => do
    let destination ← r.withDefault "destination" .device Destination.ofDocument
    return .control (← r.required "data" Document.string?) destination

/-- The fields after the type. A message without a stamp was taken in `now`. -/
def ofFields (now : Instant) (kind : MessageKind) (d : Document) : Option Message := do
  let r ← Record.read (fieldNames kind) d
  return {
    sensorId := ← r.required "sensor_id" Document.string?
    stamp := ← r.withDefault "platform_timestamp" now Instant.ofDocument
    content := ← readContent kind r
    apiKey := ← r.withDefault "api_key" none (Document.optional Document.string?) }

/-- How the type of a message may be given. -/
inductive TypeForm where
  | byName
  | byNameOrIndex
  deriving DecidableEq, Repr

def readKind (form : TypeForm) (d : Document) : Option MessageKind :=
  match form, d with
  | _, .string s => s.bind MessageKind.ofName?
  | .byNameOrIndex, d => d.nat?.bind fun i => MessageKind.all[i]?
  | .byName, _ => none

/-- The type and the other fields of a message. -/
def splitType (form : TypeForm) : Document → Option (MessageKind × Document)
  | .array (d :: rest) => (readKind form d).map (·, .array rest)
  | .object fields =>
    match fields.filter fun f => f.1 = some "type" with
    | [(_, d)] =>
      (readKind form d).map (·, .object (fields.filter fun f => f.1 ≠ some "type"))
    | _ => none
  | _ => none

/-- A message none of whose parts is without a value. -/
def ofDocument (form : TypeForm) (now : Instant) (d : Document) : Option Message := do
  if d.value?.isNone then none
  let (kind, rest) ← splitType form d
  ofFields now kind rest

def ofBytes (now : Instant) (bytes : ByteArray) : Option Message :=
  (Document.ofBytes bytes).bind (ofDocument .byName now)

def fields (m : Message) : List (String × Option Value) :=
  [("type", some (.string m.kind.name)), ("sensor_id", some (.string m.sensorId)),
    ("platform_timestamp", some m.stamp.toValue)] ++
  match m.content with
  | .measurement timestamp data location =>
    [("timestamp", timestamp.map Instant.toValue),
      ("data", some (.ofDict (data.map DataPoint.toValue))),
      ("location", location.map Location.toValue)]
  | .text timestamp data location =>
    [("timestamp", timestamp.map Instant.toValue), ("data", some (.string data)),
      ("location", location.map Location.toValue)]
  | .control data destination =>
    [("data", some (.string data)), ("destination", some (.string destination.name))]

def toValue (m : Message) : Value :=
  .ofPresent m.fields

end Message

end SensorRouter
