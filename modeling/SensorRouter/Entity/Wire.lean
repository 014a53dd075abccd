import SensorRouter.Entity.Basic
import SensorRouter.Json.Record

/-!
Entities as JSON records.
-/

namespace SensorRouter

open Json (Value Document Record FieldName)

namespace SensorTrigger

def ofDocument (d : Document) : Option SensorTrigger := do
  let r ← Record.read ["has_actions", "is_text_trigger"] d
  return {
    hasActions := ← r.withDefault "has_actions" false Document.bool?
    isTextTrigger := ← r.withDefault "is_text_trigger" false Document.bool? }

def toValue (t : SensorTrigger) : Value :=
  .object [("has_actions", .bool t.hasActions), ("is_text_trigger", .bool t.isTextTrigger)]

def listToValue (ts : List SensorTrigger) : Value :=
  .array (ts.map toValue)

end SensorTrigger

namespace Sensor

def ofDocument (d : Document) : Option Sensor := do
  let r ← Record.read ["id", "secret", "account_id", "storage_enabled", "trigger_information"] d
  return {
    id := ← r.required "id" Document.string?
    secret := ← r.withDefault "secret" "" Document.string?
    accountId := ← r.required "account_id" Document.string?
    storageEnabled := ← r.withDefault "storage_enabled" false Document.bool?
    triggers := ← r.withDefault "trigger_information" none
      (Document.optional (Document.list? SensorTrigger.ofDocument)) }

def toValue (s : Sensor) : Value :=
  .ofPresent [
    ("id", some (.string s.id)),
    ("secret", some (.string s.secret)),
    ("account_id", some (.string s.accountId)),
    ("storage_enabled", some (.bool s.storageEnabled)),
    ("trigger_information", s.triggers.map SensorTrigger.listToValue)]

end Sensor

namespace Account

def ofDocument (d : Document) : Option Account := do
  let r ← Record.read ["id", "billing_lockout", "banned"] d
  return {
    id := ← r.required "id" Document.string?
    billingLockout := ← r.withDefault "billing_lockout" false Document.bool?
    banned := ← r.withDefault "banned" false Document.bool? }

def toValue (a : Account) : Value :=
  .object [("id", .string a.id), ("billing_lockout", .bool a.billingLockout),
    ("banned", .bool a.banned)]

end Account

namespace ApiKey

def ofDocument (d : Document) : Option ApiKey := do
  let r ← Record.read ["key", "account_id", "revoked", "read_only"] d
  return {
    key := ← r.required "key" Document.string?
    accountId := ← r.required "account_id" Document.string?
    revoked := ← r.withDefault "revoked" false Document.bool?
    readOnly := ← r.withDefault "read_only" false Document.bool? }

def toValue (k : ApiKey) : Value :=
  .object [("key", .string k.key), ("account_id", .string k.accountId),
    ("revoked", .bool k.revoked), ("read_only", .bool k.readOnly)]

end ApiKey

namespace TriggerRow

def ofDocument (d : Document) : Option TriggerRow := do
  let r ← Record.read ["sensor_id", "triggers"] d
  return {
    sensorId := ← r.required "sensor_id" Document.string?
    triggers := ← r.withDefault "triggers" [] (Document.list? SensorTrigger.ofDocument) }

def toValue (t : TriggerRow) : Value :=
  .object [("sensor_id", .string t.sensorId), ("triggers", SensorTrigger.listToValue t.triggers)]

end TriggerRow

namespace LiveRoute

/-- The fields, with the other spellings in use. -/
def fieldNames : List FieldName :=
  [⟨"sensor_id", ["SensorID", "sensorId", "sensor"]⟩, ⟨"target", ["Target"]⟩]

def ofDocument (d : Document) : Option LiveRoute := do
  let r ← Record.read fieldNames d
  return {
    sensorId := ← r.required "sensor_id" Document.string?
    target := ← r.required "target" Document.string? }

def toValue (l : LiveRoute) : Value :=
  .object [("sensor_id", .string l.sensorId), ("target", .string l.target)]

end LiveRoute

namespace LiveHandler

def ofDocument (d : Document) : Option LiveHandler := do
  let r ← Record.read ["name", "enabled"] d
  return {
    name := ← r.required "name" Document.string?
    enabled := ← r.withDefault "enabled" true Document.bool? }

def toValue (h : LiveHandler) : Value :=
  .object [("name", .string h.name), ("enabled", .bool h.enabled)]

end LiveHandler

end SensorRouter
