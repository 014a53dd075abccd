import SensorRouter.Entity.Wire
import SensorRouter.Repository.Basic

/-!
A repository held in memory, and the JSON seed that it can be read from.
-/

namespace SensorRouter

open Json (Value Document Record)

/-- Contents of a repository. Lookups in it never fail, and an entity is kept under its own id. -/
structure Registry where
  accounts : Dict Account := ∅
  apiKeys : Dict ApiKey := ∅
  sensors : Dict Sensor := ∅
  triggers : Dict (List SensorTrigger) := ∅
  liveHandlers : List LiveHandler := []
  liveRoutes : List LiveRoute := []
  accounts_keyed : accounts.Keyed Account.id := by exact Dict.keyed_empty _
  apiKeys_keyed : apiKeys.Keyed ApiKey.key := by exact Dict.keyed_empty _
  sensors_keyed : sensors.Keyed Sensor.id := by exact Dict.keyed_empty _

namespace Registry

def empty : Registry := {}

instance : Inhabited Registry := ⟨empty⟩

def putAccount (r : Registry) (a : Account) : Registry :=
  { r with accounts := r.accounts.insert a.id a, accounts_keyed := r.accounts_keyed.insert a }

def putApiKey (r : Registry) (k : ApiKey) : Registry :=
  { r with apiKeys := r.apiKeys.insert k.key k, apiKeys_keyed := r.apiKeys_keyed.insert k }

def putSensor (r : Registry) (s : Sensor) : Registry :=
  { r with sensors := r.sensors.insert s.id s, sensors_keyed := r.sensors_keyed.insert s }

def removeAccount (r : Registry) (id : String) : Registry :=
  { r with accounts := r.accounts.erase id, accounts_keyed := r.accounts_keyed.erase id }

def removeApiKey (r : Registry) (key : String) : Registry :=
  { r with apiKeys := r.apiKeys.erase key, apiKeys_keyed := r.apiKeys_keyed.erase key }

def removeSensor (r : Registry) (id : String) : Registry :=
  { r with sensors := r.sensors.erase id, sensors_keyed := r.sensors_keyed.erase id }

def setTriggers (r : Registry) (sensorId : String) (triggers : List SensorTrigger) : Registry :=
  { r with triggers := r.triggers.insert sensorId triggers }

def setLiveHandlers (r : Registry) (liveHandlers : List LiveHandler) : Registry :=
  { r with liveHandlers }

def triggerRows (r : Registry) : List TriggerRow :=
  r.triggers.toList.map fun e => ⟨e.1, e.2⟩

def triggersFor (r : Registry) (sensorId : String) : List SensorTrigger :=
  (r.triggers.get? sensorId).getD []

def toRepository (r : Registry) : Repository where
  accounts := .ok r.accounts.values
  account id := .ok (r.accounts.get? id)
  apiKeys := .ok r.apiKeys.values
  apiKey key := .ok (r.apiKeys.get? key)
  sensors := .ok r.sensors.values
  sensor id := .ok (r.sensors.get? id)
  triggerRows := .ok r.triggerRows
  triggersFor id := .ok (r.triggersFor id)
  liveHandlers := .ok r.liveHandlers
  liveRoutes := .ok r.liveRoutes

/-- The registry of a seed: lists of entities, of which the last one under a key stays. -/
def ofDocument (d : Document) : Option Registry := do
  let r ← Record.read ["accounts", "api_keys", "sensors", "triggers", "live_data_handlers",
    "live_data_routes"] d
  let accounts ← r.withDefault "accounts" [] (Document.list? Account.ofDocument)
  let apiKeys ← r.withDefault "api_keys" [] (Document.list? ApiKey.ofDocument)
  let sensors ← r.withDefault "sensors" [] (Document.list? Sensor.ofDocument)
  let triggers ← r.withDefault "triggers" [] (Document.list? TriggerRow.ofDocument)
  return {
    accounts := .ofList (accounts.map fun a => (a.id, a))
    apiKeys := .ofList (apiKeys.map fun k => (k.key, k))
    sensors := .ofList (sensors.map fun s => (s.id, s))
    triggers := .ofList (triggers.map fun t => (t.sensorId, t.triggers))
    liveHandlers :=
      ← r.withDefault "live_data_handlers" [] (Document.list? LiveHandler.ofDocument)
    liveRoutes := ← r.withDefault "live_data_routes" [] (Document.list? LiveRoute.ofDocument)
    accounts_keyed := Dict.keyed_ofList _ _
    apiKeys_keyed := Dict.keyed_ofList _ _
    sensors_keyed := Dict.keyed_ofList _ _ }

end Registry

/-- Why a seed file gives no registry. -/
inductive SeedError where
  | unreadable (path : String)
  | malformed (path : String)
  deriving DecidableEq, Repr

def SeedError.message : SeedError → String
  | .unreadable path => "Failed to read " ++ path
  | .malformed path => "Failed to parse seed " ++ path

/-- The registry of a seed file with the given contents, which are absent if there is no file. -/
def Registry.ofFile (path : String) (contents : Option ByteArray) : Except SeedError Registry :=
  match contents.bind String.fromUTF8? with
  | none => .error (.unreadable path)
  | some text =>
    match (Document.ofText text).bind Registry.ofDocument with
    | some r => .ok r
    | none => .error (.malformed path)

end SensorRouter
