import SensorRouter.Command.Wire
import SensorRouter.Directory.Basic
import SensorRouter.Repository.Basic

/-!
Updates of a directory. A command changes one part of it, and a command that fails changes nothing. A
reload fetches and replaces one part after another, so one that fails keeps what it has replaced by
then.
-/

namespace SensorRouter

inductive UpdateError where
  | command (e : CommandError)
  | repository (e : RepositoryError)
  | cache (e : CacheError)

def UpdateError.message : UpdateError → String
  | .command e => e.message
  | .repository e => e.message
  | .cache e => "cache update failed: " ++ e.message

/-- What a reload put into the directory. -/
structure ReloadSummary where
  liveHandlers : Nat
  accounts : Nat
  sensors : Nat
  /-- Trigger rows whose sensor is not there. -/
  orphanTriggers : Nat
  apiKeys : Nat
  /-- Routes that were not there before. -/
  liveRoutes : Nat
  deriving DecidableEq, Repr

namespace TriggerRow

/-- The triggers of all rows of a sensor, if it has any row. -/
def collect? (rows : List TriggerRow) (sensorId : String) : Option (List SensorTrigger) :=
  match rows.filter fun r => r.sensorId = sensorId with
  | [] => none
  | own => some (own.flatMap (·.triggers))

/-- Gives the rows of each sensor to it, of sensors with one id to the first. -/
def attach (rows : List TriggerRow) : List Sensor → List Sensor
  | [] => []
  | s :: rest =>
    { s with triggers := collect? rows s.id <|> s.triggers } ::
      attach (rows.filter fun r => r.sensorId ≠ s.id) rest

/-- The number of rows whose sensor is not listed. -/
def orphans (rows : List TriggerRow) (sensors : List Sensor) : Nat :=
  rows.countP fun r => !sensors.any fun s => s.id = r.sensorId

end TriggerRow

namespace Directory

/-- Applies syncs in order. -/
def syncAll (d : Directory) (sets : List SyncSet) : Directory :=
  sets.foldl (fun d set => (d.sync set).2) d

/-- The sensor of an id as the repository has it, with the triggers kept for it if there are any. -/
def fetchSensor (repository : Repository) (id : String) :
    Except RepositoryError (Option Sensor) := do
  match ← repository.sensor id with
  | none => return none
  | some s =>
    let triggers ← repository.triggersFor id
    return some (if triggers.isEmpty then s else { s with triggers := some triggers })

/-- Puts what a repository answered for an id into the directory, or forgets the id when it had
nothing. -/
def settle {α : Type} (d : Directory) (kind : EntityKind) (id : String)
    (put : α → Except CacheError Directory) :
    Except RepositoryError (Option α) → Except UpdateError Directory
  | .error e => .error (.repository e)
  | .ok none => .ok (d.remove kind id).2
  | .ok (some a) => (put a).mapError .cache

def apply (d : Directory) (now : Nat) (repository : Repository) :
    Command → Except UpdateError Directory
  | .flush kind id => .ok (d.remove kind id).2
  | .deleteAccount id => .ok (d.remove .account id).2
  | .add .account id => d.settle .account id (d.putAccount now) (repository.account id)
  | .add .sensor id => d.settle .sensor id (d.putSensor now) (fetchSensor repository id)
  | .add .apiKey key => d.settle .apiKey key (d.putApiKey now) (repository.apiKey key)
  | .addRoute r => .ok (d.addRoute r).2
  | .removeRoute r => .ok (d.removeRoute r).2
  | .sync sets => .ok (d.syncAll sets)

/-- Replaces all entities and handlers by those of a repository, and adds its routes. -/
def reload (d : Directory) (now : Nat) (repository : Repository) :
    Directory × Except UpdateError ReloadSummary :=
  match repository.liveHandlers with
  | .error e => (d, .error (.repository e))
  | .ok handlers =>
  let d := d.setHandlers handlers
  match repository.accounts with
  | .error e => (d, .error (.repository e))
  | .ok accounts =>
  match d.loadAccounts now accounts with
  | (d, .error e) => (d, .error (.cache e))
  | (d, .ok accountCount) =>
  match repository.sensors, repository.triggerRows with
  | .error e, _ => (d, .error (.repository e))
  | .ok _, .error e => (d, .error (.repository e))
  | .ok sensors, .ok rows =>
  match d.loadSensors now (TriggerRow.attach rows sensors) with
  | (d, .error e) => (d, .error (.cache e))
  | (d, .ok sensorCount) =>
  match repository.apiKeys with
  | .error e => (d, .error (.repository e))
  | .ok apiKeys =>
  match d.loadApiKeys now apiKeys with
  | (d, .error e) => (d, .error (.cache e))
  | (d, .ok apiKeyCount) =>
  match repository.liveRoutes with
  | .error e => (d, .error (.repository e))
  | .ok routes =>
  let (routeCount, d) := d.addRoutes routes
  (d, .ok {
    liveHandlers := handlers.length
    accounts := accountCount
    sensors := sensorCount
    orphanTriggers := TriggerRow.orphans rows sensors
    apiKeys := apiKeyCount
    liveRoutes := routeCount })

end Directory

/-- Numbers of updates so far. -/
structure UpdateCounts where
  applied : Nat := 0
  failed : Nat := 0
  reloads : Nat := 0
  deriving DecidableEq, Repr, Inhabited

/-- A directory and the updates it has seen. -/
structure ManagedDirectory where
  directory : Directory
  counts : UpdateCounts := {}

namespace ManagedDirectory

/-- Reads and applies a written command, and counts how it went. -/
def handle (m : ManagedDirectory) (now : Nat) (repository : Repository) (payload : ByteArray) :
    ManagedDirectory × Except UpdateError Unit :=
  match (Command.ofBytes payload).mapError .command >>= m.directory.apply now repository with
  | .ok directory =>
    ({ directory, counts := { m.counts with applied := m.counts.applied + 1 } }, .ok ())
  | .error e => ({ m with counts := { m.counts with failed := m.counts.failed + 1 } }, .error e)

/-- Reloads the directory; only a reload that succeeds is counted. -/
def reload (m : ManagedDirectory) (now : Nat) (repository : Repository) :
    ManagedDirectory × Except UpdateError ReloadSummary :=
  match m.directory.reload now repository with
  | (directory, .ok summary) =>
    ({ directory, counts := { m.counts with reloads := m.counts.reloads + 1 } }, .ok summary)
  | (directory, .error e) => ({ m with directory }, .error e)

end ManagedDirectory

end SensorRouter
