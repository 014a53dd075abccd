import SensorRouter.Entity.Basic
import SensorRouter.Json.Value

/-!
Update commands: what they ask of the index, and why a written one is refused.
-/

namespace SensorRouter

/-- The kinds of entity that the index keeps. -/
inductive EntityKind where
  | account
  | sensor
  | apiKey
  deriving DecidableEq, Repr

/-- The sensors that one live data target is to have from now on. -/
structure SyncSet where
  target : String
  sensors : List String
  deriving DecidableEq, Repr

inductive Command where
  /-- Forgets an entity. -/
  | flush (kind : EntityKind) (id : String)
  /-- Loads an entity from the repository, or forgets it when the repository has none. -/
  | add (kind : EntityKind) (id : String)
  /-- Forgets an account that is gone. -/
  | deleteAccount (id : String)
  | addRoute (route : LiveRoute)
  | removeRoute (route : LiveRoute)
  /-- Replaces the routes of each named target. -/
  | sync (sets : List SyncSet)
  deriving DecidableEq, Repr

/-- The commands by name. -/
inductive CommandName where
  | flushUser
  | flushSensor
  | flushKey
  | addUser
  | addSensor
  | addKey
  | deleteUser
  | addLiveDataSensor
  | removeLiveDataSensor
  | syncLiveDataSensors
  deriving DecidableEq, Repr

namespace CommandName

def text : CommandName → String
  | flushUser => "FlushUser"
  | flushSensor => "FlushSensor"
  | flushKey => "FlushKey"
  | addUser => "AddUser"
  | addSensor => "AddSensor"
  | addKey => "AddKey"
  | deleteUser => "DeleteUser"
  | addLiveDataSensor => "AddLiveDataSensor"
  | removeLiveDataSensor => "RemoveLiveDataSensor"
  | syncLiveDataSensors => "SyncLiveDataSensors"

def all : List CommandName :=
  [flushUser, flushSensor, flushKey, addUser, addSensor, addKey, deleteUser, addLiveDataSensor,
    removeLiveDataSensor, syncLiveDataSensors]

def ofText? (s : String) : Option CommandName :=
  all.find? fun n => n.text = s

theorem ofText?_text (n : CommandName) : ofText? n.text = some n := by
  cases n <;> decide

end CommandName

def Command.name : Command → CommandName
  | .flush .account _ => .flushUser
  | .flush .sensor _ => .flushSensor
  | .flush .apiKey _ => .flushKey
  | .add .account _ => .addUser
  | .add .sensor _ => .addSensor
  | .add .apiKey _ => .addKey
  | .deleteAccount _ => .deleteUser
  | .addRoute _ => .addLiveDataSensor
  | .removeRoute _ => .removeLiveDataSensor
  | .sync _ => .syncLiveDataSensors

/-- What is wrong with the arguments of a command. -/
inductive ArgumentError where
  | emptyIdentifier
  | notIdentifier (found : Json.Value)
  | noTarget
  | emptyTarget
  /-- The document does not have the expected form. -/
  | unreadable

/-- Why a written command is refused. -/
inductive CommandError where
  | malformed
  | unknownCommand (name : String)
  | invalidArguments (command : CommandName) (reason : ArgumentError)

end SensorRouter
