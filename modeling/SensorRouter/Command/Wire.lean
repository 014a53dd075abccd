import SensorRouter.Command.Basic
import SensorRouter.Entity.Wire
import SensorRouter.Json.Printer
import SensorRouter.Text.Blank

/-!
Written commands: an object with a command name and arguments. An identifier is given as a string;
the argument of a live data command is a JSON document, inline or as a string that holds its text.
-/

namespace SensorRouter

open Json (Value Document Record FieldName)

namespace ArgumentError

def message : ArgumentError → String
  | .emptyIdentifier => "empty identifier"
  | .notIdentifier found => "expected identifier string, got " ++ found.text
  | .noTarget => "no live-data target named"
  | .emptyTarget => "empty live-data target"
  | .unreadable => "unreadable document"

end ArgumentError

namespace CommandError

def message : CommandError → String
  | .malformed => "malformed command"
  | .unknownCommand name => "unknown command type: " ++ name
  | .invalidArguments command reason =>
    "invalid arguments for " ++ command.text ++ ": " ++ reason.message

end CommandError

namespace CommandName

def ofText (s : String) : Except CommandError CommandName :=
  match ofText? s with
  | some n => .ok n
  | none => .error (.unknownCommand s)

end CommandName

namespace SyncSet

def fieldNames : List FieldName :=
  [⟨"target", ["Target"]⟩, ⟨"sensors", ["Sensors"]⟩]

def ofDocument (d : Document) : Option SyncSet := do
  let r ← Record.read fieldNames d
  return {
    target := ← r.required "target" Document.string?
    sensors := ← r.withDefault "sensors" [] (Document.list? Document.string?) }

def toValue (s : SyncSet) : Value :=
  .ofFields [("target", .string s.target), ("sensors", .array (s.sensors.map .string))]

/-- The sets of a list of routes, by ascending target. -/
def ofRoutes (routes : List LiveRoute) : List SyncSet :=
  let grouped : Dict (List String) := routes.foldl
    (fun d r => d.insert r.target ((d.get? r.target).getD [] ++ [r.sensorId])) ∅
  grouped.toList.map fun e => ⟨e.1, e.2⟩

/-- The sets of a sync document: an object is one set, an array holds routes or else sets. -/
def listOfDocument (d : Document) : Option (List SyncSet) :=
  match d with
  | .object _ => (ofDocument d).map ([·])
  | .array _ =>
    match d.list? LiveRoute.ofDocument with
    | some routes => some (ofRoutes routes)
    | none => d.list? ofDocument
  | _ => none

end SyncSet

namespace Command

/-- The arguments of a command that takes an identifier, without blanks on either side. -/
def readIdentifier : Value → Except ArgumentError String
  | .string s =>
    let id := Text.trim s
    if id = "" then .error .emptyIdentifier else .ok id
  | v => .error (.notIdentifier v)

/-- The document given as arguments. -/
def argumentDocument : Value → Option Document
  | .string s => Document.ofText s
  | v => some (.ofValue v)

def readRoute (arguments : Value) : Except ArgumentError LiveRoute :=
  match (argumentDocument arguments).bind LiveRoute.ofDocument with
  | some r => .ok r
  | none => .error .unreadable

/-- The sets of a sync, all of whose parts must have a value and all of whose targets a name. -/
def readSync (arguments : Value) : Except ArgumentError (List SyncSet) :=
  match (argumentDocument arguments).bind fun d =>
      if d.value?.isNone then none else SyncSet.listOfDocument d with
  | none => .error .unreadable
  | some sets =>
    if sets.isEmpty then .error .noTarget
    else if sets.any fun s => s.target = "" then .error .emptyTarget
    else .ok sets

/-- The command with a name and arguments. -/
def ofArguments (name : CommandName) (arguments : Value) : Except ArgumentError Command :=
  match name with
  | .flushUser => (readIdentifier arguments).map (.flush .account)
  | .flushSensor => (readIdentifier arguments).map (.flush .sensor)
  | .flushKey => (readIdentifier arguments).map (.flush .apiKey)
  | .addUser => (readIdentifier arguments).map (.add .account)
  | .addSensor => (readIdentifier arguments).map (.add .sensor)
  | .addKey => (readIdentifier arguments).map (.add .apiKey)
  | .deleteUser => (readIdentifier arguments).map .deleteAccount
  | .addLiveDataSensor => (readRoute arguments).map .addRoute
  | .removeLiveDataSensor => (readRoute arguments).map .removeRoute
  | .syncLiveDataSensors => (readSync arguments).map .sync

/-- The name and arguments of a written command. -/
def split (d : Document) : Option (String × Value) := do
  let r ← Record.read ["cmd", "arguments"] d
  let name ← r.required "cmd" Document.string?
  let arguments ← r.withDefault "arguments" .null (Document.valueWithin (Document.greatestDepth - 1))
  return (name, arguments)

def ofDocument (d : Document) : Except CommandError Command := do
  let some (name, arguments) := split d | throw .malformed
  let name ← CommandName.ofText name
  (ofArguments name arguments).mapError (.invalidArguments name)

def ofBytes (bytes : ByteArray) : Except CommandError Command :=
  match Document.ofBytes bytes with
  | some d => ofDocument d
  | none => .error .malformed

end Command

end SensorRouter
