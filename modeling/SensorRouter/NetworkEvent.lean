import SensorRouter.Message.Wire

/-!
Network events: for metering, one record of what was done with a message.
-/

namespace SensorRouter

open Json (Value Document Record)

/-- What was done with a message. -/
inductive EventAction where
  | routed
  | dropped
  | triggered
  | stored
  | liveData
  | published
  deriving DecidableEq, Repr, Inhabited

namespace EventAction

def name : EventAction → String
  | routed => "routed"
  | dropped => "dropped"
  | triggered => "triggered"
  | stored => "stored"
  | liveData => "live_data"
  | published => "published"

def all : List EventAction :=
  [routed, dropped, triggered, stored, liveData, published]

def ofName? (s : String) : Option EventAction :=
  all.find? fun a => a.name = s

def ofDocument (d : Document) : Option EventAction :=
  (d.choice? .null).bind ofName?

def toValue (a : EventAction) : Value :=
  .string a.name

end EventAction

structure NetworkEvent where
  sensorId : String
  accountId : String
  kind : MessageKind
  actions : List EventAction
  deriving DecidableEq, Repr

namespace NetworkEvent

/-- Appends an action that is not yet recorded. -/
def recordAction (actions : List EventAction) (a : EventAction) : List EventAction :=
  if a ∈ actions then actions else actions ++ [a]

def record (e : NetworkEvent) (a : EventAction) : NetworkEvent :=
  { e with actions := recordAction e.actions a }

def ofDocument (d : Document) : Option NetworkEvent := do
  let r ← Record.read ["sensor_id", "account_id", "message_kind", "actions"] d
  return {
    sensorId := ← r.required "sensor_id" Document.string?
    accountId := ← r.required "account_id" Document.string?
    kind := ← r.required "message_kind" fun d => (d.choice? .null).bind MessageKind.ofName?
    actions := ← r.required "actions" (Document.list? EventAction.ofDocument) }

def toValue (e : NetworkEvent) : Value :=
  .object [("sensor_id", .string e.sensorId), ("account_id", .string e.accountId),
    ("message_kind", .string e.kind.name), ("actions", .array (e.actions.map EventAction.toValue))]

end NetworkEvent

end SensorRouter
