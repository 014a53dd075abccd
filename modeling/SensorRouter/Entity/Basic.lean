/-!
What the router knows about senders: sensors with their triggers, the accounts that own them, and
API keys.
-/

namespace SensorRouter

/-- A trigger definition on a sensor. -/
structure SensorTrigger where
  hasActions : Bool := false
  isTextTrigger : Bool := false
  deriving DecidableEq, Repr, Inhabited

structure Sensor where
  id : String
  /-- The sensor's own API key, checked on every message. -/
  secret : String := ""
  accountId : String
  storageEnabled : Bool := false
  triggers : Option (List SensorTrigger) := none
  deriving DecidableEq, Repr, Inhabited

/-- Whether some trigger with actions is of the kind. -/
def Sensor.hasTrigger (s : Sensor) (text : Bool) : Bool :=
  (s.triggers.getD []).any fun t => t.hasActions && t.isTextTrigger == text

structure Account where
  id : String
  billingLockout : Bool := false
  banned : Bool := false
  deriving DecidableEq, Repr, Inhabited

def Account.isUsable (a : Account) : Bool :=
  !a.billingLockout && !a.banned

structure ApiKey where
  key : String
  accountId : String
  revoked : Bool := false
  readOnly : Bool := false
  deriving DecidableEq, Repr, Inhabited

/-- The triggers kept for a sensor id, which may belong to no sensor. -/
structure TriggerRow where
  sensorId : String
  triggers : List SensorTrigger := []
  deriving DecidableEq, Repr, Inhabited

/-- Binding of a sensor to a named consumer of live data. -/
structure LiveRoute where
  sensorId : String
  target : String
  deriving DecidableEq, Repr, Inhabited

/-- A named consumer of live data. -/
structure LiveHandler where
  name : String
  enabled : Bool := true
  deriving DecidableEq, Repr, Inhabited

end SensorRouter
