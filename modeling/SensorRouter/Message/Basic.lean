import SensorRouter.Dict
import SensorRouter.Instant.Basic
import SensorRouter.Number.Double

/-!
Messages of sensors: measurements, text messages and control messages.
-/

namespace SensorRouter

structure Location where
  latitude : Double
  longitude : Double
  deriving DecidableEq

/-- A device without a position reports exactly zero for both coordinates. -/
def Location.isUnset (l : Location) : Bool :=
  l.latitude.isZero && l.longitude.isZero

structure DataPoint where
  value : Double
  unit : Option String := none
  precision : Option Double := none
  accuracy : Option Double := none
  deriving DecidableEq

/-- Where a control message is delivered. -/
inductive Destination where
  /-- The device, over its actuator topic. -/
  | device
  /-- Consumers of live data only. -/
  | liveData
  deriving DecidableEq, Repr

inductive MessageKind where
  | measurement
  | text
  | control
  deriving DecidableEq, Repr

namespace MessageKind

/-- The name on the wire. -/
def name : MessageKind → String
  | measurement => "measurement"
  | text => "message"
  | control => "control_message"

/-- The plural that stands in topics. -/
def segment : MessageKind → String
  | measurement => "measurements"
  | text => "messages"
  | control => "control"

def all : List MessageKind :=
  [measurement, text, control]

def ofName? (s : String) : Option MessageKind :=
  all.find? fun k => k.name = s

end MessageKind

/-- What a message says. -/
inductive Content where
  | measurement (timestamp : Option Instant) (data : Dict DataPoint) (location : Option Location)
  | text (timestamp : Option Instant) (data : String) (location : Option Location)
  | control (data : String) (destination : Destination)
  deriving DecidableEq

structure Message where
  sensorId : String
  /-- When the platform took the message in. -/
  stamp : Instant
  content : Content
  apiKey : Option String := none
  deriving DecidableEq

namespace Message

def kind (m : Message) : MessageKind :=
  match m.content with
  | .measurement .. => .measurement
  | .text .. => .text
  | .control .. => .control

def location (m : Message) : Option Location :=
  match m.content with
  | .measurement _ _ l => l
  | .text _ _ l => l
  | .control .. => none

def isControl (m : Message) : Bool :=
  m.kind = .control

/-- The message as taken in at an instant. -/
def restamp (m : Message) (stamp : Instant) : Message :=
  { m with stamp }

end Message

end SensorRouter
