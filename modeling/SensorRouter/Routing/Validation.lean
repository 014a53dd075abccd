import SensorRouter.Message.Basic
import SensorRouter.Routing.Rejection

/-!
Validation: coordinates lie on the globe, and a measurement has no more data points than are allowed.
-/

namespace SensorRouter

/-- Both coordinates are in range. A device without a position is excused. -/
def Location.validate (l : Location) : Except ValidationError Unit :=
  if l.isUnset then .ok ()
  else if !l.latitude.within 90 then .error (.latitude l.latitude)
  else if !l.longitude.within 180 then .error (.longitude l.longitude)
  else .ok ()

namespace Message

/-- The number of data points, none in a message that is no measurement. -/
def dataPoints (m : Message) : Nat :=
  match m.content with
  | .measurement _ data _ => data.size
  | _ => 0

/-- The first rule that a message breaks. -/
def validate (m : Message) (maxDataPoints : Nat) : Except ValidationError Unit := do
  if let some l := m.location then l.validate
  if maxDataPoints < m.dataPoints then throw (.dataPoints m.dataPoints maxDataPoints)

end Message

end SensorRouter
