import SensorRouter.Outbound.Queues

/-!
Health: too deep a queue or a disconnected publisher is explained, and nothing else is wrong.
-/

namespace SensorRouter

open Json (Value)

structure HealthReport where
  explanations : List String
  deriving DecidableEq, Repr

namespace HealthReport

def healthy (r : HealthReport) : Bool :=
  r.explanations.isEmpty

/-- The explanations are left out when there are none. -/
def toValue (r : HealthReport) : Value :=
  .ofPresent [("healthy", some (.bool r.healthy)),
    ("explanations",
      if r.explanations.isEmpty then none else some (.array (r.explanations.map .string)))]

end HealthReport

namespace HealthLimits

/-- One limit for every queue. -/
def uniform (limit : Nat) : HealthLimits :=
  ⟨limit, limit, limit, limit⟩

def toValue (l : HealthLimits) : Value :=
  .object [("input", .nat l.input), ("public", .nat l.publication), ("live_data", .nat l.live),
    ("trigger", .nat l.trigger)]

/-- A depth is acceptable up to its limit. -/
def report (l : HealthLimits) (d : QueueDepths) (connected : Bool) : HealthReport :=
  let checks : List (Bool × String) := [
    (l.input < d.input, "Router input queue is out of bounds"),
    (l.publication < d.publication, "Public queue is out of bounds"),
    (l.live < d.live, "Live Data Service queue out of bounds"),
    (l.trigger < d.trigger, "Trigger Service queue out of bounds"),
    (connected = false, "Publisher is disconnected")]
  ⟨checks.filterMap fun c => if c.1 then some c.2 else none⟩

end HealthLimits

end SensorRouter
