import SensorRouter.Json.Value
import SensorRouter.Message.Basic
import SensorRouter.Routing.Pipeline

/-!
Statistics of a pipeline: how messages were decided, and how long they took from intake to decision.
-/

namespace SensorRouter

open Json (Value)

/-- Times are in microseconds. -/
structure RoutingStats where
  routed : Nat := 0
  invalid : Nat := 0
  unauthorized : Nat := 0
  latencySum : Nat := 0
  latencyMax : Nat := 0
  samples : Nat := 0
  deriving DecidableEq, Repr, Inhabited

namespace RoutingStats

/-- Notes how long a message took; a stamp in the future counts as no time. The sum has 64 bits. -/
def noteLatency (s : RoutingStats) (m : Message) (present : Instant) : RoutingStats :=
  let micros := m.stamp.microsUntil present
  { s with
    latencySum := (s.latencySum + micros) % 0x10000000000000000
    latencyMax := max s.latencyMax micros
    samples := s.samples + 1 }

def noteDecision {α : Type} (s : RoutingStats) : Except Rejection α → RoutingStats
  | .ok _ => { s with routed := s.routed + 1 }
  | .error (.invalid _) => { s with invalid := s.invalid + 1 }
  | .error (.unauthorized _) => { s with unauthorized := s.unauthorized + 1 }

def averageMillis (s : RoutingStats) : Double :=
  if s.samples = 0 then .zero false
  else ((Double.ofNat s.latencySum).div (.ofNat s.samples)).div (.ofNat 1000)

def maxMillis (s : RoutingStats) : Double :=
  (Double.ofNat s.latencyMax).div (.ofNat 1000)

def toValue (s : RoutingStats) : Value :=
  .object [("routed", .nat s.routed), ("validation_rejected", .nat s.invalid),
    ("authorization_rejected", .nat s.unauthorized), ("avg_latency_ms", .double s.averageMillis),
    ("max_latency_ms", .double s.maxMillis)]

end RoutingStats

/-- Decides about a message, and notes in the statistics how it was decided and how long it took. -/
def Pipeline.routeCounted {σ : Type} (stages : List (Stage σ)) (present : Instant) (m : Message)
    (stats : RoutingStats) (s : σ) : Except Rejection (List EventAction) × RoutingStats × σ :=
  let (decision, s) := route stages m s
  (decision, (stats.noteLatency m present).noteDecision decision, s)

end SensorRouter
