import SensorRouter.Directory.Report
import SensorRouter.Service.Basic

/-!
The status of a service: its health, the depths of its queues, and all statistics.
-/

namespace SensorRouter

open Json (Value)

structure ServiceStatus where
  health : HealthReport
  queues : QueueDepths
  routing : RoutingStats
  updates : UpdateCounts
  directory : DirectoryCounts

/-- Unlike in a report of health alone, an empty list of explanations is written. -/
def ServiceStatus.toValue (s : ServiceStatus) : Value :=
  .object [
    ("healthy", .bool s.health.healthy),
    ("explanations", .array (s.health.explanations.map .string)),
    ("queues", s.queues.toValue),
    ("router", s.routing.toValue),
    ("commands", s.updates.toValue),
    ("cache", s.directory.toValue)]

namespace Service

variable {σ : Type}

def health (w : Surroundings σ) (s : Service σ) : HealthReport :=
  s.engine.router.health (w.publisher.isConnected s.engine.publisherState)

def status (w : Surroundings σ) (s : Service σ) : ServiceStatus where
  health := s.health w
  queues := s.engine.router.depths
  routing := s.engine.router.stats
  updates := s.engine.counts
  directory := s.engine.directory.counts

end Service

end SensorRouter
