import SensorRouter.Entity.Basic

/-!
Repositories: the lookups that the index is filled from. Each may fail, and a lookup of one entity
answers `none` when there is no such entity.
-/

namespace SensorRouter

inductive RepositoryError where
  | unavailable (reason : String)
  | decode (reason : String)
  deriving DecidableEq, Repr

def RepositoryError.message : RepositoryError → String
  | .unavailable reason => "repository unavailable: " ++ reason
  | .decode reason => "repository decode error: " ++ reason

structure Repository where
  accounts : Except RepositoryError (List Account)
  account : String → Except RepositoryError (Option Account)
  apiKeys : Except RepositoryError (List ApiKey)
  apiKey : String → Except RepositoryError (Option ApiKey)
  sensors : Except RepositoryError (List Sensor)
  sensor : String → Except RepositoryError (Option Sensor)
  /-- The triggers of all sensors, also of such as no longer exist. -/
  triggerRows : Except RepositoryError (List TriggerRow)
  triggersFor : String → Except RepositoryError (List SensorTrigger)
  liveHandlers : Except RepositoryError (List LiveHandler)
  liveRoutes : Except RepositoryError (List LiveRoute)

end SensorRouter
