import SensorRouter.Command.Basic
import SensorRouter.Dict
import SensorRouter.Live.RouteSet

/-!
The index of live data: which sensors are routed to which targets, and which targets have a handler
that is enabled. A route is kept while its handler is disabled or unknown, and hidden.
-/

namespace SensorRouter

structure LiveIndex where
  routes : RouteSet := ∅
  handlers : Dict LiveHandler := ∅
  deriving DecidableEq, Inhabited

namespace LiveIndex

def empty : LiveIndex := {}

/-- Whether a target has a handler that is enabled. -/
def isEnabled (x : LiveIndex) (target : String) : Bool :=
  match x.handlers.get? target with
  | some h => h.enabled
  | none => false

/-- The enabled targets of a sensor, ascending. -/
def targets (x : LiveIndex) (sensorId : String) : List String :=
  (x.routes.targets sensorId).filter x.isEnabled

/-- Adds a route to an enabled target. The result says whether it is new. -/
def addRoute (x : LiveIndex) (r : LiveRoute) : Bool × LiveIndex :=
  if x.isEnabled r.target then
    let (isNew, routes) := x.routes.add r
    (isNew, { x with routes })
  else (false, x)

/-- Removes a route. The result says whether it was there. -/
def removeRoute (x : LiveIndex) (r : LiveRoute) : Bool × LiveIndex :=
  let (found, routes) := x.routes.remove r
  (found, { x with routes })

/-- Adds routes in order and counts the new ones. -/
def addRoutes (x : LiveIndex) : List LiveRoute → Nat × LiveIndex
  | [] => (0, x)
  | r :: rest =>
    let (isNew, x) := x.addRoute r
    let (count, x) := addRoutes x rest
    ((if isNew then 1 else 0) + count, x)

/-- Replaces the routes to a target by those of the listed sensors, or by none when the target is
not enabled. Returns how many there are. -/
def sync (x : LiveIndex) (set : SyncSet) : Nat × LiveIndex :=
  let others := x.routes.dropTarget set.target
  if x.isEnabled set.target then
    let (count, routes) := others.addAll (set.sensors.map fun s => ⟨s, set.target⟩)
    (count, { x with routes })
  else (0, { x with routes := others })

/-- Makes a list the known handlers. Those whose names are not listed are forgotten, the listed ones
are put in order; of handlers with one name the last stays. -/
def setHandlers (x : LiveIndex) (handlers : List LiveHandler) : LiveIndex :=
  let kept := x.handlers.filter fun name _ => handlers.any fun h => h.name = name
  { x with handlers := handlers.foldl (fun d h => d.insert h.name h) kept }

def clearRoutes (x : LiveIndex) : LiveIndex :=
  { x with routes := ∅ }

end LiveIndex

end SensorRouter
