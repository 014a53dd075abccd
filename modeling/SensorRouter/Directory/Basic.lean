import SensorRouter.Expiry.Cache
import SensorRouter.Live.Index

/-!
The directory: everything that a routing decision looks up. Sensors, accounts and API keys are kept
in caches, live data routes in an index of their own, so that the routes of a sensor outlive it and
come to bear again when it returns.
-/

namespace SensorRouter

/-- Numbers of what a directory holds. -/
structure DirectoryCounts where
  sensors : Nat
  accounts : Nat
  apiKeys : Nat
  liveRoutes : Nat
  liveHandlers : Nat
  deriving DecidableEq, Repr

structure Directory where
  sensors : Cache Sensor
  accounts : Cache Account
  apiKeys : Cache ApiKey
  live : LiveIndex := .empty

namespace Directory

def empty (options : CacheOptions) : Directory where
  sensors := .empty options
  accounts := .empty options
  apiKeys := .empty options

/-! ## Lookups -/

/-- The sensor with an id, and the directory after that use of it. -/
def findSensor (d : Directory) (now : Nat) (id : String) :
    Except CacheError (Sensor × Directory) :=
  (d.sensors.get now id).map fun p => (p.1, { d with sensors := p.2 })

def findAccount (d : Directory) (now : Nat) (id : String) :
    Except CacheError (Account × Directory) :=
  (d.accounts.get now id).map fun p => (p.1, { d with accounts := p.2 })

def findApiKey (d : Directory) (now : Nat) (key : String) :
    Except CacheError (ApiKey × Directory) :=
  (d.apiKeys.get now key).map fun p => (p.1, { d with apiKeys := p.2 })

def counts (d : Directory) : DirectoryCounts where
  sensors := d.sensors.length
  accounts := d.accounts.length
  apiKeys := d.apiKeys.length
  liveRoutes := d.live.routes.size
  liveHandlers := d.live.handlers.size

/-! ## Contents -/

/-- Replaces a cache by items up to the first that is refused. -/
def refill {α : Type} (c : Cache α) (now : Nat) (key : α → String) (items : List α) :
    Cache α × Except CacheError Nat :=
  c.clear.putRange now (items.map fun a => (key a, a, {}))

def loadSensors (d : Directory) (now : Nat) (items : List Sensor) :
    Directory × Except CacheError Nat :=
  let (sensors, result) := refill d.sensors now Sensor.id items
  ({ d with sensors }, result)

def loadAccounts (d : Directory) (now : Nat) (items : List Account) :
    Directory × Except CacheError Nat :=
  let (accounts, result) := refill d.accounts now Account.id items
  ({ d with accounts }, result)

def loadApiKeys (d : Directory) (now : Nat) (items : List ApiKey) :
    Directory × Except CacheError Nat :=
  let (apiKeys, result) := refill d.apiKeys now ApiKey.key items
  ({ d with apiKeys }, result)

def putSensor (d : Directory) (now : Nat) (s : Sensor) : Except CacheError Directory :=
  (d.sensors.put now s.id s).map fun sensors => { d with sensors }

def putAccount (d : Directory) (now : Nat) (a : Account) : Except CacheError Directory :=
  (d.accounts.put now a.id a).map fun accounts => { d with accounts }

def putApiKey (d : Directory) (now : Nat) (k : ApiKey) : Except CacheError Directory :=
  (d.apiKeys.put now k.key k).map fun apiKeys => { d with apiKeys }

/-- Forgets an entity. The result says whether it was known. -/
def remove (d : Directory) (kind : EntityKind) (id : String) : Bool × Directory :=
  match kind with
  | .sensor => let (found, sensors) := d.sensors.remove id; (found, { d with sensors })
  | .account => let (found, accounts) := d.accounts.remove id; (found, { d with accounts })
  | .apiKey => let (found, apiKeys) := d.apiKeys.remove id; (found, { d with apiKeys })

/-! ## Live data -/

def addRoute (d : Directory) (r : LiveRoute) : Bool × Directory :=
  let (isNew, live) := d.live.addRoute r
  (isNew, { d with live })

def removeRoute (d : Directory) (r : LiveRoute) : Bool × Directory :=
  let (found, live) := d.live.removeRoute r
  (found, { d with live })

def addRoutes (d : Directory) (routes : List LiveRoute) : Nat × Directory :=
  let (count, live) := d.live.addRoutes routes
  (count, { d with live })

def sync (d : Directory) (set : SyncSet) : Nat × Directory :=
  let (count, live) := d.live.sync set
  (count, { d with live })

def setHandlers (d : Directory) (handlers : List LiveHandler) : Directory :=
  { d with live := d.live.setHandlers handlers }

def clearRoutes (d : Directory) : Directory :=
  { d with live := d.live.clearRoutes }

/-! ## The whole -/

/-- Forgets every entity and route, and keeps the handlers. -/
def clear (d : Directory) : Directory where
  sensors := d.sensors.clear
  accounts := d.accounts.clear
  apiKeys := d.apiKeys.clear
  live := d.live.clearRoutes

def sweep (d : Directory) (now : Nat) : SweepCounts × Directory :=
  let (inSensors, sensors) := d.sensors.sweep now
  let (inAccounts, accounts) := d.accounts.sweep now
  let (inApiKeys, apiKeys) := d.apiKeys.sweep now
  (inSensors + inAccounts + inApiKeys, { d with sensors, accounts, apiKeys })

end Directory

end SensorRouter
