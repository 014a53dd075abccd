import SensorRouter.Settings.Basic

/-!
Publishers: what takes batches away. A publisher is described by how one publish changes its state and
whether it succeeds. There is one that only notes deliveries, one that keeps them in memory and one
that posts them to an address.
-/

namespace SensorRouter

/-- One batch for one topic. -/
structure Delivery where
  topic : String
  payload : ByteArray
  retain : Bool

inductive PublishError where
  | timeout
  | http (status : Nat) (topic : String)
  | network (reason : String)
  | serialize (reason : String)
  | disconnected
  deriving DecidableEq, Repr

def PublishError.message : PublishError → String
  | .timeout => "publish timed out"
  | .http status topic => "HTTP " ++ toString status ++ " publishing to " ++ topic
  | .network reason => "network error: " ++ reason
  | .serialize reason => "serialization error: " ++ reason
  | .disconnected => "publisher is disconnected"

/-- A publisher with states in `σ`. -/
structure Publisher (σ : Type) where
  publish : Delivery → σ → Except PublishError Unit × σ
  isConnected : σ → Bool
  /-- How long a publish takes, in milliseconds. -/
  latency : σ → Nat

/-- Takes every delivery and keeps nothing. -/
def logPublisher : Publisher Unit where
  publish _ s := (.ok (), s)
  isConnected _ := true
  latency _ := 0

/-- Keeps the deliveries, the latest first, unless it is told to refuse them. -/
structure DeliveryStore where
  delivered : List Delivery := []
  connected : Bool := true
  failing : Bool := false
  deriving Inhabited

namespace DeliveryStore

def publish (d : Delivery) (s : DeliveryStore) : Except PublishError Unit × DeliveryStore :=
  if !s.connected then (.error .disconnected, s)
  else if s.failing then (.error (.network "injected failure"), s)
  else (.ok (), { s with delivered := d :: s.delivered })

def publisher : Publisher DeliveryStore where
  publish := publish
  isConnected := connected
  latency _ := 0

/-- The deliveries in order. -/
def deliveries (s : DeliveryStore) : List Delivery :=
  s.delivered.reverse

end DeliveryStore

/-- What came of a request to an address. -/
inductive Response where
  | answered (status : Nat)
  | timedOut
  | failed (reason : String)
  deriving DecidableEq, Repr

/-- Posts deliveries under a base address. A failed request marks it as disconnected for a while, an
answer of any kind as connected. Times are in milliseconds. -/
structure HttpPost where
  baseUrl : String
  reconnectMillis : Nat
  lastFailure : Option Nat := none
  deriving DecidableEq, Repr, Inhabited

namespace HttpPost

def trimSlashes (s : String) : List Char :=
  s.toList.dropWhile (· == '/')

/-- The base address without slashes at its end. -/
def ofSettings (baseUrl : String) (reconnectMillis : Nat) : HttpPost where
  baseUrl := String.ofList (baseUrl.toList.reverse.dropWhile (· == '/')).reverse
  reconnectMillis

def endpoint (p : HttpPost) (topic : String) : String :=
  p.baseUrl ++ "/" ++ String.ofList (trimSlashes topic)

/-- The outcome of a publish whose request came to a response. -/
def outcome (topic : String) : Response → Except PublishError Unit
  | .answered status =>
    if 200 ≤ status && status < 300 then .ok () else .error (.http status topic)
  | .timedOut => .error .timeout
  | .failed reason => .error (.network reason)

def afterResponse (p : HttpPost) (now : Nat) : Response → HttpPost
  | .answered _ => { p with lastFailure := none }
  | .timedOut | .failed _ => { p with lastFailure := some now }

def isConnected (p : HttpPost) (now : Nat) : Bool :=
  match p.lastFailure with
  | none => true
  | some failed => p.reconnectMillis ≤ now - failed

/-- One publish at an instant. `send` makes the request to an endpoint. -/
def publish (p : HttpPost) (now : Nat) (send : String → Delivery → Response) (d : Delivery) :
    Except PublishError Unit × HttpPost :=
  let response := send (p.endpoint d.topic) d
  (outcome d.topic response, p.afterResponse now response)

end HttpPost

/-- The publisher that settings ask for. -/
inductive PublisherChoice where
  | log
  | http (p : HttpPost)
  deriving DecidableEq, Repr

/-- A publisher for posting needs a base address. -/
def PublisherSettings.choose (s : PublisherSettings) : Except SettingsError PublisherChoice :=
  match s.kind, s.baseUrl with
  | .log, _ => .ok .log
  | .http, some url => .ok (.http (.ofSettings url s.reconnectMillis))
  | .http, none => .error .baseUrlMissing

end SensorRouter
