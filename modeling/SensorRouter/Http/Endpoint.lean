import SensorRouter.Message.Intake
import SensorRouter.Service.Status

/-!
The endpoints of a service: its health and status may be read, and messages and commands posted.
-/

namespace SensorRouter.Http

open Json (Value)

structure Request where
  method : String
  /-- The path, with the query if there is one. -/
  target : String
  body : ByteArray := .empty

inductive Body where
  | empty
  | text (s : String)
  | json (v : Value)
  /-- A body that was not asked for, of a type. -/
  | omitted (contentType : String)

structure Response where
  status : Nat
  body : Body := .empty

/-- The type that a response declares. An empty body has none. -/
def Body.contentType? : Body → Option String
  | .empty => none
  | .text _ => some "text/plain; charset=utf-8"
  | .json _ => some "application/json"
  | .omitted contentType => some contentType

/-- The response without its body. -/
def Response.omitBody (r : Response) : Response :=
  { r with body := (r.body.contentType?.map .omitted).getD .empty }

inductive Endpoint where
  | health
  | status
  | commands
  | messages
  deriving DecidableEq, Repr

namespace Endpoint

def path : Endpoint → String
  | health => "/health"
  | status => "/health/status"
  | commands => "/v1/commands"
  | messages => "/v1/messages"

def all : List Endpoint :=
  [health, status, commands, messages]

def ofPath? (path : String) : Option Endpoint :=
  all.find? fun e => e.path = path

/-- Whether the endpoint is read, and not posted to. -/
def isRead : Endpoint → Bool
  | health | status => true
  | commands | messages => false

/-- Whether the endpoint takes requests of a method. What can be read can be asked for without its
body. -/
def accepts (e : Endpoint) (method : String) : Bool :=
  if e.isRead then method = "GET" || method = "HEAD" else method = "POST"

end Endpoint

/-- The part of a target before its query or fragment. -/
def pathOf (target : String) : String :=
  String.ofList (target.toList.takeWhile fun c => c ≠ '?' && c ≠ '#')

/-- The greatest size of a body in bytes. -/
def greatestBody : Nat := 2 * 1024 * 1024

variable {σ : Type}

def answerHealth (w : Surroundings σ) (s : Service σ) : Response :=
  if (s.health w).healthy then ⟨200, .text "ok"⟩ else ⟨503, .text "unhealthy"⟩

def answerStatus (w : Surroundings σ) (s : Service σ) : Response :=
  ⟨200, .json (s.status w).toValue⟩

def postCommand (w : Surroundings σ) (body : ByteArray) (s : Service σ) : Response × Service σ :=
  match s.submitCommand w body with
  | (.ok (), s) => (⟨202, .empty⟩, s)
  | (.error e, s) => (⟨503, .text e.message⟩, s)

/-- Takes in all messages of a body, or none. -/
def postMessages (w : Surroundings σ) (body : ByteArray) (s : Service σ) : Response × Service σ :=
  match Message.intake w.present body with
  | some messages =>
    (⟨202, .json (.ofFields [("accepted", .nat messages.length)])⟩, s.submitAll messages)
  | none => (⟨400, .text "invalid message: no message and no array of messages"⟩, s)

/-- Answers a request at an endpoint that accepts it. -/
def serve (w : Surroundings σ) (e : Endpoint) (body : ByteArray) (s : Service σ) :
    Response × Service σ :=
  if !e.isRead && greatestBody < body.size then
    (⟨413, .text "Failed to buffer the request body: length limit exceeded"⟩, s)
  else
    match e with
    | .health => (answerHealth w s, s)
    | .status => (answerStatus w s, s)
    | .commands => postCommand w body s
    | .messages => postMessages w body s

/-- Answers a request: 404 without an endpoint at its path, 405 without the method there. -/
def answer (w : Surroundings σ) (r : Request) (s : Service σ) : Response × Service σ :=
  match Endpoint.ofPath? (pathOf r.target) with
  | none => (⟨404, .empty⟩, s)
  | some e =>
    if e.accepts r.method then
      let (response, s) := serve w e r.body s
      (if r.method = "HEAD" then response.omitBody else response, s)
    else (⟨405, .empty⟩, s)

end SensorRouter.Http
