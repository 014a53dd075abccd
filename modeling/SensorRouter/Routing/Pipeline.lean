import SensorRouter.Entity.Basic
import SensorRouter.NetworkEvent
import SensorRouter.Routing.Rejection

/-!
Pipelines: stages that a message passes in order. The first stage that rejects or handles the message
settles it; after that only bookkeeping stages run.
-/

namespace SensorRouter

/-- What the stages so far found out about a message and did with it. -/
structure Findings where
  /-- The sensor, once authorization has found it. -/
  sensor : Option Sensor := none
  actions : List EventAction := []
  deriving DecidableEq

def Findings.record (f : Findings) (a : EventAction) : Findings :=
  { f with actions := NetworkEvent.recordAction f.actions a }

/-- A message on its way through a pipeline. -/
structure Transit extends Findings where
  message : Message
  rejection : Option Rejection := none
  deriving DecidableEq

inductive Outcome where
  | proceed
  | handled
  | rejected (reason : Rejection)
  deriving DecidableEq

/-- A stage that works on states in `σ`. -/
structure Stage (σ : Type) where
  name : String
  /-- Whether the stage runs for settled messages too. -/
  isBookkeeping : Bool := false
  run : Transit → σ → Outcome × Findings × σ

namespace Pipeline

variable {σ : Type}

/-- Lets a message pass the stages. `settled` says whether a stage before has settled it. -/
def pass : List (Stage σ) → Bool → Transit → σ → Transit × σ
  | [], _, t, s => (t, s)
  | stage :: rest, settled, t, s =>
    if settled && !stage.isBookkeeping then pass rest settled t s
    else
      let (outcome, findings, s) := stage.run t s
      let t := { t with toFindings := findings }
      match outcome with
      | .proceed => pass rest settled t s
      | .handled => pass rest true t s
      | .rejected reason => pass rest true { t with rejection := t.rejection <|> some reason } s

/-- The decision about a message that has passed: the rejection, or what was done with it. -/
def decision (t : Transit) : Except Rejection (List EventAction) :=
  match t.rejection with
  | some reason => .error reason
  | none => .ok t.actions

/-- Decides about a message. -/
def route (stages : List (Stage σ)) (m : Message) (s : σ) :
    Except Rejection (List EventAction) × σ :=
  let (t, s) := pass stages false { message := m } s
  (decision t, s)

end Pipeline

end SensorRouter
