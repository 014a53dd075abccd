import SensorRouter.Service.Engine

/-!
A running service: an engine, the agenda of its tasks, and the time since the start. Time passes only
while somebody waits, and tasks run only then; messages and commands that come in are kept until a
task takes them up.
-/

namespace SensorRouter

inductive ServicePhase where
  | running
  /-- Told to stop; the tasks stop when they would run next. -/
  | cancelled
  | stopped
  deriving DecidableEq, Repr

structure Service (σ : Type) where
  engine : Engine σ
  agenda : Agenda Task
  elapsed : Nat := 0
  phase : ServicePhase := .running

inductive ServiceError where
  | shuttingDown
  deriving DecidableEq, Repr

def ServiceError.message : ServiceError → String
  | .shuttingDown => "router is shutting down"

namespace Service

variable {σ : Type}

/-- The first instants of the tasks. A task without a period never runs. -/
def firstAgenda (s : Settings) : Agenda Task :=
  let enter (period : Nat) (task : Task) (a : Agenda Task) : Agenda Task :=
    if period = 0 then a else a.insert period task
  let reload := if s.reload.enabled then s.reload.intervalSeconds * 1000 else 0
  Agenda.empty.insert 0 .routing
    |> enter s.queues.flushMillis .flush
    |> enter s.cache.sweepMillis .sweep
    |> enter reload .reload

/-- Starts a service, with a directory that is filled first if the settings say so. -/
def start (w : Surroundings σ) (settings : Settings) (publisherState : σ) :
    Except UpdateError (Service σ) := do
  let engine : Engine σ := {
    settings
    router := .ofSettings settings (.empty settings.cache.options)
    counts := {}
    publisherState
    flushDue := settings.queues.flushMillis }
  let service (engine : Engine σ) : Service σ := { engine, agenda := firstAgenda settings }
  if settings.reload.initialLoad then
    match engine.reload w with
    | (engine, .ok _) => return service engine
    | (_, .error e) => throw e
  else return service engine

/-! ## Tasks -/

/-- Enters a task that has run into the agenda again. -/
def reschedule (due : Nat) (task : Task) (next : Recurrence) (a : Agenda Task) : Agenda Task :=
  match next with
  | .again => a.insert due task
  | .at next => a.insert (max next (due + 1)) task
  | .never => a

/-- Runs the tasks that are due before an instant. -/
def runUntil (w : Surroundings σ) (limit : Nat) (s : Service σ) : Service σ :=
  match _hnext : s.agenda.next? limit with
  | none => s
  | some ((due, task), agenda) =>
    match _hrun : s.engine.run w due task with
    | (next, engine) =>
      runUntil w limit { s with engine, agenda := reschedule due task next agenda, elapsed := due }
termination_by (Agenda.slack limit s.agenda.entries, s.engine.router.input.length)
decreasing_by
  have hslack := Agenda.next?_slack _hnext
  simp only at hslack
  cases next with
  | again =>
    have hinput := Engine.input_lt_of_again (congrArg Prod.fst _hrun)
    rw [_hrun] at hinput
    refine Prod.Lex.right' _ ?_ hinput
    simp only [reschedule, Agenda.insert, Agenda.slack_insertEntry]
    omega
  | «at» next =>
    refine Prod.Lex.left _ _ ?_
    simp only [reschedule, Agenda.insert, Agenda.slack_insertEntry]
    omega
  | never =>
    refine Prod.Lex.left _ _ ?_
    simp only [reschedule]
    omega

/-- Stops the tasks, except that a flush under way is ended. Commands that wait are dropped. -/
def stop (s : Service σ) : Service σ :=
  { s with
    engine := { s.engine with commands := [] }
    agenda := s.agenda.filter fun task => task = .flush && s.engine.inFlight.isSome
    phase := .stopped }

/-- Waits for the end of the flush that is under way after a stop, if there is one. -/
def joinFlush (w : Surroundings σ) (s : Service σ) : Service σ :=
  match s.agenda.entries with
  | [] => s
  | (due, _) :: _ =>
    { s with engine := s.engine.endFlush w, agenda := .empty, elapsed := max s.elapsed due }

/-- Lets time pass, in milliseconds. -/
def wait (w : Surroundings σ) (time : Nat) (s : Service σ) : Service σ :=
  if time = 0 then s
  else
    let finish := s.elapsed + time
    let s := match s.phase with
      | .running => s.runUntil w finish
      | .cancelled | .stopped =>
        let s := s.stop
        if s.agenda.entries.any (·.1 < finish) then s.joinFlush w else s
    { s with elapsed := finish }

/-! ## Intake -/

/-- Takes messages in. -/
def submitAll (s : Service σ) (messages : List Message) : Service σ :=
  { s with engine := { s.engine with router := messages.foldl .submit s.engine.router } }

/-- Lets every task that is due run once. -/
def yield (w : Surroundings σ) (s : Service σ) : Service σ :=
  let isDue (e : Nat × Task) : Bool := e.1 ≤ s.elapsed
  let rest : Agenda Task := ⟨s.agenda.entries.dropWhile isDue, s.agenda.ascending.sublist
    (List.dropWhile_sublist _)⟩
  (s.agenda.entries.takeWhile isDue).foldl
    (fun s e =>
      let (next, engine) := s.engine.run w e.1 e.2
      { s with engine, agenda := reschedule e.1 e.2 next s.agenda })
    { s with agenda := rest }

/-- The number of commands that may wait, at least one. -/
def commandCapacity (s : Service σ) : Nat :=
  max 1 s.engine.settings.routing.commandCapacity

/-- Enters a command behind those that wait. -/
def enqueueCommand (s : Service σ) (payload : ByteArray) : Service σ :=
  { s with
    engine := { s.engine with commands := s.engine.commands ++ [payload] }
    agenda :=
      if s.engine.commands.isEmpty then s.agenda.insert s.elapsed .commands else s.agenda }

/-- Takes a command in. When too many wait, it waits for the tasks that are due. -/
def submitCommand (w : Surroundings σ) (payload : ByteArray) (s : Service σ) :
    Except ServiceError Unit × Service σ :=
  match s.phase with
  | .stopped => (.error .shuttingDown, s)
  | .running =>
    let s := if s.engine.commands.length < s.commandCapacity then s else s.yield w
    (.ok (), s.enqueueCommand payload)
  | .cancelled =>
    if s.engine.commands.length < s.commandCapacity then (.ok (), s.enqueueCommand payload)
    else (.error .shuttingDown, s.stop)

/-! ## Control -/

/-- Reloads the directory at once. -/
def reload (w : Surroundings σ) (s : Service σ) : Except UpdateError ReloadSummary × Service σ :=
  let (engine, result) := s.engine.reload w
  (result, { s with engine })

/-- Tells the tasks to stop. -/
def cancel (s : Service σ) : Service σ :=
  match s.phase with
  | .running => { s with phase := .cancelled }
  | .cancelled | .stopped => s

/-- Stops the tasks, routes what is still in the input queue, and publishes all outbound queues. When
that takes longer than the settings allow, nothing is published and there is no result. -/
def shutdown (w : Surroundings σ) (s : Service σ) : Option FlushResult × Service σ :=
  let s := s.stop.joinFlush w
  let engine := { s.engine with router := s.engine.router.routeAll w.clock w.present }
  let (shipments, engine) := engine.takeShipments
  let time := engine.deliveryTime w shipments
  if time ≤ engine.settings.queues.graceMillis then
    let (result, engine) := engine.deliver w shipments
    (some result, { s with engine, elapsed := s.elapsed + time })
  else (none, { s with engine, elapsed := s.elapsed + engine.settings.queues.graceMillis })

end Service

end SensorRouter
