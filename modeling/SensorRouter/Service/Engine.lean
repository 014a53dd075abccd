import SensorRouter.Directory.Update
import SensorRouter.Router
import SensorRouter.Service.Agenda

/-!
What a running service does again and again: it polls the input queue, publishes the outbound queues,
sweeps the directory, reloads it, and applies the commands that have come in. Instants are milliseconds
since the start.
-/

namespace SensorRouter

/-- What a service finds around it when a task runs. -/
structure Surroundings (σ : Type) where
  repository : Repository
  publisher : Publisher σ
  /-- The time on the clock of the directory, in nanoseconds. -/
  clock : Nat
  present : Instant

inductive Task where
  | routing
  | flush
  | sweep
  | reload
  | commands
  deriving DecidableEq, Repr

/-- When a task that has run is due again. -/
inductive Recurrence where
  /-- At once, after the others that are due. -/
  | again
  | at (due : Nat)
  | never
  deriving DecidableEq, Repr

/-- What the tasks work on. The publisher has states in `σ`. -/
structure Engine (σ : Type) where
  settings : Settings
  router : Router
  counts : UpdateCounts
  publisherState : σ
  /-- Commands that wait to be applied. -/
  commands : List ByteArray := []
  /-- The shipments of a flush that is not over yet. -/
  inFlight : Option (List (List Shipment)) := none
  /-- When the next flush begins, unless one is under way. -/
  flushDue : Nat

namespace Engine

variable {σ : Type}

def directory (e : Engine σ) : Directory :=
  e.router.state.directory

def managed (e : Engine σ) : ManagedDirectory :=
  ⟨e.directory, e.counts⟩

def withManaged (e : Engine σ) (m : ManagedDirectory) : Engine σ :=
  { e with router := e.router.withDirectory m.directory, counts := m.counts }

/-- The pause between polls of an empty input queue. -/
def idleMillis (e : Engine σ) : Nat :=
  max 1 e.settings.routing.idleMillis

/-- One pass; it gives way to other tasks before the next one. -/
def poll (w : Surroundings σ) (now : Nat) (e : Engine σ) : Recurrence × Engine σ :=
  let (outcome, router) := e.router.routeBatch w.clock w.present
  (if outcome.isEmpty then .at (now + e.idleMillis) else .again, { e with router })

/-- Applies the commands that wait, in order. -/
def applyCommands (w : Surroundings σ) (e : Engine σ) : Engine σ :=
  let m := e.commands.foldl (fun m payload => (m.handle w.clock w.repository payload).1) e.managed
  { e.withManaged m with commands := [] }

/-- The beginning of the next flush, when one due at `due` begins at `now`. A small delay keeps the
rhythm, a larger one starts it afresh. -/
def nextFlush (period due now : Nat) : Nat :=
  if now ≤ due + 5 then due + period * ((now - due) / period + 1) else now + period

/-- Empties the outbound queues into shipments. -/
def takeShipments (e : Engine σ) : List (List Shipment) × Engine σ :=
  let (shipments, queues) := e.router.state.queues.takeAll
  (shipments, { e with router := { e.router with state := { e.router.state with queues } } })

/-- Publishes shipments. -/
def deliver (w : Surroundings σ) (shipments : List (List Shipment)) (e : Engine σ) :
    FlushResult × Engine σ :=
  let (result, publisherState) := Queues.publishEach w.publisher shipments .empty e.publisherState
  (result, { e with publisherState })

/-- How long it takes to publish shipments, all at the same time. -/
def deliveryTime (w : Surroundings σ) (shipments : List (List Shipment)) (e : Engine σ) : Nat :=
  if shipments.all (·.isEmpty) then 0 else w.publisher.latency e.publisherState

/-- Begins a flush, and ends it when publishing takes no time. -/
def beginFlush (w : Surroundings σ) (now : Nat) (e : Engine σ) : Recurrence × Engine σ :=
  let flushDue := nextFlush e.settings.queues.flushMillis e.flushDue now
  let (shipments, e) := e.takeShipments
  let time := e.deliveryTime w shipments
  if time = 0 then (.at flushDue, { (e.deliver w shipments).2 with flushDue })
  else (.at (now + time), { e with inFlight := some shipments, flushDue })

/-- Ends the flush under way, if there is one. -/
def endFlush (w : Surroundings σ) (e : Engine σ) : Engine σ :=
  match e.inFlight with
  | some shipments => { (e.deliver w shipments).2 with inFlight := none }
  | none => e

/-- Ends the flush under way; begins the next one if it is due. -/
def flush (w : Surroundings σ) (now : Nat) (e : Engine σ) : Recurrence × Engine σ :=
  let e := e.endFlush w
  if e.flushDue ≤ now then e.beginFlush w now else (.at e.flushDue, e)

def sweep (w : Surroundings σ) (e : Engine σ) : Engine σ :=
  { e with router := e.router.withDirectory (e.directory.sweep w.clock).2 }

def reload (w : Surroundings σ) (e : Engine σ) : Engine σ × Except UpdateError ReloadSummary :=
  let (m, result) := e.managed.reload w.clock w.repository
  (e.withManaged m, result)

/-- Runs a task. -/
def run (w : Surroundings σ) (now : Nat) (task : Task) (e : Engine σ) : Recurrence × Engine σ :=
  match task with
  | .routing => e.poll w now
  | .flush => e.flush w now
  | .sweep => (.at (now + e.settings.cache.sweepMillis), e.sweep w)
  | .reload => (.at (now + e.settings.reload.intervalSeconds * 1000), (e.reload w).1)
  | .commands => (.never, e.applyCommands w)

theorem beginFlush_ne_again (w : Surroundings σ) (now : Nat) (e : Engine σ) :
    (e.beginFlush w now).1 ≠ .again := by
  unfold beginFlush
  simp only
  split <;> simp

theorem flush_ne_again (w : Surroundings σ) (now : Nat) (e : Engine σ) :
    (e.flush w now).1 ≠ .again := by
  unfold flush
  simp only
  split
  · exact beginFlush_ne_again w now _
  · simp

/-- A task is due again at once only after it has taken messages off the input queue. -/
theorem input_lt_of_again {w : Surroundings σ} {now : Nat} {task : Task} {e : Engine σ}
    (h : (e.run w now task).1 = .again) :
    (e.run w now task).2.router.input.length < e.router.input.length := by
  cases task with
  | routing =>
    have total := e.router.routeBatch_total w.clock w.present
    simp only [run, poll] at h ⊢
    split at h
    · simp at h
    · rename_i hne
      simp only [PassOutcome.isEmpty, Bool.and_eq_true, decide_eq_true_eq] at hne
      omega
  | flush => exact absurd h (flush_ne_again w now e)
  | sweep => simp [run] at h
  | reload => simp [run] at h
  | commands => simp [run] at h

end Engine

end SensorRouter
