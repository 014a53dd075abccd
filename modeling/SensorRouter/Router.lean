import SensorRouter.Health
import SensorRouter.Routing.Stages
import SensorRouter.Routing.Stats

/-!
The router: an input queue, the pipeline that decides about its messages, and the outbound queues that
the pipeline fills. A pass takes one batch of messages off the input queue.
-/

namespace SensorRouter

structure Router where
  settings : RoutingSettings
  limits : HealthLimits
  state : RoutingState
  input : Ring Message := .empty
  stats : RoutingStats := {}

/-- What a pass did with the messages it took. -/
structure PassOutcome where
  routed : Nat := 0
  rejected : Nat := 0
  deriving DecidableEq, Repr, Inhabited

namespace PassOutcome

def isEmpty (o : PassOutcome) : Bool :=
  o.routed = 0 && o.rejected = 0

def note {ε α : Type} (o : PassOutcome) : Except ε α → PassOutcome
  | .ok _ => { o with routed := o.routed + 1 }
  | .error _ => { o with rejected := o.rejected + 1 }

theorem note_total {ε α : Type} (o : PassOutcome) (r : Except ε α) :
    (o.note r).routed + (o.note r).rejected = o.routed + o.rejected + 1 := by
  cases r <;> simp only [note] <;> omega

end PassOutcome

namespace Router

variable {σ : Type}

def ofSettings (s : Settings) (directory : Directory) : Router where
  settings := s.routing
  limits := s.health.limits
  state := { directory, queues := .empty s.queues }

/-- Messages taken in one pass, at least one. -/
def batchSize (r : Router) : Nat :=
  max 1 r.settings.batchSize

def submit (r : Router) (m : Message) : Router :=
  { r with input := r.input.pushBack m }

def submitAll (r : Router) (messages : List Message) : Router :=
  { r with input := r.input.append messages }

/-- Decides about a message. `now` is the time on the clock of the directory. -/
def route (r : Router) (now : Nat) (present : Instant) (m : Message) :
    Except Rejection (List EventAction) × Router :=
  let (decision, state) := Pipeline.route (RoutingStage.standard r.settings now) m r.state
  (decision, { r with state, stats := (r.stats.noteLatency m present).noteDecision decision })

/-- Decides about messages in order. -/
def routeEach (now : Nat) (present : Instant) : List Message → PassOutcome → Router →
    PassOutcome × Router
  | [], o, r => (o, r)
  | m :: rest, o, r =>
    let (decision, r) := r.route now present m
    routeEach now present rest (o.note decision) r

/-- One pass. -/
def routeBatch (r : Router) (now : Nat) (present : Instant) : PassOutcome × Router :=
  let (batch, input) := r.input.take r.batchSize
  routeEach now present batch {} { r with input }

theorem routeEach_input (now : Nat) (present : Instant) (batch : List Message) (o : PassOutcome)
    (r : Router) : (routeEach now present batch o r).2.input = r.input := by
  induction batch generalizing o r with
  | nil => rfl
  | cons m rest ih => exact ih _ _

theorem routeEach_total (now : Nat) (present : Instant) (batch : List Message) (o : PassOutcome)
    (r : Router) :
    (routeEach now present batch o r).1.routed + (routeEach now present batch o r).1.rejected =
      o.routed + o.rejected + batch.length := by
  induction batch generalizing o r with
  | nil => rfl
  | cons m rest ih =>
    have := PassOutcome.note_total o (r.route now present m).1
    unfold routeEach
    rw [ih, List.length_cons]
    omega

/-- A pass decides about every message that it takes. -/
theorem routeBatch_total (r : Router) (now : Nat) (present : Instant) :
    (r.routeBatch now present).1.routed + (r.routeBatch now present).1.rejected +
      (r.routeBatch now present).2.input.length = r.input.length := by
  have := r.input.length_take r.batchSize
  unfold routeBatch
  rw [routeEach_total, routeEach_input]
  simp only
  omega

/-- Passes until one finds no message. -/
def routeAll (r : Router) (now : Nat) (present : Instant) : Router :=
  let pass := r.routeBatch now present
  if pass.1.isEmpty then pass.2 else pass.2.routeAll now present
termination_by r.input.length
decreasing_by
  rename_i h
  have := r.routeBatch_total now present
  simp only [PassOutcome.isEmpty, Bool.and_eq_true, decide_eq_true_eq, pass] at h ⊢
  omega

def depths (r : Router) : QueueDepths :=
  r.state.queues.depths r.input.length

def health (r : Router) (connected : Bool) : HealthReport :=
  r.limits.report r.depths connected

def withDirectory (r : Router) (directory : Directory) : Router :=
  { r with state := { r.state with directory } }

/-- Publishes what is in the outbound queues. -/
def flush (r : Router) (p : Publisher σ) (s : σ) : FlushResult × Router × σ :=
  let (result, queues, s) := r.state.queues.flush p s
  (result, { r with state := { r.state with queues } }, s)

end Router

end SensorRouter
