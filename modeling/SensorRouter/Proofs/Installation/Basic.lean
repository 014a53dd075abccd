import SensorRouter.Proofs.Directory.Loading
import SensorRouter.Proofs.Routing.Decision

/-!
An installation: a router with its directory, the repository behind it and a clock. Its runs mix
reloads, written commands, edits of the repository, sweeps, moves of the clock and messages in any
order. One step loads ids, forgets ids, or shows nothing that was not visible before.
-/

namespace SensorRouter

/-- A registry, and a repository that answers from it. -/
structure MemoryRepository where
  contents : Registry
  answers : Repository
  served : contents.ServedBy answers

structure Installation where
  repository : MemoryRepository
  router : Router
  counts : UpdateCounts := {}
  now : Nat := 0

inductive InstallationEvent where
  | reload
  | command (payload : ByteArray)
  | edit (repository : MemoryRepository)
  | sweep
  | clock (now : Nat)
  | message (present : Instant) (m : Message)

namespace InstallationEvent

/-- The event loads an id from the repository. -/
def Loads (e : InstallationEvent) (kind : EntityKind) (id : String) : Prop :=
  match e with
  | .reload => True
  | .command payload => Command.ofBytes payload = .ok (.add kind id)
  | _ => False

/-- The event is a command that forgets an id. -/
def Forgets (e : InstallationEvent) (kind : EntityKind) (id : String) : Prop :=
  match e with
  | .command payload => ∃ c, Command.ofBytes payload = .ok c ∧ c.Forgets kind id
  | _ => False

/-- What the event makes of the registry's entity when it loads an id: a reload takes it from a
listing, a command fetches it. -/
def loaded (e : InstallationEvent) (r : Registry) (kind : EntityKind) (id : String) :
    Option kind.Entity :=
  match e with
  | .reload => r.listed kind id
  | _ => r.fetched kind id

theorem idOf_of_loaded {e : InstallationEvent} {r : Registry} {kind : EntityKind} {id : String}
    {v : kind.Entity} (h : e.loaded r kind id = some v) : kind.idOf v = id := by
  cases e with
  | reload => exact Registry.idOf_of_listed h
  | _ => exact Registry.idOf_of_fetched h

theorem isSome_loaded (e : InstallationEvent) (r : Registry) (kind : EntityKind) (id : String) :
    (e.loaded r kind id).isSome = (r.stored kind id).isSome := by
  cases e with
  | reload => exact r.isSome_listed kind id
  | _ => exact r.isSome_fetched kind id

end InstallationEvent

namespace Installation

def directory (x : Installation) : Directory :=
  x.router.state.directory

def managed (x : Installation) : ManagedDirectory :=
  ⟨x.directory, x.counts⟩

def withManaged (x : Installation) (m : ManagedDirectory) : Installation :=
  { x with router := x.router.withDirectory m.directory, counts := m.counts }

def step (x : Installation) : InstallationEvent → Installation
  | .reload => x.withManaged (x.managed.reload x.now x.repository.answers).1
  | .command payload => x.withManaged (x.managed.handle x.now x.repository.answers payload).1
  | .edit repository => { x with repository }
  | .sweep => { x with router := x.router.withDirectory (x.directory.sweep x.now).2 }
  | .clock now => { x with now }
  | .message present m => { x with router := (x.router.route x.now present m).2 }

/-- The installation after events in order. -/
def run (x : Installation) (events : List InstallationEvent) : Installation :=
  events.foldl step x

theorem run_snoc (x : Installation) (events : List InstallationEvent) (e : InstallationEvent) :
    x.run (events ++ [e]) = (x.run events).step e := by
  simp [run]

/-! ### One step -/

variable {x : Installation}

theorem step_reload (hx : x.directory.Unbounded) :
    (x.step .reload).directory.Unbounded ∧
      ∀ kind id, (x.step .reload).directory.lookup kind id = x.repository.contents.listed kind id := by
  obtain ⟨d, summary, hreload, hd, hlookup⟩ :=
    Directory.reload_served hx x.repository.served x.now
  have hstep : (x.step .reload).directory = d := by
    change (x.managed.reload x.now x.repository.answers).1.directory = d
    rw [ManagedDirectory.reload]
    simp only [managed, hreload]
  rw [hstep]
  exact ⟨hd, hlookup⟩

/-- A command that is not understood changes nothing. -/
theorem step_command_of_error {payload : ByteArray} {e : CommandError}
    (h : Command.ofBytes payload = .error e) :
    (x.step (.command payload)).directory = x.directory := by
  change (x.managed.handle x.now x.repository.answers payload).1.directory = x.directory
  rw [ManagedDirectory.handle, h]
  rfl

theorem step_command_of_ok {payload : ByteArray} {c : Command} {d : Directory}
    (h : Command.ofBytes payload = .ok c)
    (happly : x.directory.apply x.now x.repository.answers c = .ok d) :
    (x.step (.command payload)).directory = d := by
  change (x.managed.handle x.now x.repository.answers payload).1.directory = d
  have hresult : ((Command.ofBytes payload).mapError .command >>=
      x.directory.apply x.now x.repository.answers) = .ok d := by
    rw [h]
    exact happly
  simp only [ManagedDirectory.handle, managed, hresult]

theorem step_command (hx : x.directory.Unbounded) {payload : ByteArray} {c : Command}
    (h : Command.ofBytes payload = .ok c) :
    (x.step (.command payload)).directory.Unbounded ∧
      ∀ kind id, (x.step (.command payload)).directory.lookup kind id =
        if c = .add kind id then x.repository.contents.fetched kind id
        else if c.Forgets kind id then none else x.directory.lookup kind id := by
  obtain ⟨d, happly, hd, hlookup⟩ := Directory.apply_served hx x.repository.served x.now c
  rw [step_command_of_ok h happly]
  exact ⟨hd, hlookup⟩

theorem step_message_used (present : Instant) (m : Message) :
    Directory.Used x.now x.directory (x.step (.message present m)).directory :=
  RoutingStage.route_used x.router.settings x.now m x.router.state

theorem step_unbounded (hx : x.directory.Unbounded) (e : InstallationEvent) :
    (x.step e).directory.Unbounded := by
  cases e with
  | reload => exact (step_reload hx).1
  | command payload =>
    cases h : Command.ofBytes payload with
    | error e => rwa [step_command_of_error h]
    | ok c => exact (step_command hx h).1
  | edit repository => exact hx
  | sweep => exact hx.of_options (x.directory.options_sweep x.now)
  | clock now => exact hx
  | message present m => exact hx.of_options (step_message_used present m).options_eq

/-- An event that loads an id shows there what it makes of the registry's entity. -/
theorem step_of_loads (hx : x.directory.Unbounded) {e : InstallationEvent} {kind : EntityKind}
    {id : String} (h : e.Loads kind id) :
    (x.step e).directory.lookup kind id = e.loaded x.repository.contents kind id := by
  cases e with
  | reload => exact (step_reload hx).2 kind id
  | command payload => rw [(step_command hx h).2, if_pos rfl]; rfl
  | _ => exact h.elim

/-- An event that forgets an id hides it. -/
theorem step_of_forgets (hx : x.directory.Unbounded) {e : InstallationEvent} {kind : EntityKind}
    {id : String} (h : e.Forgets kind id) : (x.step e).directory.lookup kind id = none := by
  cases e with
  | command payload =>
    obtain ⟨c, hc, hforgets⟩ := h
    have hadd : c ≠ .add kind id := by
      rintro rfl
      simp [Command.Forgets] at hforgets
    rw [(step_command hx hc).2, if_neg hadd, if_pos hforgets]
  | _ => exact h.elim

/-- Under an id that an event neither loads nor forgets, it shows nothing that was not visible
before. -/
theorem lookup_of_step (hx : x.directory.Unbounded) {e : InstallationEvent} {kind : EntityKind}
    {id : String} (hloads : ¬ e.Loads kind id) (hforgets : ¬ e.Forgets kind id) {v : kind.Entity}
    (h : (x.step e).directory.lookup kind id = some v) : x.directory.lookup kind id = some v := by
  cases e with
  | reload => exact absurd trivial hloads
  | command payload =>
    cases hc : Command.ofBytes payload with
    | error e => rwa [step_command_of_error hc] at h
    | ok c =>
      have hadd : c ≠ .add kind id := fun heq => hloads (hc.trans (congrArg _ heq))
      have hkeeps : ¬ c.Forgets kind id := fun hc' => hforgets ⟨c, hc, hc'⟩
      rwa [(step_command hx hc).2, if_neg hadd, if_neg hkeeps] at h
  | edit repository => exact h
  | sweep => exact Directory.lookup_of_sweep h
  | clock now => exact h
  | message present m => rwa [(step_message_used present m).lookup_eq] at h

/-! ### Runs -/

theorem run_unbounded (hx : x.directory.Unbounded) (events : List InstallationEvent) :
    (x.run events).directory.Unbounded := by
  induction events using List.reverseRecOn with
  | nil => exact hx
  | append_singleton events e ih =>
    rw [run_snoc]
    exact step_unbounded ih e

end Installation

end SensorRouter
