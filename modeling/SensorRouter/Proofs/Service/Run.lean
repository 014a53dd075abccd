import SensorRouter.Proofs.Routing.Drain
import SensorRouter.Service.Basic

/-!
Runs of a service. Whatever happens to a running service, its router comes about by operations on
routers, and they submit the messages that the service was given and no others. So what such
operations keep holds of the router of every service that was started.
-/

namespace SensorRouter

/-- What may happen to a service. The surroundings may be others each time. -/
inductive ServiceEvent (σ : Type) where
  /-- Messages come in, one after another or all at once. -/
  | submit (messages : List Message)
  | submitRange (messages : List Message)
  | command (w : Surroundings σ) (payload : ByteArray)
  /-- Time passes, in milliseconds, and the tasks run that are due. -/
  | wait (w : Surroundings σ) (time : Nat)
  | reload (w : Surroundings σ)
  | cancel
  | shutdown (w : Surroundings σ)
  /-- A pass or a flush that is made by hand, besides those of the tasks. -/
  | pass (w : Surroundings σ)
  | flush (w : Surroundings σ)
  /-- The directory is changed by hand, and with it the counts of what was done to it. -/
  | update (m : ManagedDirectory)

variable {σ : Type}

/-- The messages that come in. -/
def ServiceEvent.submitted : ServiceEvent σ → List Message
  | .submit messages | .submitRange messages => messages
  | _ => []

namespace Service

def withRouter (s : Service σ) (router : Router) : Service σ :=
  { s with engine := { s.engine with router } }

def step (s : Service σ) : ServiceEvent σ → Service σ
  | .submit messages => s.submitAll messages
  | .submitRange messages => s.withRouter (s.engine.router.submitAll messages)
  | .command w payload => (s.submitCommand w payload).2
  | .wait w time => s.wait w time
  | .reload w => (s.reload w).2
  | .cancel => s.cancel
  | .shutdown w => (s.shutdown w).2
  | .pass w => s.withRouter (s.engine.router.routeBatch w.clock w.present).2
  | .flush w =>
    let (_, router, publisherState) := s.engine.router.flush w.publisher s.engine.publisherState
    { s with engine := { s.engine with router, publisherState } }
  | .update m => { s with engine := s.engine.withManaged m }

def run (s : Service σ) (events : List (ServiceEvent σ)) : Service σ :=
  events.foldl step s

/-- The service has come about from a start, whatever has happened to it since. -/
def Reachable (s : Service σ) : Prop :=
  ∃ w settings publisherState first events,
    start w settings publisherState = .ok first ∧ s = first.run events

end Service

/-! ### Tasks -/

namespace Engine

theorem evolves_takeShipments (w : Surroundings σ) (e : Engine σ) :
    e.router.Evolves σ [] e.takeShipments.2.router :=
  .single e.router (.flush w.publisher e.publisherState)

theorem evolves_withManaged (e : Engine σ) (m : ManagedDirectory) :
    e.router.Evolves σ [] (e.withManaged m).router :=
  .single e.router (.update m.directory)

variable (w : Surroundings σ)

theorem evolves_reload (e : Engine σ) : e.router.Evolves σ [] (e.reload w).1.router :=
  e.evolves_withManaged _

theorem evolves_applyCommands (e : Engine σ) : e.router.Evolves σ [] (e.applyCommands w).router :=
  e.evolves_withManaged _

theorem router_endFlush (e : Engine σ) : (e.endFlush w).router = e.router := by
  rw [endFlush]
  split <;> rfl

theorem evolves_beginFlush (now : Nat) (e : Engine σ) :
    e.router.Evolves σ [] (e.beginFlush w now).2.router := by
  have htaken := evolves_takeShipments w e
  simp only [beginFlush]
  split <;> exact htaken

theorem evolves_flush (now : Nat) (e : Engine σ) :
    e.router.Evolves σ [] (e.flush w now).2.router := by
  have hbegun := (e.endFlush w).evolves_beginFlush w now
  simp only [flush]
  rw [router_endFlush] at hbegun
  split
  · exact hbegun
  · rw [router_endFlush]
    exact .refl e.router

/-- A task submits nothing. -/
theorem evolves_run (now : Nat) (task : Task) (e : Engine σ) :
    e.router.Evolves σ [] (e.run w now task).2.router := by
  cases task with
  | routing => exact .single e.router (.pass w.clock w.present)
  | flush => exact e.evolves_flush w now
  | sweep => exact .single e.router (.update (e.directory.sweep w.clock).2)
  | reload => exact e.evolves_reload w
  | commands => exact e.evolves_applyCommands w

end Engine

namespace Service

variable (w : Surroundings σ)

theorem evolves_runUntil (limit : Nat) (s : Service σ) :
    s.engine.router.Evolves σ [] (s.runUntil w limit).engine.router := by
  fun_induction runUntil w limit s with
  | case1 s hnext => exact .refl _
  | case2 s due task agenda hnext next engine hrun ih =>
    have htask := s.engine.evolves_run w due task
    rw [hrun] at htask
    exact htask.trans ih

theorem evolves_foldl {β : Type} {f : Service σ → β → Service σ}
    (hf : ∀ (s : Service σ) b, s.engine.router.Evolves σ [] (f s b).engine.router) (bs : List β)
    (s : Service σ) : s.engine.router.Evolves σ [] (bs.foldl f s).engine.router := by
  induction bs generalizing s with
  | nil => exact .refl _
  | cons b rest ih => exact (hf s b).trans (ih (f s b))

theorem evolves_yield (s : Service σ) :
    s.engine.router.Evolves σ [] (s.yield w).engine.router :=
  evolves_foldl (fun s e => s.engine.evolves_run w e.1 e.2) _ _

/-! ### Events -/

theorem router_joinFlush (s : Service σ) : (s.joinFlush w).engine.router = s.engine.router := by
  rw [joinFlush]
  split
  · rfl
  · exact s.engine.router_endFlush w

theorem evolves_wait (time : Nat) (s : Service σ) :
    s.engine.router.Evolves σ [] (s.wait w time).engine.router := by
  rw [wait]
  split
  · exact .refl _
  · cases s.phase with
    | running => exact s.evolves_runUntil w _
    | cancelled | stopped =>
      simp only
      split
      · rw [router_joinFlush]
        exact .refl _
      · exact .refl _

theorem evolves_submitCommand (payload : ByteArray) (s : Service σ) :
    s.engine.router.Evolves σ [] (s.submitCommand w payload).2.engine.router := by
  rw [submitCommand]
  cases s.phase with
  | stopped => exact .refl _
  | running =>
    simp only
    split
    · exact .refl _
    · exact s.evolves_yield w
  | cancelled =>
    simp only
    split <;> exact .refl _

/-- The service once its tasks have ended. -/
def ended (s : Service σ) : Service σ :=
  s.stop.joinFlush w

/-- The router that is left once all messages have been routed. -/
def drained (s : Service σ) : Router :=
  (s.ended w).engine.router.routeAll w.clock w.present

/-- The final flush, whether or not it is over in time. -/
def finalFlush (s : Service σ) : FlushResult × Router × σ :=
  (s.drained w).flush w.publisher (s.ended w).engine.publisherState

theorem router_ended (s : Service σ) : (s.ended w).engine.router = s.engine.router :=
  s.stop.router_joinFlush w

theorem drained_eq (s : Service σ) : s.drained w = s.engine.router.routeAll w.clock w.present := by
  rw [drained, router_ended]

theorem router_shutdown (s : Service σ) :
    (s.shutdown w).2.engine.router = (s.finalFlush w).2.1 := by
  rw [shutdown]
  simp only
  split <;> rfl

theorem evolves_shutdown (s : Service σ) :
    s.engine.router.Evolves σ [] (s.shutdown w).2.engine.router := by
  rw [router_shutdown]
  have hdrain : s.engine.router.Evolves σ [] (s.drained w) := by
    rw [drained_eq]
    exact .drain s.engine.router w.clock w.present
  exact hdrain.trans (.single (s.drained w) (.flush w.publisher (s.ended w).engine.publisherState))

theorem evolves_step (s : Service σ) (e : ServiceEvent σ) :
    s.engine.router.Evolves σ e.submitted (s.step e).engine.router := by
  cases e with
  | submit messages => exact .submits s.engine.router messages
  | submitRange messages => exact .single s.engine.router (.submitAll messages)
  | command w payload => exact s.evolves_submitCommand w payload
  | wait w time => exact s.evolves_wait w time
  | reload w => exact s.engine.evolves_reload w
  | cancel =>
    rw [step, cancel]
    split <;> exact .refl _
  | shutdown w => exact s.evolves_shutdown w
  | pass w => exact .single s.engine.router (.pass w.clock w.present)
  | flush w => exact .single s.engine.router (.flush w.publisher s.engine.publisherState)
  | update m => exact s.engine.evolves_withManaged m

theorem evolves_events (s : Service σ) (events : List (ServiceEvent σ)) :
    s.engine.router.Evolves σ (events.flatMap ServiceEvent.submitted)
      (s.run events).engine.router := by
  induction events generalizing s with
  | nil => exact .refl _
  | cons e rest ih => exact (s.evolves_step e).trans (ih (s.step e))

/-! ### Starts -/

variable {w}

/-- Whether or not the directory is filled first, the queues of a service are new. -/
theorem orderly_start {settings : Settings} {publisherState : σ} {s : Service σ}
    (h : start w settings publisherState = .ok s) : s.engine.router.Orderly := by
  have hnew := Router.orderly_ofSettings settings (.empty settings.cache.options)
  simp only [start] at h
  split at h
  · split at h
    · rename_i engine _ hreload
      have hengine : (Engine.reload w _).1 = engine := congrArg Prod.fst hreload
      cases h
      change engine.router.Orderly
      rw [← hengine]
      exact (Engine.evolves_reload w _).orderly hnew
    · exact nomatch h
  · cases h
    exact hnew

theorem Reachable.orderly {s : Service σ} (h : s.Reachable) : s.engine.router.Orderly := by
  obtain ⟨w, settings, publisherState, first, events, hstart, rfl⟩ := h
  exact (first.evolves_events events).orderly (orderly_start hstart)

end Service

end SensorRouter
