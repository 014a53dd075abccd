import SensorRouter.Proofs.Routing.Isolation

/-!
What the pipeline has found out about a message in the end. Only authorization finds the sensor, and
so an accepted message has the sensor that the directory admits it for.
-/

namespace SensorRouter

/-- The stage does not change which sensor has been found. -/
def Stage.KeepsSensor {σ : Type} (stage : Stage σ) : Prop :=
  ∀ t s, (stage.run t s).2.1.sensor = t.sensor

theorem Pipeline.sensor_pass {σ : Type} {stages : List (Stage σ)}
    (h : ∀ stage ∈ stages, stage.KeepsSensor) (settled : Bool) (t : Transit) (s : σ) :
    (pass stages settled t s).1.sensor = t.sensor := by
  induction stages generalizing settled t s with
  | nil => rfl
  | cons stage rest ih =>
    obtain ⟨hstage, hrest⟩ := List.forall_mem_cons.1 h
    rw [pass]
    split
    · exact ih hrest settled t s
    · -- whatever the outcome, the rest starts with the sensor that the stage has left
      have hkept := hstage t s
      rcases hrun : stage.run t s with ⟨outcome, findings, s'⟩
      rw [hrun] at hkept
      cases outcome <;> exact (ih hrest _ _ _).trans hkept

namespace RoutingStage

theorem fanOut_metering_keepsSensor (settings : RoutingSettings) (now : Nat) :
    ∀ stage ∈ fanOut settings ++ [metering now], stage.KeepsSensor := by
  simp only [fanOut, List.cons_append, List.nil_append, List.forall_mem_cons]
  refine ⟨?trigger, ?storage, ?liveData, ?publication, ?metering, by simp⟩
  case trigger =>
    intro t s
    simp only [trigger]
    split
    · split <;> rfl
    · rfl
  all_goals
    intro t s
    simp only [storage, liveData, publication, metering]
    split <;> rfl

/-- The sensor that the pipeline finds is the one authorized, if the message is valid. -/
theorem sensor_standard (settings : RoutingSettings) (now : Nat) (m : Message)
    (st : RoutingState) :
    (Pipeline.pass (standard settings now) false { message := m } st).1.sensor =
      match m.validate settings.maxDataPoints with
      | .error _ => none
      | .ok () => (st.directory.authorize now m.sensorId m.apiKey).1.toOption := by
  have hkeep := Pipeline.sensor_pass (fanOut_metering_keepsSensor settings now)
  rcases hvalid : m.validate settings.maxDataPoints with e | _
  · rw [standard, Pipeline.pass]
    simp only [validation, hvalid]
    rw [Bool.false_and, if_neg Bool.false_ne_true, Pipeline.pass,
      if_pos (show (true && !(authorization now).isBookkeeping) = true from rfl)]
    exact hkeep true _ st
  rw [standard, Pipeline.pass]
  simp only [validation, hvalid]
  rw [Bool.false_and, if_neg Bool.false_ne_true, Pipeline.pass]
  rcases hauthorize : st.directory.authorize now m.sensorId m.apiKey with ⟨e | s, d⟩
  · simp only [authorization, hauthorize]
    exact hkeep true _ { st with directory := d }
  · simp only [authorization, hauthorize]
    exact hkeep false _ { st with directory := d }

end RoutingStage

namespace Router

/-- What the stages find out about a message. -/
def transit (r : Router) (now : Nat) (m : Message) : Transit :=
  (Pipeline.pass (RoutingStage.standard r.settings now) false { message := m } r.state).1

/-- The router accepts a message as one of a sensor, and does with it what the actions say. -/
structure Accepts (r : Router) (now : Nat) (present : Instant) (m : Message) (s : Sensor)
    (actions : List EventAction) : Prop where
  decision : (r.route now present m).1 = .ok actions
  sensor : (r.transit now m).sensor = some s

/-- The router accepts the valid messages that the directory admits. -/
theorem accepts_iff (r : Router) (now : Nat) (present : Instant) (m : Message) (s : Sensor)
    (actions : List EventAction) :
    r.Accepts now present m s actions ↔
      m.validate r.settings.maxDataPoints = .ok () ∧
        r.state.directory.Admits m.sensorId m.apiKey s ∧
        actions = (m.copies r.settings r.state.queues.settings
          (r.state.directory.live.targets m.sensorId) s).actions := by
  have hdecision : (r.route now present m).1 = _ :=
    (RoutingStage.route_ruling r.settings now m r.state).1
  have hsensor : (r.transit now m).sensor = _ :=
    RoutingStage.sensor_standard r.settings now m r.state
  have hparts : r.Accepts now present m s actions ↔
      (r.route now present m).1 = .ok actions ∧ (r.transit now m).sensor = some s :=
    ⟨fun h => ⟨h.decision, h.sensor⟩, fun h => ⟨h.1, h.2⟩⟩
  rw [hparts, hdecision, hsensor, ← Directory.authorize_eq_ok_iff _ now]
  unfold Message.ruling
  rcases hvalid : m.validate r.settings.maxDataPoints with e | _
  · simp
  rcases hauthorize : (r.state.directory.authorize now m.sensorId m.apiKey).1 with e | found
  · simp
  · simp only [Except.ok.injEq, Except.toOption, Option.some.injEq, true_and]
    constructor
    · rintro ⟨rfl, rfl⟩
      exact ⟨rfl, rfl⟩
    · rintro ⟨rfl, rfl⟩
      exact ⟨rfl, rfl⟩

end Router

end SensorRouter
