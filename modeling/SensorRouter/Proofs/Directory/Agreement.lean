import SensorRouter.Proofs.Directory.Loading

/-!
The two ways in which a sensor reaches a directory, by a reload or by a command of its own, compared
by what routing reads of it. They agree unless an empty row of triggers hides the sensor's own.
-/

namespace SensorRouter

/-- Routing makes no difference between the sensors. -/
structure Sensor.Interchangeable (s s' : Sensor) : Prop where
  accountId : s.accountId = s'.accountId
  secret : s.secret = s'.secret
  storageEnabled : s.storageEnabled = s'.storageEnabled
  hasTrigger : ∀ text, s.hasTrigger text = s'.hasTrigger text

theorem Sensor.Interchangeable.refl (s : Sensor) : s.Interchangeable s :=
  ⟨rfl, rfl, rfl, fun _ => rfl⟩

/-- A row and the triggers in it make the same of a sensor, unless the row is empty and the sensor has
triggers of its own to be evaluated. -/
theorem Sensor.withRow_withTriggers_iff (s : Sensor) (row : Option (List SensorTrigger)) :
    (s.withRow row).Interchangeable (s.withTriggers (row.getD [])) ↔
      ¬ (row = some [] ∧ ∃ text, s.hasTrigger text = true) := by
  cases row with
  | none => exact iff_of_true (.refl s) fun h => nomatch h.1
  | some triggers =>
    cases triggers with
    | cons t rest => exact iff_of_true (.refl _) fun h => nomatch h.1
    | nil =>
      -- the row drops the sensor's own triggers, its triggers alone keep them
      constructor
      · rintro h ⟨-, text, htext⟩
        have hnone : (s.withRow (some [])).hasTrigger text = false := rfl
        rw [h.hasTrigger] at hnone
        exact nomatch hnone.symm.trans htext
      · intro hnone
        refine ⟨rfl, rfl, rfl, fun text => Eq.symm ?_⟩
        exact Bool.eq_false_iff.2 fun htext => hnone ⟨rfl, text, htext⟩

namespace Registry

/-- A sensor has triggers of its own to be evaluated, but an empty row is kept for it. -/
def HidesTriggers (r : Registry) (id : String) : Prop :=
  ∃ s, r.sensors.get? id = some s ∧ r.triggers.get? id = some [] ∧
    ∃ text, s.hasTrigger text = true

theorem listed_fetched_iff (r : Registry) (id : String) :
    Option.Rel Sensor.Interchangeable (r.listed .sensor id) (r.fetched .sensor id) ↔
      ¬ r.HidesTriggers id := by
  change Option.Rel Sensor.Interchangeable
    ((r.sensors.get? id).map (Sensor.withRow (r.triggers.get? id)))
    ((r.sensors.get? id).map (Sensor.withTriggers (r.triggersFor id))) ↔ _
  unfold HidesTriggers
  cases r.sensors.get? id with
  | none => exact iff_of_true .none fun ⟨_, hs, _⟩ => nomatch hs
  | some s =>
    rw [Option.map_some, Option.map_some, Option.rel_some_some, triggersFor, s.withRow_withTriggers_iff]
    simp

end Registry

namespace Directory

/-- A reload and the addition of a sensor, each into a directory of its own, bring sensors that
routing cannot tell apart exactly if the registry hides no triggers of the sensor. -/
theorem reload_add_agree_iff {r : Registry} {p : Repository} (h : r.ServedBy p) {d d' : Directory}
    (hd : d.Unbounded) (hd' : d'.Unbounded) (now now' : Nat) (id : String) :
    ∃ reloaded summary added, d.reload now p = (reloaded, .ok summary) ∧
      d'.apply now' p (.add .sensor id) = .ok added ∧
      (Option.Rel Sensor.Interchangeable (reloaded.lookup .sensor id) (added.lookup .sensor id) ↔
        ¬ r.HidesTriggers id) := by
  obtain ⟨reloaded, summary, hreload, -, hlisted⟩ := reload_served hd h now
  obtain ⟨added, hadd, hreplaces⟩ := apply_add_served hd' h now' .sensor id
  refine ⟨reloaded, summary, added, hreload, hadd, ?_⟩
  rw [hlisted, hreplaces.found, if_pos rfl]
  exact r.listed_fetched_iff id

/-- A sensor without triggers of its own, and with a row of one trigger, arrives alike. -/
theorem reload_add_agree_row :
    let r := (Registry.empty.putSensor { id := "s1", accountId := "a1" }).setTriggers "s1"
      [{ hasActions := true }]
    ∃ reloaded summary added,
      (empty {}).reload 0 r.toRepository = (reloaded, .ok summary) ∧
        (empty {}).apply 0 r.toRepository (.add .sensor "s1") = .ok added ∧
        Option.Rel Sensor.Interchangeable (reloaded.lookup .sensor "s1")
          (added.lookup .sensor "s1") := by
  intro r
  have hempty : (empty {}).Unbounded := unbounded_empty rfl
  obtain ⟨reloaded, summary, added, hreload, hadd, hiff⟩ :=
    reload_add_agree_iff r.servedBy_toRepository hempty hempty 0 0 "s1"
  refine ⟨reloaded, summary, added, hreload, hadd, hiff.2 ?_⟩
  rintro ⟨s, -, hrow, -⟩
  exact nomatch hrow

/-- An empty row hides a trigger from the reload that the added sensor keeps. -/
theorem reload_add_disagree :
    ¬ ∀ (r : Registry) (d d' added : Directory) (id : String), d.Unbounded → d'.Unbounded →
        d'.apply 0 r.toRepository (.add .sensor id) = .ok added →
          Option.Rel Sensor.Interchangeable ((d.reload 0 r.toRepository).1.lookup .sensor id)
            (added.lookup .sensor id) := by
  intro h
  let s : Sensor := { id := "s1", accountId := "a1", triggers := some [{ hasActions := true }] }
  let r := (Registry.empty.putSensor s).setTriggers "s1" []
  have hempty : (empty {}).Unbounded := unbounded_empty rfl
  have hrel := h r (empty {}) (empty {}) _ "s1" hempty hempty rfl
  have hreloaded : ((empty {}).reload 0 r.toRepository).1.lookup .sensor "s1" =
      some (s.withRow (some [])) := rfl
  rw [hreloaded] at hrel
  cases hrel with
  | some hsame => exact nomatch hsame.hasTrigger false

end Directory

end SensorRouter
