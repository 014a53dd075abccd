import SensorRouter.Proofs.Outbound.Additions
import SensorRouter.Routing.Stages

/-!
The fan-out of an accepted message: which copies each queue is owed, and that the four fan-out stages
add exactly these and note exactly the actions for which there were copies.
-/

namespace SensorRouter

/-- Whether some trigger with actions is of the kind that evaluates the messages. -/
def Sensor.HasTriggerFor (s : Sensor) (kind : MessageKind) : Prop :=
  ∃ t ∈ s.triggers.getD [], t.hasActions ∧
    (kind = .measurement ∧ t.isTextTrigger = false ∨ kind = .text ∧ t.isTextTrigger = true)

instance (s : Sensor) (kind : MessageKind) : Decidable (s.HasTriggerFor kind) :=
  inferInstanceAs (Decidable (∃ t ∈ s.triggers.getD [], _))

/-- The actions for which there are copies, in the order of the stages. -/
def Additions.actions (a : Additions) : List EventAction :=
  (if a.trigger = [] then [] else [.triggered]) ++ (if a.storage = [] then [] else [.stored]) ++
    (if a.live = [] then [] else [.liveData]) ++ (if a.publication = [] then [] else [.published])

theorem Additions.nodup_actions (a : Additions) : (.routed :: a.actions).Nodup := by
  unfold Additions.actions
  repeat' split
  all_goals decide

namespace Message

/-- The copy for trigger evaluation, if the sensor has a trigger for the message. -/
def triggerCopies (m : Message) (q : QueueSettings) (s : Sensor) : List (Outbound Message) :=
  if s.HasTriggerFor m.kind then [⟨q.triggerTopic m.kind, m⟩] else []

/-- The copy for storage, if the sensor asks for storage. -/
def storageCopies (m : Message) (q : QueueSettings) (s : Sensor) : List (Outbound Message) :=
  if s.storageEnabled then
    match m.kind with
    | .measurement => [⟨q.measurementStorageTopic, m⟩]
    | .text => [⟨q.messageStorageTopic, m⟩]
    | .control => []
  else []

/-- One copy for each live data target. -/
def liveCopies (m : Message) (q : QueueSettings) (targets : List String) :
    List (Outbound Message) :=
  targets.map fun target => ⟨q.liveTopic m.kind target, m⟩

/-- The public copy: to the actuators of the device, or of a message that is published again. -/
def publicCopies (m : Message) (settings : RoutingSettings) : List (Outbound Message) :=
  match m.content with
  | .control _ .device => [⟨settings.actuatorTopic m.sensorId, m⟩]
  | .control _ .liveData => []
  | _ =>
    if settings.publicRepublish then [⟨settings.publicTopic m.kind m.sensorId, m⟩] else []

/-- All copies of a message that a sensor may send. -/
def copies (m : Message) (settings : RoutingSettings) (q : QueueSettings) (targets : List String)
    (s : Sensor) : Additions where
  trigger := m.triggerCopies q s
  storage := m.storageCopies q s
  live := m.liveCopies q targets
  publication := m.publicCopies settings

end Message

/-- A stage lets a message proceed, adds records to the queues, and notes the actions for them. -/
def Stage.Contributes (stage : Stage RoutingState) (t : Transit) (st : RoutingState)
    (a : Additions) : Prop :=
  ∃ queues, st.queues.Gains queues a ∧
    stage.run t st =
      (.proceed, { t.toFindings with actions := t.actions ++ a.actions }, { st with queues })

theorem Pipeline.pass_contributes {stage : Stage RoutingState} {t : Transit} {st : RoutingState}
    {a : Additions} (h : stage.Contributes t st a) (rest : List (Stage RoutingState)) :
    ∃ queues, st.queues.Gains queues a ∧
      Pipeline.pass (stage :: rest) false t st =
        Pipeline.pass rest false { t with actions := t.actions ++ a.actions }
          { st with queues } := by
  obtain ⟨queues, hgains, hrun⟩ := h
  refine ⟨queues, hgains, ?_⟩
  rw [Pipeline.pass, Bool.false_and, hrun]
  rfl

namespace RoutingStage

variable {t : Transit} {st : RoutingState} {s : Sensor}

/-- A stage that has nothing to add. -/
theorem contributes_nothing {stage : Stage RoutingState} {a : Additions}
    (hrun : stage.run t st = (.proceed, t.toFindings, st)) (ha : a = .none) :
    stage.Contributes t st a := by
  subst ha
  refine ⟨st.queues, .refl _, hrun.trans ?_⟩
  simp [Additions.actions, Additions.none]

/-- A stage that adds copies and notes an action not noted before. -/
theorem contributes_action {stage : Stage RoutingState} {action : EventAction} {queues : Queues}
    {a : Additions} (hrun : stage.run t st = (.proceed, t.record action, { st with queues }))
    (hnew : action ∉ t.actions) (hactions : a.actions = [action])
    (hgains : st.queues.Gains queues a) : stage.Contributes t st a := by
  refine ⟨queues, hgains, hrun.trans ?_⟩
  rw [hactions]
  simp [Findings.record, NetworkEvent.recordAction, hnew]

theorem hasTrigger_iff (s : Sensor) (text : Bool) :
    s.hasTrigger text ↔
      ∃ t ∈ s.triggers.getD [], t.hasActions = true ∧ t.isTextTrigger = text := by
  simp [Sensor.hasTrigger]

theorem trigger_contributes (t : Transit) (st : RoutingState) (hsensor : t.sensor = some s)
    (hnew : .triggered ∉ t.actions) :
    trigger.Contributes t st { trigger := t.message.triggerCopies st.queues.settings s } := by
  have hrun : trigger.run t st =
      if s.HasTriggerFor t.message.kind then
        (.proceed, t.record .triggered, { st with queues := st.queues.addTrigger t.message })
      else (.proceed, t.toFindings, st) := by
    simp only [trigger, hsensor]
    cases t.message.kind <;> simp [triggerKind?, Sensor.HasTriggerFor, hasTrigger_iff]
  by_cases hwanted : s.HasTriggerFor t.message.kind
  · rw [if_pos hwanted] at hrun
    have hkind : t.message.kind ≠ .control := by
      obtain ⟨_, _, _, hkind | hkind⟩ := hwanted <;> simp [hkind.1]
    refine contributes_action hrun hnew ?_ ?_
    · simp [Message.triggerCopies, hwanted, Additions.actions]
    · rw [Message.triggerCopies, if_pos hwanted]
      exact st.queues.gains_addTrigger hkind
  · rw [if_neg hwanted] at hrun
    exact contributes_nothing hrun (by simp [Message.triggerCopies, hwanted, Additions.none])

theorem storage_contributes (t : Transit) (st : RoutingState) (hsensor : t.sensor = some s)
    (hnew : .stored ∉ t.actions) :
    storage.Contributes t st { storage := t.message.storageCopies st.queues.settings s } := by
  by_cases hwanted : s.storageEnabled && !t.message.isControl
  · have hrun : storage.run t st =
        (.proceed, t.record .stored, { st with queues := st.queues.addStorage t.message }) := by
      simp only [storage, hsensor, Option.any_some, if_pos hwanted]
    obtain ⟨henabled, hkind⟩ := Bool.and_eq_true_iff.1 hwanted
    obtain ⟨topic, htopic, hcopies⟩ : ∃ topic,
        st.queues.settings.storageTopic? t.message.kind = some topic ∧
          t.message.storageCopies st.queues.settings s = [⟨topic, t.message⟩] := by
      rw [Message.storageCopies, if_pos henabled]
      unfold Message.isControl at hkind
      cases hk : t.message.kind with
      | measurement => exact ⟨_, rfl, rfl⟩
      | text => exact ⟨_, rfl, rfl⟩
      | control => simp [hk] at hkind
    refine contributes_action hrun hnew ?_ ?_
    · simp [hcopies, Additions.actions]
    · rw [hcopies]
      exact st.queues.gains_addStorage htopic
  · have hrun : storage.run t st = (.proceed, t.toFindings, st) := by
      simp only [storage, hsensor, Option.any_some, if_neg hwanted]
    refine contributes_nothing hrun ?_
    have hnone : t.message.storageCopies st.queues.settings s = [] := by
      unfold Message.storageCopies
      unfold Message.isControl at hwanted
      cases hk : t.message.kind <;> simp_all
    simp [hnone, Additions.none]

theorem liveData_contributes (t : Transit) (st : RoutingState) (hsensor : t.sensor = some s)
    (hnew : .liveData ∉ t.actions) :
    liveData.Contributes t st
      { live := t.message.liveCopies st.queues.settings
          (st.directory.live.targets t.message.sensorId) } := by
  by_cases hempty : st.directory.live.targets t.message.sensorId = []
  · refine contributes_nothing ?_ ?_
    · simp [liveData, hempty]
    · simp [Message.liveCopies, hempty, Additions.none]
  · refine contributes_action ?_ hnew ?_ (st.queues.gains_addLiveEach _ _)
    · simp [liveData, hsensor, hempty]
    · simp [Message.liveCopies, hempty, Additions.actions]

theorem publicCopies_eq (settings : RoutingSettings) (m : Message) :
    m.publicCopies settings = (publicationTopic? settings m).toList.map (⟨·, m⟩) := by
  unfold Message.publicCopies publicationTopic?
  cases m.content with
  | measurement | text => by_cases hpublic : settings.publicRepublish <;> simp [hpublic]
  | control data destination => cases destination <;> rfl

theorem publication_contributes (settings : RoutingSettings) (t : Transit) (st : RoutingState)
    (hsensor : t.sensor = some s) (hnew : .published ∉ t.actions) :
    (publication settings).Contributes t st
      { publication := t.message.publicCopies settings } := by
  rw [publicCopies_eq]
  cases htopic : publicationTopic? settings t.message with
  | none =>
    refine contributes_nothing ?_ rfl
    simp [publication, htopic]
  | some topic =>
    refine contributes_action ?_ hnew rfl (st.queues.gains_addPublication topic t.message)
    simp [publication, hsensor, htopic]

/-- The four stages that fan out a message. -/
def fanOut (settings : RoutingSettings) : List (Stage RoutingState) :=
  [trigger, storage, liveData, publication settings]

/-- The fan-out adds the copies owed to the queues and notes the actions for them. -/
theorem pass_fanOut (settings : RoutingSettings) (t : Transit) (st : RoutingState)
    (hsensor : t.sensor = some s) (hactions : t.actions = []) (rest : List (Stage RoutingState)) :
    let a := t.message.copies settings st.queues.settings
      (st.directory.live.targets t.message.sensorId) s
    ∃ queues, st.queues.Gains queues a ∧
      Pipeline.pass (fanOut settings ++ rest) false t st =
        Pipeline.pass rest false { t with actions := a.actions } { st with queues } := by
  intro a
  let q := st.queues.settings
  -- each stage starts from what the stages before it have noted and added
  obtain ⟨q₁, hgains₁, hpass₁⟩ := Pipeline.pass_contributes
    (trigger_contributes t st hsensor (by simp [hactions]))
    ([storage, liveData, publication settings] ++ rest)
  let a₁ : Additions := { trigger := t.message.triggerCopies q s }
  let t₁ : Transit := { t with actions := t.actions ++ a₁.actions }
  have hstorage := storage_contributes t₁ { st with queues := q₁ } hsensor
    (by simp [t₁, hactions, a₁, Additions.actions])
  simp only [hgains₁.settings] at hstorage
  obtain ⟨q₂, hgains₂, hpass₂⟩ := Pipeline.pass_contributes hstorage
    ([liveData, publication settings] ++ rest)
  let a₂ : Additions := { storage := t.message.storageCopies q s }
  let t₂ : Transit := { t with actions := t₁.actions ++ a₂.actions }
  have hlive := liveData_contributes t₂ { st with queues := q₂ } hsensor
    (by simp [t₂, t₁, hactions, a₁, a₂, Additions.actions])
  simp only [hgains₂.settings, hgains₁.settings] at hlive
  obtain ⟨q₃, hgains₃, hpass₃⟩ := Pipeline.pass_contributes hlive ([publication settings] ++ rest)
  let a₃ : Additions :=
    { live := t.message.liveCopies q (st.directory.live.targets t.message.sensorId) }
  let t₃ : Transit := { t with actions := t₂.actions ++ a₃.actions }
  obtain ⟨q₄, hgains₄, hpass₄⟩ := Pipeline.pass_contributes
    (publication_contributes settings t₃ { st with queues := q₃ } hsensor
      (by simp [t₃, t₂, t₁, hactions, a₁, a₂, a₃, Additions.actions])) rest
  refine ⟨q₄, ?_, ?_⟩
  · have hsum := ((hgains₁.trans hgains₂).trans hgains₃).trans hgains₄
    simp only [Additions.mk_append, List.append_nil, List.nil_append] at hsum
    exact hsum
  · have hnoted : t₃.actions ++ Additions.actions { publication := t.message.publicCopies settings }
        = a.actions := by
      simp [t₃, t₂, t₁, hactions, a₁, a₂, a₃, a, Additions.actions, Message.copies, q]
    rw [← hnoted]
    exact hpass₁.trans (hpass₂.trans (hpass₃.trans hpass₄))

end RoutingStage

end SensorRouter
