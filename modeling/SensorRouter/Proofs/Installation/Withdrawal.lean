import SensorRouter.Proofs.Installation.Provenance
import SensorRouter.Proofs.Routing.Acceptance

/-!
Withdrawals: events that load nothing into the directory. Along a run of them lookups only lose
entities, and none of the tests that authorization makes can come to succeed by that. The messages
accepted in the end are those accepted at the start of which nothing needed has been lost.
-/

namespace SensorRouter

/-- The event loads nothing: a command that forgets an entity or is not understood, a sweep, a move of
the clock, or a message. -/
def InstallationEvent.Withdraws : InstallationEvent → Prop
  | .command payload => ∀ c, Command.ofBytes payload = .ok c → ∃ kind id, c.Forgets kind id
  | .sweep | .clock _ | .message _ _ => True
  | .reload | .edit _ => False

namespace Directory

variable {d d' : Directory}

theorem apply_of_forgets (d : Directory) (now : Nat) (p : Repository) {c : Command}
    {kind : EntityKind} {id : String} (h : c.Forgets kind id) :
    d.apply now p c = .ok (d.remove kind id).2 := by
  rcases h with rfl | ⟨rfl, rfl⟩ <;> rfl

/-- Every lookup finds what it found in the first directory, or nothing. -/
def Narrows (d d' : Directory) : Prop :=
  ∀ kind id v, d'.lookup kind id = some v → d.lookup kind id = some v

theorem narrows_remove (d : Directory) (kind : EntityKind) (id : String) :
    d.Narrows (d.remove kind id).2 := by
  intro kind' id' v h
  rw [lookup_remove] at h
  split at h
  · exact nomatch h
  · exact h

namespace Narrows

variable {sensorId accountId key : String} {presented : Option String} {m : Message} {s : Sensor}

theorem lookup_eq (h : d.Narrows d') {kind : EntityKind} {id : String}
    (hsome : (d'.lookup kind id).isSome) : d'.lookup kind id = d.lookup kind id := by
  obtain ⟨v, hv⟩ := Option.isSome_iff_exists.1 hsome
  rw [hv, h kind id v hv]

theorem keyPasses (h : d.Narrows d') (hpasses : d'.KeyPasses accountId key) :
    d.KeyPasses accountId key := by
  obtain ⟨k, hk, hwrites⟩ := hpasses
  exact ⟨k, h .apiKey key k hk, hwrites⟩

/-- Authorization asks only for entities to be there, never for one to be absent. -/
theorem admits (h : d.Narrows d') (hadmits : d'.Admits sensorId presented s) :
    d.Admits sensorId presented s := by
  obtain ⟨a, ha, husable⟩ := hadmits.account
  exact {
    sensor := h .sensor sensorId s hadmits.sensor
    account := ⟨a, h .account s.accountId a ha, husable⟩
    secret := h.keyPasses hadmits.secret
    presented := fun key hkey => h.keyPasses (hadmits.presented key hkey) }

/-- What is admitted is admitted still, if nothing that the message needs has been lost. -/
theorem admits_of_needs (h : d.Narrows d') (hadmits : d.Admits m.sensorId m.apiKey s)
    (hkept : ∀ kind id, d.Needs m kind id → (d'.lookup kind id).isSome) :
    d'.Admits m.sensorId m.apiKey s := by
  exact hadmits.of_needs fun kind id hneeds => h.lookup_eq (hkept kind id hneeds)

theorem admits_iff (h : d.Narrows d') :
    d'.Admits m.sensorId m.apiKey s ↔ d.Admits m.sensorId m.apiKey s ∧
      ∀ kind id, d.Needs m kind id → (d'.lookup kind id).isSome := by
  constructor
  · intro hadmits
    have hbefore := h.admits hadmits
    refine ⟨hbefore, fun kind id hneeds => ?_⟩
    -- both directories know the same sensor, and so need the same
    have hneeds' : d'.Needs m kind id := by
      cases hneeds with
      | sensor => exact .sensor
      | presented hkey => exact .presented hkey
      | account hsensor =>
        cases hbefore.sensor.symm.trans hsensor
        exact .account hadmits.sensor
      | secret hsensor =>
        cases hbefore.sensor.symm.trans hsensor
        exact .secret hadmits.sensor
    rw [Option.isSome_iff_ne_none]
    exact fun hnone => hneeds'.not_admits hnone s hadmits
  · rintro ⟨hadmits, hkept⟩
    exact h.admits_of_needs hadmits hkept

end Narrows

end Directory

namespace Installation

variable {x x' x'' : Installation}

/-- The second installation differs from the first, in what routing depends on, at most by lookups
that find nothing any more. -/
structure Withdrawn (x x' : Installation) : Prop where
  narrows : x.directory.Narrows x'.directory
  live : x'.directory.live = x.directory.live
  settings : x'.router.settings = x.router.settings
  topics : x'.router.state.queues.settings = x.router.state.queues.settings

namespace Withdrawn

theorem refl (x : Installation) : x.Withdrawn x :=
  ⟨fun _ _ _ h => h, rfl, rfl, rfl⟩

theorem trans (h : x.Withdrawn x') (h' : x'.Withdrawn x'') : x.Withdrawn x'' where
  narrows kind id v hv := h.narrows kind id v (h'.narrows kind id v hv)
  live := h'.live.trans h.live
  settings := h'.settings.trans h.settings
  topics := h'.topics.trans h.topics

/-- What is accepted now was accepted before, as one of the same sensor and with the same actions,
and nothing that it needs has been lost. -/
theorem accepts_iff (h : x.Withdrawn x') (present present' : Instant) (m : Message) (s : Sensor)
    (actions : List EventAction) :
    x'.router.Accepts x'.now present' m s actions ↔
      x.router.Accepts x.now present m s actions ∧
        ∀ kind id, x.directory.Needs m kind id → (x'.directory.lookup kind id).isSome := by
  have hlive : x'.router.state.directory.live = x.router.state.directory.live := h.live
  have hadmits : x'.router.state.directory.Admits m.sensorId m.apiKey s ↔ _ :=
    h.narrows.admits_iff
  rw [Router.accepts_iff, Router.accepts_iff, h.settings, h.topics, hlive, hadmits]
  constructor
  · rintro ⟨hvalid, ⟨hbefore, hkept⟩, hactions⟩
    exact ⟨⟨hvalid, hbefore, hactions⟩, hkept⟩
  · rintro ⟨⟨hvalid, hbefore, hactions⟩, hkept⟩
    exact ⟨hvalid, ⟨hbefore, hkept⟩, hactions⟩

end Withdrawn

/-! ### One step -/

/-- A step that leaves the router alone but for its directory. -/
theorem withdrawn_of_directory (hnarrows : x.directory.Narrows x'.directory)
    (hlive : x'.directory.live = x.directory.live)
    (hrouter : x'.router = x.router.withDirectory x'.directory) : x.Withdrawn x' where
  narrows := hnarrows
  live := hlive
  settings := by rw [hrouter]; rfl
  topics := by rw [hrouter]; rfl

theorem step_withdrawn (x : Installation) {e : InstallationEvent} (h : e.Withdraws) :
    x.Withdrawn (x.step e) := by
  cases e with
  | command payload =>
    rcases hc : Command.ofBytes payload with e | c
    · have hstep := step_command_of_error (x := x) hc
      refine withdrawn_of_directory ?_ (by rw [hstep]) rfl
      rw [hstep]
      exact fun _ _ _ hv => hv
    · obtain ⟨kind, id, hforgets⟩ := h c hc
      have hstep := step_command_of_ok hc (x.directory.apply_of_forgets _ _ hforgets)
      refine withdrawn_of_directory ?_ ?_ rfl
      · rw [hstep]
        exact x.directory.narrows_remove kind id
      · rw [hstep]
        exact (x.directory.replaces_remove kind id).live
  | sweep => exact withdrawn_of_directory (fun _ _ _ => Directory.lookup_of_sweep) rfl rfl
  | clock now => exact ⟨fun _ _ _ hv => hv, rfl, rfl, rfl⟩
  | message present m =>
    have hused := step_message_used (x := x) present m
    refine ⟨fun kind id v hv => ?_, hused.live_eq, rfl, ?_⟩
    · rwa [hused.lookup_eq] at hv
    · exact (RoutingStage.route_ruling x.router.settings x.now m x.router.state).2.settings
  | reload | edit _ => exact h.elim

/-! ### Runs -/

theorem run_withdrawn (x : Installation) {events : List InstallationEvent}
    (h : ∀ e ∈ events, e.Withdraws) : x.Withdrawn (x.run events) := by
  induction events using List.reverseRecOn with
  | nil => exact .refl x
  | append_singleton events e ih =>
    rw [run_snoc]
    have hbefore := ih fun e' he' => h e' (List.mem_append_left [e] he')
    exact hbefore.trans (step_withdrawn _ (h e (by simp)))

/-- Whatever is withdrawn, in any order and between any other messages, no message comes to be
accepted: those accepted in the end were accepted at the start, as messages of the same sensor. They
are the ones of which nothing needed has been lost. -/
theorem run_accepts_iff (x : Installation) {events : List InstallationEvent}
    (hevents : ∀ e ∈ events, e.Withdraws) (present present' : Instant) (m : Message) (s : Sensor)
    (actions : List EventAction) :
    (x.run events).router.Accepts (x.run events).now present' m s actions ↔
      x.router.Accepts x.now present m s actions ∧
        ∀ kind id, x.directory.Needs m kind id →
          ((x.run events).directory.lookup kind id).isSome :=
  (x.run_withdrawn hevents).accepts_iff present present' m s actions

set_option maxRecDepth 4000 in
/-- A message that is still accepted after another key was flushed, a command was not understood and
its sensor expired, was accepted right after the reload. -/
theorem run_accepts_iff_flush :
    let s : Sensor := { id := "s1", secret := "k1", accountId := "a1" }
    let r := (((Registry.empty.putAccount { id := "a1" }).putSensor s).putApiKey
      { key := "k1", accountId := "a1" }).putApiKey { key := "k9", accountId := "a1" }
    let x := run {
      repository := ⟨r, r.toRepository, r.servedBy_toRepository⟩
      router := {
        settings := {}, limits := default
        state := ⟨.empty { timeout := some 5, sliding := true }, .empty {}⟩ } } [.reload]
    let m : Message := { sensorId := "s1", stamp := default, content := .control "on" .device }
    let flush := "\x7b\"cmd\":\"FlushKey\",\"arguments\":\"k9\"\x7d".toUTF8
    let events : List InstallationEvent := [.message default { m with apiKey := some "k9" },
      .command flush, .command ⟨#[]⟩, .clock 7, .sweep]
    (∀ e ∈ events, e.Withdraws) ∧
      (x.run events).router.Accepts (x.run events).now default m s [.published] ∧
      x.router.Accepts x.now default m s [.published] ∧
      ¬ ((x.run events).directory.lookup .apiKey "k9").isSome := by
  intro s r x m flush events
  have hflush : (Command.ofBytes flush).toOption = some (.flush .apiKey "k9") := by decide +kernel
  have hblank : (Command.ofBytes ⟨#[]⟩).toOption = none := by decide +kernel
  have hevents : ∀ e ∈ events, e.Withdraws := by
    simp only [events, List.forall_mem_cons]
    refine ⟨trivial, fun c hc => ?_, fun c hc => ?_, trivial, trivial, by simp⟩
    · rw [hc] at hflush
      cases hflush
      exact ⟨.apiKey, "k9", .inl rfl⟩
    · rw [hc] at hblank
      exact nomatch hblank
  have haccepts : (x.run events).router.Accepts (x.run events).now default m s [.published] :=
    ⟨by decide +kernel, by decide +kernel⟩
  exact ⟨hevents, haccepts, ((x.run_accepts_iff hevents default default m s _).1 haccepts).1,
    by decide +kernel⟩

end Installation

end SensorRouter
