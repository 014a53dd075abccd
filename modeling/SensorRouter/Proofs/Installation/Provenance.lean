import SensorRouter.Proofs.Installation.Basic

/-!
Where the entities that can authorize a message come from. In a run from an empty directory each of
them is what the last event to load its id made of the registry's, and no later command has forgotten
it. What has been forgotten authorizes nothing until an event finds it in the registry again.
-/

namespace SensorRouter

/-- A message needs an entity: its sensor, the account or the secret of the sensor, or the key that it
presents. -/
inductive Directory.Needs (d : Directory) (m : Message) : EntityKind → String → Prop
  | sensor : d.Needs m .sensor m.sensorId
  | account {s : Sensor} (h : d.lookup .sensor m.sensorId = some s) : d.Needs m .account s.accountId
  | secret {s : Sensor} (h : d.lookup .sensor m.sensorId = some s) : d.Needs m .apiKey s.secret
  | presented {key : String} (h : m.apiKey = some key) : d.Needs m .apiKey key

/-- A message is not admitted when something that it needs is not known. -/
theorem Directory.Needs.not_admits {d : Directory} {m : Message} {kind : EntityKind} {id : String}
    (hneeds : d.Needs m kind id) (hnone : d.lookup kind id = none) (s : Sensor) :
    ¬ d.Admits m.sensorId m.apiKey s := by
  intro h
  cases hneeds with
  | sensor => exact nomatch hnone.symm.trans h.sensor
  | account hsensor =>
    cases hsensor.symm.trans h.sensor
    obtain ⟨a, ha, -⟩ := h.account
    exact nomatch hnone.symm.trans ha
  | secret hsensor =>
    cases hsensor.symm.trans h.sensor
    obtain ⟨k, hk, -⟩ := h.secret
    exact nomatch hnone.symm.trans hk
  | presented hkey =>
    obtain ⟨k, hk, -⟩ := h.presented id hkey
    exact nomatch hnone.symm.trans hk

/-- What is admitted is admitted still, if nothing that the message needs has changed. -/
theorem Directory.Admits.of_needs {d d' : Directory} {m : Message} {s : Sensor}
    (h : d.Admits m.sensorId m.apiKey s)
    (hsame : ∀ kind id, d.Needs m kind id → d'.lookup kind id = d.lookup kind id) :
    d'.Admits m.sensorId m.apiKey s := by
  have hkey (key : String) (hneeds : d.Needs m .apiKey key)
      (hpasses : d.KeyPasses s.accountId key) : d'.KeyPasses s.accountId key := by
    rwa [KeyPasses, hsame .apiKey key hneeds]
  exact {
    sensor := (hsame .sensor _ .sensor).trans h.sensor
    account := by rw [hsame .account _ (.account h.sensor)]; exact h.account
    secret := hkey _ (.secret h.sensor) h.secret
    presented := fun key hmem => hkey key (.presented hmem) (h.presented key hmem) }

namespace Installation

variable {x : Installation} {kind : EntityKind} {id : String}

/-- An event of a run is the last to load an id, and to forget it, and it made an entity of the
registry's. -/
structure LoadedLast (x : Installation) (before : List InstallationEvent) (e : InstallationEvent)
    (after : List InstallationEvent) (kind : EntityKind) (id : String) (v : kind.Entity) : Prop where
  loads : e.Loads kind id
  stored : ((x.run before).repository.contents.stored kind id).isSome
  made : e.loaded (x.run before).repository.contents kind id = some v
  untouched : ∀ e' ∈ after, ¬ e'.Loads kind id ∧ ¬ e'.Forgets kind id

/-- No event of a run that loads an id finds it in the registry. -/
def Misses (x : Installation) (events : List InstallationEvent) (kind : EntityKind) (id : String) :
    Prop :=
  ∀ before e after, events = before ++ e :: after → e.Loads kind id →
    (x.run before).repository.contents.stored kind id = none

theorem misses_nil (x : Installation) (kind : EntityKind) (id : String) : x.Misses [] kind id :=
  fun before e after heq => by simp at heq

theorem misses_cons (x : Installation) (e : InstallationEvent) (events : List InstallationEvent) :
    x.Misses (e :: events) kind id ↔
      (e.Loads kind id → x.repository.contents.stored kind id = none) ∧
        (x.step e).Misses events kind id := by
  constructor
  · intro h
    refine ⟨h [] e events rfl, fun before e' after heq => ?_⟩
    exact h (e :: before) e' after (by rw [heq, List.cons_append])
  · rintro ⟨hfirst, hrest⟩ before e' after heq
    cases before with
    | nil =>
      cases heq
      exact hfirst
    | cons e₀ before =>
      cases heq
      exact hrest before e' after rfl

theorem run_append (x : Installation) (events events' : List InstallationEvent) :
    x.run (events ++ events') = (x.run events).run events' :=
  List.foldl_append

/-- What a lookup finds after a run, an event of the run has loaded last, unless it was found before
the run. -/
theorem loadedLast_of_run (hx : x.directory.Unbounded)
    (hvacant : x.directory.lookup kind id = none) (events : List InstallationEvent)
    {v : kind.Entity} (h : (x.run events).directory.lookup kind id = some v) :
    ∃ before e after, events = before ++ e :: after ∧ x.LoadedLast before e after kind id v := by
  induction events using List.reverseRecOn with
  | nil => exact nomatch hvacant.symm.trans h
  | append_singleton events e ih =>
    rw [run_snoc] at h
    have hd := run_unbounded hx events
    by_cases hloads : e.Loads kind id
    · rw [step_of_loads hd hloads] at h
      refine ⟨events, e, [], rfl, hloads, ?_, h, by simp⟩
      rw [← e.isSome_loaded, h]
      rfl
    · by_cases hforgets : e.Forgets kind id
      · exact nomatch (step_of_forgets hd hforgets).symm.trans h
      · obtain ⟨before, e₀, after, rfl, hlast⟩ := ih (lookup_of_step hd hloads hforgets h)
        refine ⟨before, e₀, after ++ [e], by simp, hlast.loads, hlast.stored, hlast.made, ?_⟩
        intro e' he'
        rcases List.mem_append.1 he' with hold | hnew
        · exact hlast.untouched e' hold
        · cases List.mem_singleton.1 hnew
          exact ⟨hloads, hforgets⟩

/-- What is not known stays unknown while no event finds it. -/
theorem lookup_of_misses (hx : x.directory.Unbounded) (hnone : x.directory.lookup kind id = none)
    {events : List InstallationEvent} (h : x.Misses events kind id) :
    (x.run events).directory.lookup kind id = none := by
  induction events generalizing x with
  | nil => exact hnone
  | cons e rest ih =>
    obtain ⟨hfirst, hrest⟩ := (x.misses_cons e rest).1 h
    refine ih (step_unbounded hx e) ?_ hrest
    by_cases hloads : e.Loads kind id
    · rw [step_of_loads hx hloads, ← Option.isNone_iff_eq_none, ← Option.not_isSome,
        e.isSome_loaded, hfirst hloads]
      rfl
    · by_cases hforgets : e.Forgets kind id
      · exact step_of_forgets hx hforgets
      · refine Option.eq_none_iff_forall_not_mem.2 fun v hv => ?_
        exact nomatch hnone.symm.trans (lookup_of_step hx hloads hforgets hv)

/-- Everything that can authorize a message was loaded from the registry and not forgotten since, and
what was forgotten authorizes nothing until the registry is found to have it. -/
theorem run_provenance (x : Installation) {options : CacheOptions}
    (hcapacity : options.capacity = none) (hx : x.directory = .empty options)
    (events : List InstallationEvent) :
    (∀ kind id v, (x.run events).directory.lookup kind id = some v →
      kind.idOf v = id ∧
        ∃ before e after, events = before ++ e :: after ∧
          x.LoadedLast before e after kind id v) ∧
    ∀ kind id before e after, events = before ++ e :: after → e.Forgets kind id →
      ((x.run before).step e).Misses after kind id →
        ∀ present m, (x.run events).directory.Needs m kind id →
          let routed := (x.run events).router.route (x.run events).now present m
          (∃ reason, routed.1 = .error reason) ∧
            routed.2.state.queues.SameCopies (x.run events).router.state.queues := by
  have hd : x.directory.Unbounded := hx ▸ Directory.unbounded_empty hcapacity
  constructor
  · intro kind id v hfound
    have hvacant : x.directory.lookup kind id = none := by
      rw [hx]
      cases kind <;> rfl
    obtain ⟨before, e, after, heq, hlast⟩ := loadedLast_of_run hd hvacant events hfound
    exact ⟨InstallationEvent.idOf_of_loaded hlast.made, before, e, after, heq, hlast⟩
  · intro kind id before e after heq hforgets hmisses present m hneeds
    have hbefore := run_unbounded hd before
    have hsplit : x.run events = ((x.run before).step e).run after := by
      rw [heq, run_append]
      rfl
    have hnone : (x.run events).directory.lookup kind id = none := by
      rw [hsplit]
      exact lookup_of_misses (step_unbounded hbefore e) (step_of_forgets hbefore hforgets) hmisses
    exact RoutingStage.route_of_not_admitted _ _ (hneeds.not_admits hnone)

set_option maxRecDepth 4000 in
/-- A sensor is flushed and leaves the registry. Two reloads later its message, accepted at first, is
rejected, and the account, which is still found, has an event of the run that loaded it last. -/
theorem run_provenance_flushed :
    let s : Sensor := { id := "s1", secret := "k1", accountId := "a1" }
    let r := ((Registry.empty.putAccount { id := "a1" }).putSensor s).putApiKey
      { key := "k1", accountId := "a1" }
    let left := r.removeSensor "s1"
    let x : Installation := {
      repository := ⟨r, r.toRepository, r.servedBy_toRepository⟩
      router := {
        settings := {}, limits := default
        state := ⟨.empty { timeout := some 5, sliding := true }, .empty {}⟩ } }
    let m : Message := { sensorId := "s1", stamp := default, content := .control "on" .device }
    let flush := "\x7b\"cmd\":\"FlushSensor\",\"arguments\":\"s1\"\x7d".toUTF8
    let events : List InstallationEvent := [.reload, .message default m, .command flush,
      .edit ⟨left, left.toRepository, left.servedBy_toRepository⟩, .reload, .clock 7, .sweep, .reload]
    ((x.run [.reload]).router.route 0 default m).1 = .ok [.published] ∧
      (∃ before e after, events = before ++ e :: after ∧
        x.LoadedLast before e after .account "a1" { id := "a1" }) ∧
      let routed := (x.run events).router.route (x.run events).now default m
      (∃ reason, routed.1 = .error reason) ∧
        routed.2.state.queues.SameCopies (x.run events).router.state.queues := by
  intro s r left x m flush events
  obtain ⟨hloaded, hforgotten⟩ := x.run_provenance rfl rfl events
  have hfound : (x.run events).directory.lookup .account "a1" = some { id := "a1" } := by
    decide +kernel
  have hflush : (Command.ofBytes flush).toOption = some (.flush .sensor "s1") := by decide +kernel
  have hforgets : (InstallationEvent.command flush).Forgets .sensor "s1" := by
    cases hcommand : Command.ofBytes flush with
    | error e =>
      rw [hcommand] at hflush
      exact nomatch hflush
    | ok c =>
      rw [hcommand] at hflush
      cases hflush
      exact ⟨_, hcommand, .inl rfl⟩
  have hmisses : ((x.run [.reload, .message default m]).step (.command flush)).Misses
      (events.drop 3) .sensor "s1" := by
    simp only [events, List.drop_succ_cons, List.drop_zero, misses_cons]
    exact ⟨False.elim, fun _ => rfl, False.elim, False.elim, fun _ => rfl, misses_nil _ _ _⟩
  exact ⟨by decide +kernel, (hloaded .account "a1" _ hfound).2,
    hforgotten .sensor "s1" _ _ _ rfl hforgets hmisses default m .sensor⟩

end Installation

end SensorRouter
