import SensorRouter.Proofs.Directory.Retention
import SensorRouter.Proofs.Installation.Provenance
import SensorRouter.Proofs.Routing.Acceptance

/-!
Traffic keeps authorization alive. A router runs on a clock that never goes back, and its repository
may change, or fail to answer, from one event to the next. With sliding expiration a message that was
accepted can be sent again until the third sweep after the timeout, unless a command was about something
that it needs.
-/

namespace SensorRouter

/-- What happens to a router. A command or a reload comes with what the repository answers then. -/
inductive RouterEvent where
  | message (present : Instant) (m : Message)
  | command (repository : Repository) (payload : ByteArray)
  | reload (repository : Repository)
  | sweep
  | wait (duration : Nat)

/-- The event is not about anything that a message needs: no reload, and a command only if it is about
another entity, and the repository answers with the one that the command is about. -/
def RouterEvent.Spares (d : Directory) (m : Message) : RouterEvent → Prop
  | .command p payload =>
    p.Keyed ∧ ∀ c, Command.ofBytes payload = .ok c → ∀ kind id, d.Needs m kind id →
      ¬ c.Addresses (.entity kind id)
  | .reload _ => False
  | .message _ _ | .sweep | .wait _ => True

/-- A router, the counts of its updates, and the time on its clock. -/
structure ClockedRouter where
  router : Router
  counts : UpdateCounts := {}
  now : Nat := 0

namespace ClockedRouter

def directory (x : ClockedRouter) : Directory :=
  x.router.state.directory

def managed (x : ClockedRouter) : ManagedDirectory :=
  ⟨x.directory, x.counts⟩

def withManaged (x : ClockedRouter) (m : ManagedDirectory) : ClockedRouter :=
  { x with router := x.router.withDirectory m.directory, counts := m.counts }

def step (x : ClockedRouter) : RouterEvent → ClockedRouter
  | .message present m => { x with router := (x.router.route x.now present m).2 }
  | .command repository payload => x.withManaged (x.managed.handle x.now repository payload).1
  | .reload repository => x.withManaged (x.managed.reload x.now repository).1
  | .sweep => { x with router := x.router.withDirectory (x.directory.sweep x.now).2 }
  | .wait duration => { x with now := x.now + duration }

/-- The router after events in order. -/
def run (x : ClockedRouter) (events : List RouterEvent) : ClockedRouter :=
  events.foldl step x

theorem run_cons (x : ClockedRouter) (e : RouterEvent) (rest : List RouterEvent) :
    x.run (e :: rest) = (x.step e).run rest := rfl

theorem run_append (x : ClockedRouter) (events later : List RouterEvent) :
    x.run (events ++ later) = (x.run events).run later :=
  List.foldl_append

/-- Whether an event is a sweep later than a time, as a number. -/
def lateSweep (x : ClockedRouter) (deadline : Nat) : RouterEvent → Nat
  | .sweep => if deadline < x.now then 1 else 0
  | _ => 0

/-- How many of the events are sweeps later than a time. -/
def lateSweeps (x : ClockedRouter) (deadline : Nat) : List RouterEvent → Nat
  | [] => 0
  | e :: rest => x.lateSweep deadline e + (x.step e).lateSweeps deadline rest

/-! ### One event -/

variable {x : ClockedRouter} {T : Nat}

/-- A command leaves the directory as it is, or it is understood and applied. -/
theorem step_command (x : ClockedRouter) (p : Repository) (payload : ByteArray) :
    (x.step (.command p payload)).directory = x.directory ∨
      ∃ c, Command.ofBytes payload = .ok c ∧
        x.directory.apply x.now p c = .ok (x.step (.command p payload)).directory := by
  change (x.managed.handle x.now p payload).1.directory = _ ∨ ∃ c, _ ∧
    _ = Except.ok (x.managed.handle x.now p payload).1.directory
  rw [ManagedDirectory.handle]
  cases hc : Command.ofBytes payload with
  | error e => exact .inl rfl
  | ok c =>
    simp only [Except.mapError, managed, bind, Except.bind]
    cases happly : x.directory.apply x.now p c with
    | error e => exact .inl rfl
    | ok d => exact .inr ⟨c, rfl, happly⟩

theorem step_reload (x : ClockedRouter) (p : Repository) :
    (x.step (.reload p)).directory = (x.directory.reload x.now p).1 := by
  change (x.managed.reload x.now p).1.directory = (x.managed.directory.reload x.now p).1
  rw [ManagedDirectory.reload]
  rcases x.managed.directory.reload x.now p with ⟨d, e | summary⟩ <;> rfl

theorem step_message_used (x : ClockedRouter) (present : Instant) (m : Message) :
    Directory.Used x.now x.directory (x.step (.message present m)).directory :=
  RoutingStage.route_used x.router.settings x.now m x.router.state

theorem le_now_step (x : ClockedRouter) (e : RouterEvent) : x.now ≤ (x.step e).now := by
  cases e with
  | wait duration => exact Nat.le_add_right x.now duration
  | _ => exact Nat.le_refl x.now

theorem settings_step (x : ClockedRouter) (e : RouterEvent) :
    (x.step e).router.settings = x.router.settings := by
  cases e <;> rfl

theorem slides_step (hx : x.directory.Slides T) (e : RouterEvent) :
    (x.step e).directory.Slides T := by
  cases e with
  | message present m => exact hx.used (x.step_message_used present m)
  | command p payload =>
    rcases x.step_command p payload with hsame | ⟨c, -, happly⟩
    · rwa [hsame]
    · exact hx.apply happly
  | reload p =>
    rw [x.step_reload p]
    exact hx.reload x.now p
  | sweep => exact hx.sweep x.now
  | wait duration => exact hx

/-- With sliding expiration every entry has the default timeout, whatever has happened. -/
theorem slides_run (hx : x.directory.Slides T) (events : List RouterEvent) :
    (x.run events).directory.Slides T := by
  induction events generalizing x with
  | nil => exact hx
  | cons e rest ih => exact ih (slides_step hx e)

/-! ### What an accepted message needs -/

/-- Since a time the router has had all that a message needed of an earlier directory, and at most
`late` sweeps have moved any of it on its way out. -/
structure Retains (x : ClockedRouter) (d : Directory) (m : Message) (T since late : Nat) : Prop where
  since_le : since ≤ x.now
  entities : ∀ kind id, d.Needs m kind id →
    ∃ v, d.lookup kind id = some v ∧ x.directory.Retains kind id v T since late

/-- An accepted message renews all that it needs. -/
theorem retains_of_accepts (hx : x.directory.Slides T) {present : Instant} {m : Message} {s : Sensor}
    {actions : List EventAction} (h : x.router.Accepts x.now present m s actions) :
    (x.step (.message present m)).Retains x.directory m T x.now 0 := by
  obtain ⟨hvalid, hadmits, -⟩ := (x.router.accepts_iff x.now present m s actions).1 h
  have hauthorize := (x.directory.authorize_eq_ok_iff x.now m.sensorId m.apiKey s).2 hadmits
  let after := (x.directory.authorize x.now m.sensorId m.apiKey).2
  obtain ⟨queues, -, hroute⟩ :=
    RoutingStage.route_of_authorized hvalid (Prod.ext hauthorize (rfl : after = after))
  have hafter : (x.step (.message present m)).directory = after := by
    change (Pipeline.route (RoutingStage.standard x.router.settings x.now) m
      x.router.state).2.directory = after
    rw [hroute]
  obtain ⟨hsensor, haccount, hkeys⟩ := hadmits.meets x.now
  rw [Directory.forall_checkedKeys] at hkeys
  refine ⟨Nat.le_refl x.now, fun kind id hneeds => ?_⟩
  rw [hafter]
  cases hneeds with
  | sensor => exact ⟨s, hadmits.sensor, hsensor.retains hx hadmits.sensor⟩
  | account hfound =>
    cases hfound.symm.trans hadmits.sensor
    obtain ⟨a, ha, -⟩ := hadmits.account
    exact ⟨a, ha, haccount.retains hx ha⟩
  | secret hfound =>
    cases hfound.symm.trans hadmits.sensor
    obtain ⟨k, hk, -⟩ := hadmits.secret
    exact ⟨k, hk, hkeys.1.retains hx hk⟩
  | presented hkey =>
    obtain ⟨k, hk, -⟩ := hadmits.presented id hkey
    exact ⟨k, hk, (hkeys.2 id hkey).retains hx hk⟩

variable {d : Directory} {m : Message} {since late : Nat}

/-- An event that spares the message costs it at most a sweep, and only after the timeout. -/
theorem Retains.step (h : x.Retains d m T since late) {e : RouterEvent} (hspares : e.Spares d m)
    (hfew : late + x.lateSweep (since + T) e < 3) :
    (x.step e).Retains d m T since (late + x.lateSweep (since + T) e) := by
  refine ⟨h.since_le.trans (x.le_now_step e), fun kind id hneeds => ?_⟩
  obtain ⟨v, hfound, hretains⟩ := h.entities kind id hneeds
  refine ⟨v, hfound, ?_⟩
  cases e with
  | message present m' => exact hretains.used h.since_le (x.step_message_used present m')
  | command p payload =>
    obtain ⟨hkeyed, hspares⟩ := hspares
    rcases x.step_command p payload with hsame | ⟨c, hc, happly⟩
    · rw [hsame]
      exact hretains
    · exact hretains.of_held? (Directory.held?_apply hkeyed happly (hspares c hc kind id hneeds))
  | reload p => exact hspares.elim
  | sweep => exact hretains.sweep rfl hfew
  | wait duration => exact hretains

theorem Retains.run (h : x.Retains d m T since late) {events : List RouterEvent}
    (hspares : ∀ e ∈ events, e.Spares d m)
    (hfew : late + x.lateSweeps (since + T) events < 3) :
    (x.run events).Retains d m T since (late + x.lateSweeps (since + T) events) := by
  induction events generalizing x late with
  | nil => exact h
  | cons e rest ih =>
    obtain ⟨he, hrest⟩ := List.forall_mem_cons.1 hspares
    rw [lateSweeps, ← Nat.add_assoc] at hfew ⊢
    have hstep := h.step he (Nat.lt_of_le_of_lt (Nat.le_add_right _ _) hfew)
    exact ih hstep hrest hfew

theorem settings_run (x : ClockedRouter) (events : List RouterEvent) :
    (x.run events).router.settings = x.router.settings := by
  induction events generalizing x with
  | nil => rfl
  | cons e rest ih => exact (ih (x.step e)).trans (x.settings_step e)

/-- A message that was accepted at a time is accepted again after any events that spare what it needs,
as one of the same sensor, as long as fewer than three sweeps have come later than the default timeout
after that time. -/
theorem run_accepts_again (hx : x.directory.Slides T) (before : List RouterEvent) {present : Instant}
    {m : Message} {s : Sensor} {actions : List EventAction}
    (haccepts : (x.run before).router.Accepts (x.run before).now present m s actions)
    {after : List RouterEvent} (hspares : ∀ e ∈ after, e.Spares (x.run before).directory m)
    (hfew : ((x.run before).step (.message present m)).lateSweeps ((x.run before).now + T) after < 3)
    (present' : Instant) :
    let y := x.run (before ++ .message present m :: after)
    ∃ actions', y.router.Accepts y.now present' m s actions' := by
  intro y
  have hy : y = ((x.run before).step (.message present m)).run after := by
    rw [← run_cons, ← run_append]
  have hretains := (retains_of_accepts (slides_run hx before) haccepts).run hspares
    (by rwa [Nat.zero_add])
  obtain ⟨hvalid, hadmits, -⟩ := ((x.run before).router.accepts_iff ..).1 haccepts
  have hsettings : y.router.settings = (x.run before).router.settings := by
    rw [hy, settings_run, settings_step]
  have hadmitted : y.directory.Admits m.sensorId m.apiKey s := by
    refine Directory.Admits.of_needs hadmits fun kind id hneeds => ?_
    obtain ⟨v, hfound, hlater⟩ := hretains.entities kind id hneeds
    rw [hy]
    exact hlater.lookup.trans hfound.symm
  refine ⟨_, (y.router.accepts_iff y.now present' m s _).2 ⟨?_, hadmitted, rfl⟩⟩
  rw [hsettings]
  exact hvalid

set_option maxRecDepth 4000 in
/-- Two sweeps after the timeout, with a message of another sensor, a flush of another key and a command
that the repository cannot answer between them, leave the message accepted. -/
theorem run_accepts_again_swept_twice :
    let s : Sensor := { id := "s1", secret := "k1", accountId := "a1" }
    let r := (((Registry.empty.putAccount { id := "a1" }).putSensor s).putApiKey
      { key := "k1", accountId := "a1" }).putApiKey { key := "k9", accountId := "a1" }
    let down := { r.toRepository with account := fun _ => .error (.unavailable "accounts") }
    let x : ClockedRouter := { router := {
      settings := {}, limits := default
      state := ⟨.empty { timeout := some 5, sliding := true }, .empty {}⟩ } }
    let m : Message := { sensorId := "s1", stamp := default, content := .control "on" .device }
    let flush := "\x7b\"cmd\":\"FlushKey\",\"arguments\":\"k9\"\x7d".toUTF8
    let add := "\x7b\"cmd\":\"AddUser\",\"arguments\":\"a2\"\x7d".toUTF8
    let after : List RouterEvent := [.wait 6, .sweep, .message default { m with sensorId := "s2" },
      .command r.toRepository flush, .command down add, .wait 1, .sweep]
    let y := x.run ([.reload r.toRepository] ++ .message default m :: after)
    x.directory.Slides 5 ∧ y.router.Accepts y.now default m s [.published] ∧
      ∃ actions, y.router.Accepts y.now default m s actions := by
  intro s r down x m flush add after y
  have hflush : (Command.ofBytes flush).toOption = some (.flush .apiKey "k9") := by decide +kernel
  have hadd : (Command.ofBytes add).toOption = some (.add .account "a2") := by decide +kernel
  have hx : x.directory.Slides 5 := Directory.slides_empty rfl rfl
  have hkeyed : r.toRepository.Keyed := r.servedBy_toRepository.keyed
  have hdown : down.Keyed := by
    intro kind id v hfetch
    cases kind with
    | account => exact nomatch hfetch
    | sensor => exact hkeyed .sensor id v hfetch
    | apiKey => exact hkeyed .apiKey id v hfetch
  let d := (x.run [.reload r.toRepository]).directory
  have hsensor : d.lookup .sensor "s1" = some s := by decide +kernel
  have hneeds : ∀ kind id, d.Needs m kind id → id = "s1" ∨ id = "a1" ∨ id = "k1" := by
    intro kind id hneeds
    cases hneeds with
    | sensor => exact .inl rfl
    | account hfound => cases hfound.symm.trans hsensor; exact .inr (.inl rfl)
    | secret hfound => cases hfound.symm.trans hsensor; exact .inr (.inr rfl)
    | presented hkey => exact nomatch hkey
  have hspares : ∀ e ∈ after, e.Spares d m := by
    simp only [after, List.forall_mem_cons]
    refine ⟨trivial, trivial, trivial, ⟨hkeyed, fun c hc kind id h => ?_⟩,
      ⟨hdown, fun c hc kind id h => ?_⟩, trivial, trivial, by simp⟩
    · rw [hc] at hflush
      cases hflush
      rcases hneeds kind id h with rfl | rfl | rfl <;> simp [Command.Addresses, Command.Forgets]
    · rw [hc] at hadd
      cases hadd
      rcases hneeds kind id h with rfl | rfl | rfl <;> simp [Command.Addresses, Command.Forgets]
  have haccepts : (x.run [.reload r.toRepository]).router.Accepts
      (x.run [.reload r.toRepository]).now default m s [.published] :=
    ⟨by decide +kernel, by decide +kernel⟩
  have hfew : ((x.run [.reload r.toRepository]).step (.message default m)).lateSweeps
      ((x.run [.reload r.toRepository]).now + 5) after < 3 := by
    decide +kernel
  have hlast : y.router.Accepts y.now default m s [.published] :=
    ⟨by decide +kernel, by decide +kernel⟩
  exact ⟨hx, hlast, run_accepts_again hx [.reload r.toRepository] haccepts hspares hfew default⟩

end ClockedRouter

end SensorRouter
