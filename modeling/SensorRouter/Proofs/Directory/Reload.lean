import SensorRouter.Proofs.Directory.Lookup
import SensorRouter.Proofs.Live.Refinement
import SensorRouter.Repository.Registry

/-!
Reloads part by part. A reload replaces the handlers, then the entities of each kind, then adds
routes; it stops at the first part that fails, and the parts before that one stay replaced.
-/

namespace SensorRouter

/-- All entities of a kind; of a sensor with the triggers of its rows. -/
def Repository.listing (p : Repository) :
    (kind : EntityKind) → Except RepositoryError (List kind.Entity)
  | .account => p.accounts
  | .sensor => do
    let sensors ← p.sensors
    let rows ← p.triggerRows
    return TriggerRow.attach rows sensors
  | .apiKey => p.apiKeys

namespace Directory

variable {α : Type} {d d' : Directory} {now : Nat} {p : Repository} {kind : EntityKind}

/-! ### Loading one kind -/

/-- A listing is refused when the cache has a capacity, unless it is empty. -/
def Accepts (d : Directory) (kind : EntityKind) (items : List kind.Entity) : Prop :=
  (d.options kind).capacity = none ∨ items = []

/-- The lookups of one kind are replaced, and all else is as it was. -/
structure Replaces (d d' : Directory) (kind : EntityKind) (found : String → Option kind.Entity) :
    Prop where
  found : ∀ id, d'.lookup kind id = found id
  others : ∀ kind' ≠ kind, ∀ id, d'.lookup kind' id = d.lookup kind' id
  options : ∀ kind', d'.options kind' = d.options kind'
  live : d'.live = d.live

theorem replaces_withCache (d : Directory) {c : Cache kind.Entity}
    (hoptions : c.options = d.options kind) : d.Replaces (d.withCache kind c) kind c.peek? where
  found id := by rw [lookup, cache_withCache]
  others kind' hne := d.lookup_withCache_of_ne c hne
  options kind' := d.options_withCache kind kind' c hoptions
  live := d.live_withCache kind c

/-- No lookup changes exactly if what is found for the kind is what was found before. -/
theorem Replaces.unchanged_iff {found : String → Option kind.Entity}
    (h : d.Replaces d' kind found) :
    (∀ kind' id, d'.lookup kind' id = d.lookup kind' id) ↔ ∀ id, found id = d.lookup kind id := by
  constructor
  · intro hall id
    rw [← h.found, hall]
  · intro hfound kind' id
    by_cases hkind : kind' = kind
    · subst hkind
      rw [h.found, hfound]
    · exact h.others kind' hkind id

/-- Together with later steps that keep the kind, no lookup changes exactly if neither the replacement
nor the later steps change one. -/
theorem Replaces.then_unchanged_iff {found : String → Option kind.Entity} {d'' : Directory}
    (h : d.Replaces d' kind found) (hkind : ∀ id, d''.lookup kind id = d'.lookup kind id) :
    (∀ kind' id, d''.lookup kind' id = d.lookup kind' id) ↔
      (∀ id, found id = d.lookup kind id) ∧
        ∀ kind' id, d''.lookup kind' id = d'.lookup kind' id := by
  constructor
  · intro hall
    have hfound : ∀ id, found id = d.lookup kind id := fun id => by
      rw [← h.found, ← hkind, hall]
    exact ⟨hfound, fun k id => (hall k id).trans (h.unchanged_iff.2 hfound k id).symm⟩
  · rintro ⟨hfound, hlater⟩ k id
    rw [hlater, h.unchanged_iff.2 hfound]

theorem refill_accepted (c : Cache α) (now : Nat) (key : α → String) {items : List α}
    (h : c.options.capacity = none ∨ items = []) :
    ∃ c', refill c now key items = (c', .ok items.length) ∧ c'.options = c.options ∧
      c'.peek? = Cache.lastWith? key items := by
  rcases h with hcapacity | rfl
  · obtain ⟨c', hrange, hoptions, hpeek⟩ := c.clear.putRange_unbounded hcapacity now key items
    exact ⟨c', hrange, hoptions, funext fun k => by simp [hpeek]⟩
  · exact ⟨c.clear, rfl, rfl, funext fun k => by simp⟩

theorem refill_refused (c : Cache α) (now : Nat) (key : α → String) {items : List α}
    (h : ¬ (c.options.capacity = none ∨ items = [])) :
    refill c now key items = (c.clear, .error .sizeRequired) := by
  rw [not_or] at h
  obtain ⟨a, rest, rfl⟩ := List.exists_cons_of_ne_nil h.2
  exact c.clear.putRange_bounded h.1 now key a rest

/-- An accepted listing is all that lookups of the kind find afterwards. -/
theorem load_accepted (now : Nat) {items : List kind.Entity} (h : d.Accepts kind items) :
    ∃ d', d.load now kind items = (d', .ok items.length) ∧
      d.Replaces d' kind (Cache.lastWith? kind.idOf items) := by
  obtain ⟨c, hrefill, hoptions, hpeek⟩ := refill_accepted (d.cache kind) now kind.idOf h
  refine ⟨d.withCache kind c, ?_, hpeek ▸ d.replaces_withCache hoptions⟩
  rw [load_eq, hrefill]

/-- A refused listing leaves nothing of the kind. -/
theorem load_refused (now : Nat) {items : List kind.Entity} (h : ¬ d.Accepts kind items) :
    ∃ d', d.load now kind items = (d', .error .sizeRequired) ∧
      d.Replaces d' kind fun _ => none := by
  refine ⟨d.withCache kind (d.cache kind).clear, ?_, d.replaces_withCache rfl⟩
  rw [load_eq, refill_refused _ _ _ h]

/-! ### Loading kinds in order -/

/-- Loads kinds of entities in order up to the first that fails. -/
def refresh (d : Directory) (now : Nat) (p : Repository) :
    List EntityKind → Directory × Except UpdateError Unit
  | [] => (d, .ok ())
  | kind :: rest =>
    match p.listing kind with
    | .error e => (d, .error (.repository e))
    | .ok items =>
      match d.load now kind items with
      | (d, .error e) => (d, .error (.cache e))
      | (d, .ok _) => d.refresh now p rest

/-- What loading kinds in order comes to, whether or not it fails. -/
theorem refresh_frame (d : Directory) (now : Nat) (p : Repository) (kinds : List EntityKind) :
    (d.refresh now p kinds).1.live = d.live ∧
      (∀ kind, (d.refresh now p kinds).1.options kind = d.options kind) ∧
      ∀ kind ∉ kinds, ∀ id, (d.refresh now p kinds).1.lookup kind id = d.lookup kind id := by
  induction kinds generalizing d with
  | nil => exact ⟨rfl, fun _ => rfl, fun _ _ _ => rfl⟩
  | cons kind rest ih =>
    rw [refresh]
    rcases p.listing kind with e | items
    · exact ⟨rfl, fun _ => rfl, fun _ _ _ => rfl⟩
    by_cases haccepts : d.Accepts kind items
    · obtain ⟨d', hload, hreplaces⟩ := load_accepted now haccepts
      obtain ⟨hlive, hoptions, hlookup⟩ := ih d'
      simp only [hload]
      refine ⟨hlive.trans hreplaces.live, fun k => (hoptions k).trans (hreplaces.options k), ?_⟩
      intro k hk id
      rw [List.mem_cons, not_or] at hk
      rw [hlookup k hk.2, hreplaces.others k hk.1]
    · obtain ⟨d', hload, hreplaces⟩ := load_refused now haccepts
      simp only [hload]
      refine ⟨hreplaces.live, hreplaces.options, fun k hk => ?_⟩
      exact hreplaces.others k fun heq => hk (heq ▸ List.mem_cons_self)

/-- After loading kinds without a failure, lookups find what was listed. -/
theorem refresh_found {kinds : List EntityKind} (hkinds : kinds.Nodup)
    (h : (d.refresh now p kinds).2 = .ok ()) (hkind : kind ∈ kinds) {items : List kind.Entity}
    (hitems : p.listing kind = .ok items) :
    d.Accepts kind items ∧
      ∀ id, (d.refresh now p kinds).1.lookup kind id = Cache.lastWith? kind.idOf items id := by
  induction kinds generalizing d with
  | nil => exact nomatch hkind
  | cons first rest ih =>
    obtain ⟨hfresh, hrest⟩ := List.nodup_cons.1 hkinds
    rw [refresh] at h ⊢
    rcases hfirst : p.listing first with e | firsts
    · rw [hfirst] at h
      exact nomatch h
    by_cases haccepts : d.Accepts first firsts
    · obtain ⟨d', hload, hreplaces⟩ := load_accepted now haccepts
      simp only [hfirst, hload] at h ⊢
      rcases List.mem_cons.1 hkind with rfl | hlater
      · cases hfirst.symm.trans hitems
        refine ⟨haccepts, fun id => ?_⟩
        rw [(d'.refresh_frame now p rest).2.2 kind hfresh, hreplaces.found]
      · obtain ⟨hlaterAccepts, hfound⟩ := ih hrest h hlater
        exact ⟨by rwa [Accepts, hreplaces.options] at hlaterAccepts, hfound⟩
    · obtain ⟨d', hload, -⟩ := load_refused now haccepts
      simp only [hfirst, hload] at h
      exact nomatch h

/-- Each part that is replaced up to the first failure held the same before. -/
def Keeps (d : Directory) (p : Repository) : List EntityKind → Prop
  | [] => True
  | kind :: rest => ∀ items, p.listing kind = .ok items →
    (d.Accepts kind items →
      (∀ id, Cache.lastWith? kind.idOf items id = d.lookup kind id) ∧ d.Keeps p rest) ∧
    (¬ d.Accepts kind items → ∀ id, d.lookup kind id = none)

theorem keeps_congr (kinds : List EntityKind)
    (hoptions : ∀ kind, d'.options kind = d.options kind)
    (hlookup : ∀ kind id, d'.lookup kind id = d.lookup kind id) :
    d'.Keeps p kinds ↔ d.Keeps p kinds := by
  induction kinds with
  | nil => exact Iff.rfl
  | cons kind rest ih => simp only [Keeps, Accepts, hoptions, hlookup, ih]

/-- Loading keeps what is found already. -/
theorem keeps_of_found {kinds : List EntityKind}
    (h : ∀ kind ∈ kinds, ∀ items, p.listing kind = .ok items →
      d.Accepts kind items ∧ ∀ id, d.lookup kind id = Cache.lastWith? kind.idOf items id) :
    d.Keeps p kinds := by
  induction kinds with
  | nil => exact trivial
  | cons kind rest ih =>
    obtain ⟨hkind, hrest⟩ := List.forall_mem_cons.1 h
    intro items hitems
    obtain ⟨haccepts, hfound⟩ := hkind items hitems
    exact ⟨fun _ => ⟨fun id => (hfound id).symm, ih hrest⟩, fun hrefused => absurd haccepts hrefused⟩

/-- Loading kinds leaves every lookup as it was exactly if all that it replaced was the same. -/
theorem refresh_unchanged_iff (d : Directory) (now : Nat) (p : Repository)
    {kinds : List EntityKind} (hkinds : kinds.Nodup) :
    (∀ kind id, (d.refresh now p kinds).1.lookup kind id = d.lookup kind id) ↔
      d.Keeps p kinds := by
  induction kinds generalizing d with
  | nil => simp [refresh, Keeps]
  | cons kind rest ih =>
    rw [refresh, Keeps]
    obtain ⟨hfresh, hrest⟩ := List.nodup_cons.1 hkinds
    rcases p.listing kind with e | items
    · simp
    simp only [Except.ok.injEq, forall_eq']
    by_cases haccepts : d.Accepts kind items
    · obtain ⟨d', hload, hreplaces⟩ := load_accepted now haccepts
      have hkind := (d'.refresh_frame now p rest).2.2 kind hfresh
      simp only [hload, haccepts, not_true, forall_const, false_implies, and_true]
      rw [hreplaces.then_unchanged_iff hkind, ih d' hrest]
      exact and_congr_right fun hsame =>
        keeps_congr rest hreplaces.options (hreplaces.unchanged_iff.2 hsame)
    · obtain ⟨d', hload, hreplaces⟩ := load_refused now haccepts
      simp only [hload, haccepts, hreplaces.unchanged_iff, false_implies, not_false_eq_true,
        forall_const, true_and]
      exact forall_congr' fun id => eq_comm

/-! ### The whole reload -/

/-- The parts of a reload, without what is reported of them. -/
def reloadParts (d : Directory) (now : Nat) (p : Repository) :
    Directory × Except UpdateError Unit :=
  match p.liveHandlers with
  | .error e => (d, .error (.repository e))
  | .ok handlers =>
    match (d.setHandlers handlers).refresh now p [.account, .sensor, .apiKey] with
    | (d, .error e) => (d, .error e)
    | (d, .ok ()) =>
      match p.liveRoutes with
      | .error e => (d, .error (.repository e))
      | .ok routes => ((d.addRoutes routes).2, .ok ())

theorem reload_eq_parts (d : Directory) (now : Nat) (p : Repository) :
    ((d.reload now p).1, (d.reload now p).2.map fun _ => ()) = d.reloadParts now p := by
  unfold reload reloadParts
  rcases p.liveHandlers with e | handlers
  · rfl
  simp only [refresh, Repository.listing, load]
  rcases p.accounts with e | accounts
  · rfl
  simp only
  rcases (d.setHandlers handlers).loadAccounts now accounts with ⟨d, e | accountCount⟩
  · rfl
  rcases p.sensors with e | sensors
  · rfl
  rcases p.triggerRows with e | rows
  · rfl
  simp only [bind, Except.bind, pure, Except.pure]
  rcases d.loadSensors now (TriggerRow.attach rows sensors) with ⟨d, e | sensorCount⟩
  · rfl
  rcases p.apiKeys with e | apiKeys
  · rfl
  simp only
  rcases d.loadApiKeys now apiKeys with ⟨d, e | apiKeyCount⟩
  · rfl
  rcases p.liveRoutes with e | routes
  · rfl
  · rfl

/-- Nothing that a reload replaces up to its first failure differs from what was there. -/
def Undisturbed (d : Directory) (p : Repository) : Prop :=
  ∀ handlers, p.liveHandlers = .ok handlers →
    (d.setHandlers handlers).live.handlers = d.live.handlers ∧
      d.Keeps p [.account, .sensor, .apiKey]

/-- A reload that fails after the handlers leaves what the loading of the kinds leaves. -/
theorem reloadParts_failed {e : UpdateError} (h : (d.reloadParts now p).2 = .error e)
    {handlers : List LiveHandler} (hhandlers : p.liveHandlers = .ok handlers) :
    (d.reloadParts now p).1 =
      ((d.setHandlers handlers).refresh now p [.account, .sensor, .apiKey]).1 := by
  revert h
  rw [reloadParts, hhandlers]
  simp only
  rcases (d.setHandlers handlers).refresh now p [.account, .sensor, .apiKey] with ⟨d', e | _⟩
  · exact fun _ => rfl
  rcases p.liveRoutes with e | routes
  · exact fun _ => rfl
  · exact nofun

theorem lookup_setHandlers (d : Directory) (handlers : List LiveHandler) (kind : EntityKind)
    (id : String) : (d.setHandlers handlers).lookup kind id = d.lookup kind id := by
  cases kind <;> rfl

theorem options_setHandlers (d : Directory) (handlers : List LiveHandler) (kind : EntityKind) :
    (d.setHandlers handlers).options kind = d.options kind := by
  cases kind <;> rfl

theorem lookup_addRoutes (d : Directory) (routes : List LiveRoute) (kind : EntityKind)
    (id : String) : (d.addRoutes routes).2.lookup kind id = d.lookup kind id := by
  cases kind <;> rfl

theorem options_addRoutes (d : Directory) (routes : List LiveRoute) (kind : EntityKind) :
    (d.addRoutes routes).2.options kind = d.options kind := by
  cases kind <;> rfl

/-- A reload that succeeds is answered on every part. -/
theorem reloadParts_ok (h : (d.reloadParts now p).2 = .ok ()) :
    ∃ handlers routes, p.liveHandlers = .ok handlers ∧ p.liveRoutes = .ok routes ∧
      ((d.setHandlers handlers).refresh now p [.account, .sensor, .apiKey]).2 = .ok () ∧
      (d.reloadParts now p).1 =
        (((d.setHandlers handlers).refresh now p [.account, .sensor, .apiKey]).1.addRoutes
          routes).2 := by
  revert h
  rw [reloadParts]
  rcases p.liveHandlers with e | handlers
  · exact nofun
  simp only
  rcases hrefresh : (d.setHandlers handlers).refresh now p [.account, .sensor, .apiKey] with
    ⟨d', e | _⟩
  · exact nofun
  rcases p.liveRoutes with e | routes
  · exact nofun
  · exact fun _ => ⟨handlers, routes, rfl, rfl, by rw [hrefresh], by rw [hrefresh]⟩

/-- Once a reload has succeeded, another one disturbs nothing if it is answered the same as far as it
is answered. -/
theorem undisturbed_of_reloaded {p p' : Repository} (h : (d.reloadParts now p).2 = .ok ())
    (hhandlers : ∀ handlers, p'.liveHandlers = .ok handlers → p.liveHandlers = .ok handlers)
    (hlisting : ∀ kind items, p'.listing kind = .ok items → p.listing kind = .ok items) :
    (d.reloadParts now p).1.Undisturbed p' := by
  obtain ⟨handlers, routes, hfirst, -, hok, heq⟩ := reloadParts_ok h
  obtain ⟨hlive, hoptions, -⟩ :=
    (d.setHandlers handlers).refresh_frame now p [.account, .sensor, .apiKey]
  intro handlers' hhandlers'
  cases hfirst.symm.trans (hhandlers handlers' hhandlers')
  rw [heq]
  constructor
  · change (LiveIndex.setHandlers _ handlers).handlers = (LiveIndex.addRoutes _ routes).2.handlers
    rw [LiveIndex.handlers_addRoutes, hlive]
    exact LiveIndex.handlers_setHandlers_congr _ d.live handlers
  · refine keeps_of_found fun kind hkind items hitems => ?_
    obtain ⟨haccepts, hfound⟩ := refresh_found (by decide) hok hkind (hlisting kind items hitems)
    refine ⟨?_, fun id => by rw [lookup_addRoutes, hfound]⟩
    rwa [Accepts, options_addRoutes, hoptions]

theorem reloadParts_failed_alike_iff {e : UpdateError}
    (h : (d.reloadParts now p).2 = .error e) :
    (d.reloadParts now p).1.live.routes = d.live.routes ∧
      (d.Alike (d.reloadParts now p).1 ↔ d.Undisturbed p) := by
  cases hhandlers : p.liveHandlers with
  | error e =>
    have hsame : (d.reloadParts now p).1 = d := by rw [reloadParts, hhandlers]
    rw [hsame]
    refine ⟨rfl, iff_of_true ⟨fun _ _ => rfl, rfl, rfl⟩ fun handlers hok => ?_⟩
    exact nomatch hhandlers.symm.trans hok
  | ok handlers =>
    rw [reloadParts_failed h hhandlers]
    obtain ⟨hlive, -, -⟩ :=
      (d.setHandlers handlers).refresh_frame now p [.account, .sensor, .apiKey]
    have hlookups := (d.setHandlers handlers).refresh_unchanged_iff now p
      (by decide : [EntityKind.account, .sensor, .apiKey].Nodup)
    rw [keeps_congr _ (d.options_setHandlers handlers) (d.lookup_setHandlers handlers)] at hlookups
    simp only [lookup_setHandlers] at hlookups
    have hroutes : ((d.setHandlers handlers).refresh now p [.account, .sensor, .apiKey]).1.live.routes
        = d.live.routes := by
      rw [hlive]
      rfl
    refine ⟨hroutes, fun halike => ?_, fun hkept => ?_⟩
    · intro handlers' hok
      cases hhandlers.symm.trans hok
      refine ⟨?_, hlookups.1 halike.lookup⟩
      rw [← hlive, halike.handlers]
    · obtain ⟨hsame, hkeeps⟩ := hkept handlers hhandlers
      exact ⟨hlookups.2 hkeeps, hroutes, by rw [hlive, hsame]⟩

end Directory

namespace ManagedDirectory

/-- A reload that fails counts nothing and keeps the routes. It keeps the rest as well exactly if
what it replaced before it failed was the same. -/
theorem failed_reload_keeps_iff (m : ManagedDirectory) (now : Nat) (p : Repository)
    {e : UpdateError} (h : (m.reload now p).2 = .error e) :
    (m.reload now p).1.counts = m.counts ∧
      (m.reload now p).1.directory.live.routes = m.directory.live.routes ∧
      (m.directory.Alike (m.reload now p).1.directory ↔ m.directory.Undisturbed p) := by
  have hparts := m.directory.reload_eq_parts now p
  unfold reload at h ⊢
  rcases hreload : m.directory.reload now p with ⟨d, e | summary⟩
  · rw [hreload] at hparts
    have hfailed : (m.directory.reloadParts now p).2 = .error e := by rw [← hparts]; rfl
    have hdirectory : (m.directory.reloadParts now p).1 = d := by rw [← hparts]
    have hkept := Directory.reloadParts_failed_alike_iff hfailed
    rw [hdirectory] at hkept
    exact ⟨rfl, hkept⟩
  · rw [hreload] at h
    exact nomatch h

/-- A second reload of the same registry that is refused the API keys keeps the account, the sensor with
its triggers, the key, the handler and the route that the first has loaded. -/
theorem failed_reload_keeps_loaded :
    let s : Sensor := { id := "s1", secret := "k1", accountId := "a1" }
    let k : ApiKey := { key := "k1", accountId := "a1" }
    let r := ((((Registry.empty.putAccount { id := "a1" }).putSensor s).putApiKey k).setTriggers "s1"
      []).setLiveHandlers [⟨"t1", true⟩]
    let p := { r.toRepository with liveRoutes := .ok [⟨"s1", "t1"⟩] }
    let p' := { p with apiKeys := .error (.unavailable "api_keys") }
    let m := (reload ⟨.empty {}, {}⟩ 0 p).1
    (m.directory.lookup .account "a1" = some { id := "a1" } ∧
      m.directory.lookup .sensor "s1" = some { s with triggers := some [] } ∧
      m.directory.lookup .apiKey "k1" = some k ∧
      m.directory.live.targets "s1" = ["t1"]) ∧
      (m.reload 5 p').2 = .error (.repository (.unavailable "api_keys")) ∧
      m.directory.Alike (m.reload 5 p').1.directory ∧ (m.reload 5 p').1.counts.reloads = 1 := by
  intro s k r p p' m
  have hfailed : (m.reload 5 p').2 = .error (.repository (.unavailable "api_keys")) := rfl
  obtain ⟨hcounts, -, halike⟩ := m.failed_reload_keeps_iff 5 p' hfailed
  have hlisting (kind : EntityKind) (items : List kind.Entity)
      (hitems : p'.listing kind = .ok items) : p.listing kind = .ok items := by
    cases kind with
    | apiKey => exact nomatch hitems
    | _ => exact hitems
  have hundisturbed : m.directory.Undisturbed p' :=
    Directory.undisturbed_of_reloaded (rfl : ((Directory.empty {}).reloadParts 0 p).2 = .ok ())
      (fun _ hhandlers => hhandlers) hlisting
  exact ⟨by decide +kernel, hfailed, halike.2 hundisturbed, by rw [hcounts]; rfl⟩

/-- A reload without an account that was known, and without an answer about the sensors, fails and
has forgotten the account. -/
theorem failed_reload_not_kept :
    ¬ ∀ (m : ManagedDirectory) (now : Nat) (p : Repository) (e : UpdateError),
      (m.reload now p).2 = .error e →
        m.directory.Alike (m.reload now p).1.directory ∧
          (m.reload now p).1.counts.reloads = m.counts.reloads := by
  intro h
  let full := (Registry.empty.putAccount { id := "a1" }).toRepository
  let bare := { Registry.empty.toRepository with sensors := .error (.unavailable "sensors") }
  let m := (reload ⟨.empty {}, {}⟩ 0 full).1
  have hlookup := (h m 0 bare (.repository (.unavailable "sensors")) rfl).1.lookup .account "a1"
  have hbefore : m.directory.lookup .account "a1" = some { id := "a1" } := rfl
  have hafter : (m.reload 0 bare).1.directory.lookup .account "a1" = none := rfl
  rw [hbefore, hafter] at hlookup
  exact nomatch hlookup

end ManagedDirectory

end SensorRouter
