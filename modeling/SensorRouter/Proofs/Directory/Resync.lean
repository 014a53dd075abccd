import SensorRouter.Proofs.Directory.Loading
import SensorRouter.Proofs.Live.Refinement

/-!
What a reload that succeeds comes to. The entities and handlers of the directory are those of the
registry, whatever order its listings have; routes are only added. A second reload of the same
registry changes nothing that can be seen.
-/

namespace SensorRouter

/-! ### Counts of listings -/

theorem Cache.putRange_eq_ok {α : Type} {c c' : Cache α} {now n : Nat}
    {items : List (String × α × EntryOptions)} (h : c.putRange now items = (c', .ok n)) :
    n = items.length := by
  induction items generalizing c n with
  | nil =>
    cases h
    rfl
  | cons item rest ih =>
    obtain ⟨key, value, options⟩ := item
    revert h
    rw [putRange]
    rcases c.put now key value options with e | c₁
    · rintro ⟨⟩
    rcases hrest : c₁.putRange now rest with ⟨c₂, e | m⟩
    · simp only [hrest]
      rintro ⟨⟩
    · simp only [hrest]
      rintro ⟨⟩
      rw [ih hrest, List.length_cons]

theorem Directory.refill_eq_ok {α : Type} {c c' : Cache α} {now n : Nat} {key : α → String}
    {items : List α} (h : refill c now key items = (c', .ok n)) : n = items.length := by
  simpa using Cache.putRange_eq_ok h

namespace TriggerRow

theorem length_attach (rows : List TriggerRow) (sensors : List Sensor) :
    (attach rows sensors).length = sensors.length := by
  induction sensors generalizing rows with
  | nil => rfl
  | cons s rest ih => rw [attach, List.length_cons, ih, List.length_cons]

/-- The number of a registry's rows without a sensor does not depend on the order of listings. -/
theorem orphans_of_perm {r : Registry} {rows : List TriggerRow} {sensors : List Sensor}
    (hrows : rows.Perm r.triggerRows) (hsensors : sensors.Perm r.sensors.values) :
    orphans rows sensors = r.triggers.keys.countP fun id => (r.sensors.get? id).isNone := by
  rw [orphans, hrows.countP_eq, Registry.triggerRows, List.countP_map, Dict.keys, List.countP_map]
  refine List.countP_congr fun e _ => ?_
  have hlisted : (sensors.any fun s => s.id = e.1) = (r.sensors.get? e.1).isSome := by
    rw [Bool.eq_iff_iff, List.any_eq_true, Option.isSome_iff_exists]
    constructor
    · rintro ⟨s, hmem, hid⟩
      have hget := (Dict.Keyed.mem_values_iff r.sensors_keyed).1 (hsensors.mem_iff.1 hmem)
      exact ⟨s, of_decide_eq_true hid ▸ hget⟩
    · rintro ⟨s, hget⟩
      exact ⟨s, hsensors.mem_iff.2 (Dict.mem_values_iff.2 ⟨e.1, hget⟩),
        decide_eq_true (r.sensors_keyed e.1 s hget)⟩
  simp [hlisted]

end TriggerRow

namespace Directory

variable {d d' : Directory} {now : Nat} {p : Repository} {s : ReloadSummary}

/-- What a reload that succeeds was answered, what it reports of that, and what it did to the live
data. -/
theorem reload_eq_ok (h : d.reload now p = (d', .ok s)) :
    ∃ handlers accounts sensors rows apiKeys routes,
      (p.liveHandlers = .ok handlers ∧ p.accounts = .ok accounts ∧ p.sensors = .ok sensors ∧
        p.triggerRows = .ok rows ∧ p.apiKeys = .ok apiKeys ∧ p.liveRoutes = .ok routes) ∧
      s = {
        liveHandlers := handlers.length
        accounts := accounts.length
        sensors := sensors.length
        orphanTriggers := TriggerRow.orphans rows sensors
        apiKeys := apiKeys.length
        liveRoutes := ((d.live.setHandlers handlers).addRoutes routes).1 } ∧
      d'.live = ((d.live.setHandlers handlers).addRoutes routes).2 := by
  revert h
  unfold reload
  rcases p.liveHandlers with e | handlers
  · exact nofun
  rcases p.accounts with e | accounts
  · exact nofun
  simp only [loadAccounts]
  rcases hloadAccounts : refill (d.setHandlers handlers).accounts now Account.id accounts with
    ⟨_, e | accountCount⟩
  · exact nofun
  rcases p.sensors with e | sensors
  · exact nofun
  rcases p.triggerRows with e | rows
  · exact nofun
  simp only [loadSensors]
  rcases hloadSensors : refill (d.setHandlers handlers).sensors now Sensor.id
    (TriggerRow.attach rows sensors) with ⟨_, e | sensorCount⟩
  · exact nofun
  rcases p.apiKeys with e | apiKeys
  · exact nofun
  simp only [loadApiKeys]
  rcases hloadKeys : refill (d.setHandlers handlers).apiKeys now ApiKey.key apiKeys with
    ⟨_, e | keyCount⟩
  · exact nofun
  rcases p.liveRoutes with e | routes
  · exact nofun
  rintro ⟨⟩
  refine ⟨handlers, accounts, sensors, rows, apiKeys, routes, by simp, ?_, rfl⟩
  rw [refill_eq_ok hloadAccounts, refill_eq_ok hloadSensors, refill_eq_ok hloadKeys,
    TriggerRow.length_attach]
  rfl

end Directory

/-! ### The live data of a reload -/

namespace LiveIndex

/-- The live data with other handlers and with more routes, as a reload makes it. -/
def resync (x : LiveIndex) (handlers : List LiveHandler) (routes : List LiveRoute) : LiveIndex :=
  ((x.setHandlers handlers).addRoutes routes).2

theorem handlers_resync (x : LiveIndex) (handlers : List LiveHandler) (routes : List LiveRoute) :
    (x.resync handlers routes).handlers = (x.setHandlers handlers).handlers :=
  handlers_addRoutes _ _

/-- The routes before stay, and those of the listing whose target is enabled now are added. -/
theorem pairs_resync (x : LiveIndex) (handlers : List LiveHandler) (routes : List LiveRoute) :
    (x.resync handlers routes).routes.pairs =
      x.routes.pairs ∪
        routes.toFinset.filter fun r => (x.resync handlers routes).isEnabled r.target := by
  have henabled : (x.resync handlers routes).isEnabled = (x.setHandlers handlers).isEnabled := by
    funext target
    rw [isEnabled, handlers_resync, isEnabled]
  rw [henabled]
  exact pairs_addRoutes _ _

/-- The routes reported are those that were not there before. -/
theorem card_resync (x : LiveIndex) (handlers : List LiveHandler) (routes : List LiveRoute) :
    ((x.setHandlers handlers).addRoutes routes).1 =
      ((x.resync handlers routes).routes.pairs \ x.routes.pairs).card := by
  have hgrown := card_addRoutes (x.setHandlers handlers) routes
  change _ + x.routes.pairs.card = (x.resync handlers routes).routes.pairs.card at hgrown
  have hsubset : x.routes.pairs ⊆ (x.resync handlers routes).routes.pairs := by
    rw [pairs_resync]
    exact Finset.subset_union_left
  rw [Finset.card_sdiff_of_subset hsubset]
  omega

/-- The same handlers and routes once more change nothing. -/
theorem resync_resync (x : LiveIndex) (handlers : List LiveHandler) (routes : List LiveRoute) :
    (x.resync handlers routes).resync handlers routes = x.resync handlers routes := by
  have hhandlers : ((x.resync handlers routes).resync handlers routes).handlers =
      (x.resync handlers routes).handlers := by
    rw [handlers_resync, handlers_resync]
    exact handlers_setHandlers_congr _ x handlers
  have henabled : ((x.resync handlers routes).resync handlers routes).isEnabled =
      (x.resync handlers routes).isEnabled := by
    funext target
    rw [isEnabled, hhandlers, isEnabled]
  have hroutes : ((x.resync handlers routes).resync handlers routes).routes =
      (x.resync handlers routes).routes := by
    refine RouteSet.eq_of_pairs_eq ?_
    rw [pairs_resync, henabled, Finset.union_eq_left, x.pairs_resync]
    exact Finset.subset_union_right
  calc (x.resync handlers routes).resync handlers routes
      = ⟨((x.resync handlers routes).resync handlers routes).routes,
          ((x.resync handlers routes).resync handlers routes).handlers⟩ := rfl
    _ = x.resync handlers routes := by rw [hroutes, hhandlers]

end LiveIndex

/-! ### The whole reload -/

/-- The directory after a reload holds what the registry holds, and the summary tells how much that
is. -/
structure Registry.Resynced (r : Registry) (before after : Directory) (s : ReloadSummary) : Prop where
  accounts : ∀ id, after.lookup .account id = r.accounts.get? id
  apiKeys : ∀ key, after.lookup .apiKey key = r.apiKeys.get? key
  /-- A row replaces the triggers of its sensor, also when it is empty. -/
  sensors : ∀ id, after.lookup .sensor id =
    (r.sensors.get? id).map (Sensor.withRow (r.triggers.get? id))
  /-- Of several handlers with one name the last is known. -/
  handlers : ∀ name,
    after.live.handlers.get? name = Cache.lastWith? LiveHandler.name r.liveHandlers name
  /-- Routes are kept, and those of the registry to targets that are now enabled are added. -/
  routes : ∀ route, route ∈ after.live.routes ↔
    route ∈ before.live.routes ∨
      route ∈ r.liveRoutes ∧ after.live.isEnabled route.target = true
  summary : s = {
    liveHandlers := r.liveHandlers.length
    accounts := r.accounts.size
    sensors := r.sensors.size
    orphanTriggers := r.triggers.keys.countP fun id => (r.sensors.get? id).isNone
    apiKeys := r.apiKeys.size
    liveRoutes := (after.live.routes.pairs \ before.live.routes.pairs).card }

namespace Directory

variable {d : Directory} {r : Registry} {p : Repository}

theorem length_of_perm_values {α : Type} {c : Dict α} {items : List α}
    (h : items.Perm c.values) : items.length = c.size := by
  rw [h.length_eq, Dict.values, List.length_map, Dict.size]

/-- A reload from a registry succeeds and leaves what the registry holds. -/
theorem reload_resynced (hd : d.Unbounded) (h : r.ServedBy p) (now : Nat) :
    ∃ d' s, d.reload now p = (d', .ok s) ∧ d'.Unbounded ∧ r.Resynced d d' s ∧
      d'.live = d.live.resync r.liveHandlers r.liveRoutes := by
  obtain ⟨d', s, hreload, hd', hlookup⟩ := reload_served hd h now
  obtain ⟨handlers, accounts, sensors, rows, apiKeys, routes, hanswers, hsummary, hlive⟩ :=
    reload_eq_ok hreload
  obtain ⟨hhandlers, haccounts, hsensors, hrows, hkeys, hroutes⟩ := hanswers
  -- the answers are listings of the registry, in whatever order
  cases h.liveHandlers.symm.trans hhandlers
  cases h.liveRoutes.symm.trans hroutes
  obtain ⟨_, haccounts', hpermAccounts⟩ := h.accounts
  cases haccounts'.symm.trans haccounts
  obtain ⟨_, hsensors', hpermSensors⟩ := h.sensors
  cases hsensors'.symm.trans hsensors
  obtain ⟨_, hrows', hpermRows⟩ := h.triggerRows
  cases hrows'.symm.trans hrows
  obtain ⟨_, hkeys', hpermKeys⟩ := h.apiKeys
  cases hkeys'.symm.trans hkeys
  refine ⟨d', s, hreload, hd', ?_, hlive⟩
  change d'.live = d.live.resync r.liveHandlers r.liveRoutes at hlive
  constructor
  case accounts => exact hlookup .account
  case apiKeys => exact hlookup .apiKey
  case sensors => exact hlookup .sensor
  case handlers =>
    intro name
    rw [hlive, LiveIndex.handlers_resync, LiveIndex.get?_setHandlers]
  case routes =>
    intro route
    rw [hlive, ← RouteSet.mem_pairs, LiveIndex.pairs_resync]
    simp
  case summary =>
    rw [hsummary, LiveIndex.card_resync, hlive, length_of_perm_values hpermAccounts,
      length_of_perm_values hpermSensors, length_of_perm_values hpermKeys,
      TriggerRow.orphans_of_perm hpermRows hpermSensors]

end Directory

namespace ManagedDirectory

theorem reload_of_ok {m : ManagedDirectory} {now : Nat} {p : Repository} {d : Directory}
    {s : ReloadSummary} (h : m.directory.reload now p = (d, .ok s)) :
    m.reload now p = (⟨d, { m.counts with reloads := m.counts.reloads + 1 }⟩, .ok s) := by
  rw [reload, h]

/-- A reload from a registry, which may list its contents in any order, succeeds. The directory then
holds what the registry holds, and another reload of the same registry changes nothing that can be
seen and adds no route. -/
theorem reload_resyncs (m : ManagedDirectory) {r : Registry} {p : Repository}
    (hm : m.directory.Unbounded) (h : r.ServedBy p) (now : Nat) :
    ∃ m' s, m.reload now p = (m', .ok s) ∧ r.Resynced m.directory m'.directory s ∧
      ∀ (p' : Repository) (now' : Nat), r.ServedBy p' →
        ∃ m'', m'.reload now' p' = (m'', .ok { s with liveRoutes := 0 }) ∧
          m'.directory.Alike m''.directory := by
  obtain ⟨d', s, hreload, hd', hresynced, hlive⟩ := Directory.reload_resynced hm h now
  refine ⟨_, s, reload_of_ok hreload, hresynced, fun p' now' h' => ?_⟩
  obtain ⟨d'', s', hreload', -, hresynced', hlive'⟩ := Directory.reload_resynced hd' h' now'
  have hsame : d''.live = d'.live := by
    rw [hlive', hlive, LiveIndex.resync_resync]
  have hsummary : s' = { s with liveRoutes := 0 } := by
    rw [hresynced'.summary, hresynced.summary, hsame, Finset.sdiff_self, Finset.card_empty]
  rw [hsummary] at hreload'
  refine ⟨_, reload_of_ok hreload', fun kind id => ?_, by rw [hsame], by rw [hsame]⟩
  cases kind with
  | account => exact (hresynced'.accounts id).trans (hresynced.accounts id).symm
  | sensor => exact (hresynced'.sensors id).trans (hresynced.sensors id).symm
  | apiKey => exact (hresynced'.apiKeys id).trans (hresynced.apiKeys id).symm

/-- A reload from a registry that lists its accounts backwards forgets an account that is gone, empties
the triggers of a sensor with an empty row, and keeps the route of a target that is now disabled. -/
theorem reload_resyncs_reversed :
    let sensor : Sensor := { id := "s1", accountId := "a1", triggers := some [{ hasActions := true }] }
    let r := ((((Registry.empty.putAccount { id := "a1" }).putAccount { id := "a2" }).putSensor
      sensor).setTriggers "s1" []).setTriggers "gone" []
    let r := r.setLiveHandlers [{ name := "t1", enabled := false }]
    let p := { r.toRepository with accounts := .ok r.accounts.values.reverse }
    let d := ((((Directory.empty {}).loadAccounts 0 [{ id := "a0" }]).1.setHandlers
      [{ name := "t1" }]).addRoute ⟨"s1", "t1"⟩).2
    ∃ m' s, reload ⟨d, {}⟩ 0 p = (m', .ok s) ∧ r.Resynced d m'.directory s ∧
      m'.directory.lookup .account "a0" = none ∧
      m'.directory.lookup .sensor "s1" = some { sensor with triggers := some [] } ∧
      ⟨"s1", "t1"⟩ ∈ m'.directory.live.routes ∧
      s = ⟨1, 2, 1, 1, 0, 0⟩ := by
  intro sensor r₀ r p d
  have hd : d.Unbounded := fun kind => by cases kind <;> rfl
  have hserved : r.ServedBy p :=
    { r.servedBy_toRepository with accounts := ⟨_, rfl, List.reverse_perm _⟩ }
  obtain ⟨m', s, hreload, hresynced, -⟩ := reload_resyncs ⟨d, {}⟩ hd hserved 0
  have hreported : (reload ⟨d, {}⟩ 0 p).2.toOption = some ⟨1, 2, 1, 1, 0, 0⟩ := by decide +kernel
  rw [hreload] at hreported
  refine ⟨m', s, hreload, hresynced, hresynced.accounts "a0", hresynced.sensors "s1", ?_,
    Option.some.inj hreported⟩
  exact (hresynced.routes _).2 (.inl (by decide +kernel))

end ManagedDirectory

end SensorRouter
