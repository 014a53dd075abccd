import SensorRouter.Directory.Basic
import SensorRouter.Proofs.Expiry.Lookup
import SensorRouter.Proofs.Live.Routes

/-!
The live data of a directory as two finite sets, the routes and the known handlers. `LiveView.step`
says what each operation does to the sets and what it reports. A directory keeps a table of target sets,
none of them empty, and a dictionary of handlers; it does and reports the same, and all that can be seen
of its live data is computed from the sets.
-/

namespace SensorRouter

namespace Dict

variable {α : Type}

/-- Items that are put in order under their keys hide what was there; of several the last is seen. -/
theorem get?_foldl_insert (key : α → String) (items : List α) (d : Dict α) (k : String) :
    (items.foldl (fun d a => d.insert (key a) a) d).get? k =
      (Cache.lastWith? key items k).or (d.get? k) := by
  induction items generalizing d with
  | nil => rfl
  | cons a rest ih =>
    rw [List.foldl_cons, ih, get?_insert, Cache.lastWith?_cons, Option.or_assoc]
    by_cases hk : k = key a <;> simp [hk]

theorem Keyed.mem_values_iff {d : Dict α} {key : α → String} (h : d.Keyed key) {a : α} :
    a ∈ d.values ↔ d.get? (key a) = some a := by
  rw [Dict.mem_values_iff]
  constructor
  · rintro ⟨k, hk⟩
    rwa [h k a hk]
  · intro ha
    exact ⟨key a, ha⟩

theorem Keyed.nodup_values {d : Dict α} {key : α → String} (h : d.Keyed key) : d.values.Nodup :=
  List.Nodup.of_map key (h.map_values ▸ d.nodup_keys)

end Dict

/-- Operations on the live data of a directory. -/
inductive LiveOperation where
  | add (route : LiveRoute)
  | remove (route : LiveRoute)
  | sync (set : SyncSet)
  | setHandlers (handlers : List LiveHandler)
  | clearRoutes
  /-- Forgets the entities with the routes. -/
  | clear

/-- What an operation reports. -/
inductive LiveAnswer where
  | done
  | changed (yes : Bool)
  | count (n : Nat)

namespace Directory

def operate (d : Directory) : LiveOperation → LiveAnswer × Directory
  | .add r => (.changed (d.addRoute r).1, (d.addRoute r).2)
  | .remove r => (.changed (d.removeRoute r).1, (d.removeRoute r).2)
  | .sync set => (.count (d.sync set).1, (d.sync set).2)
  | .setHandlers handlers => (.done, d.setHandlers handlers)
  | .clearRoutes => (.done, d.clearRoutes)
  | .clear => (.done, d.clear)

/-- Carries out operations in order. -/
def operateAll (d : Directory) : List LiveOperation → List LiveAnswer × Directory
  | [] => ([], d)
  | op :: rest =>
    let (answer, d) := d.operate op
    let (answers, d) := d.operateAll rest
    (answer :: answers, d)

end Directory

/-- Live data as sets: the routes, and one handler for each known name. -/
structure LiveView where
  pairs : Finset LiveRoute
  handlers : Finset LiveHandler

namespace LiveView

def empty : LiveView := ⟨∅, ∅⟩

/-- A target has a handler that is enabled. -/
def Enabled (v : LiveView) (target : String) : Prop :=
  ∃ h ∈ v.handlers, h.name = target ∧ h.enabled = true

instance (v : LiveView) (target : String) : Decidable (v.Enabled target) :=
  inferInstanceAs (Decidable (∃ h ∈ v.handlers, _))

/-- The handlers that a list makes known: of each name the last. -/
def lastOfEachName (handlers : List LiveHandler) : Finset LiveHandler :=
  handlers.toFinset.filter fun h => Cache.lastWith? LiveHandler.name handlers h.name = some h

/-- What an operation does to the sets, and what it reports. -/
def step (v : LiveView) : LiveOperation → LiveAnswer × LiveView
  | .add r =>
    if v.Enabled r.target then (.changed (r ∉ v.pairs), { v with pairs := insert r v.pairs })
    else (.changed false, v)
  | .remove r => (.changed (r ∈ v.pairs), { v with pairs := v.pairs.erase r })
  | .sync set =>
    let others := v.pairs.filter (·.target ≠ set.target)
    if v.Enabled set.target then
      (.count set.sensors.toFinset.card,
        { v with pairs := others ∪ set.sensors.toFinset.image fun s => ⟨s, set.target⟩ })
    else (.count 0, { v with pairs := others })
  | .setHandlers handlers => (.done, { v with handlers := lastOfEachName handlers })
  | .clearRoutes => (.done, { v with pairs := ∅ })
  | .clear => (.done, { v with pairs := ∅ })

/-- Takes steps in order. -/
def stepAll (v : LiveView) : List LiveOperation → List LiveAnswer × LiveView
  | [] => ([], v)
  | op :: rest =>
    let (answer, v) := v.step op
    let (answers, v) := v.stepAll rest
    (answer :: answers, v)

end LiveView

namespace LiveIndex

variable {x : LiveIndex}

/-- The live data as sets. -/
def view (x : LiveIndex) : LiveView where
  pairs := x.routes.pairs
  handlers := x.handlers.values.toFinset

/-- Every handler is known under its own name. -/
def WellNamed (x : LiveIndex) : Prop :=
  x.handlers.Keyed LiveHandler.name

theorem wellNamed_empty : empty.WellNamed :=
  Dict.keyed_empty _

theorem WellNamed.mem_handlers (h : x.WellNamed) {handler : LiveHandler} :
    handler ∈ x.view.handlers ↔ x.handlers.get? handler.name = some handler := by
  rw [view, List.mem_toFinset, Dict.Keyed.mem_values_iff h]

theorem WellNamed.isEnabled_iff (h : x.WellNamed) (target : String) :
    x.isEnabled target = true ↔ x.view.Enabled target := by
  constructor
  · intro henabled
    unfold isEnabled at henabled
    cases hget : x.handlers.get? target with
    | none => simp [hget] at henabled
    | some handler =>
      have hname := h target handler hget
      refine ⟨handler, ?_, hname, by simpa [hget] using henabled⟩
      rwa [h.mem_handlers, hname]
  · rintro ⟨handler, hmem, rfl, henabled⟩
    rw [isEnabled, h.mem_handlers.1 hmem]
    exact henabled

theorem WellNamed.card_handlers (h : x.WellNamed) : x.view.handlers.card = x.handlers.size := by
  rw [view, List.toFinset_card_of_nodup (Dict.Keyed.nodup_values h), Dict.values, List.length_map]
  rfl

/-- The handlers that are known are the listed ones, whichever were known before. -/
theorem get?_setHandlers (x : LiveIndex) (handlers : List LiveHandler) (name : String) :
    (x.setHandlers handlers).handlers.get? name =
      Cache.lastWith? LiveHandler.name handlers name := by
  simp only [setHandlers]
  rw [Dict.get?_foldl_insert, Dict.get?_filter]
  cases hlast : Cache.lastWith? LiveHandler.name handlers name with
  | some handler => rfl
  | none =>
    have hunlisted : (handlers.any fun h => h.name = name) = false := by
      rw [List.any_eq_false]
      intro h hmem hname
      exact Cache.lastWith?_eq_none_iff.1 hlast (List.mem_map.2 ⟨h, hmem, of_decide_eq_true hname⟩)
    simp [hunlisted]

theorem handlers_setHandlers_congr (x y : LiveIndex) (handlers : List LiveHandler) :
    (x.setHandlers handlers).handlers = (y.setHandlers handlers).handlers := by
  apply Dict.ext_get?
  intro name
  rw [get?_setHandlers, get?_setHandlers]

theorem wellNamed_setHandlers (x : LiveIndex) (handlers : List LiveHandler) :
    (x.setHandlers handlers).WellNamed := by
  intro name handler hget
  rw [get?_setHandlers] at hget
  exact (Cache.mem_of_lastWith? hget).2

theorem WellNamed.of_handlers {y : LiveIndex} (h : x.WellNamed)
    (hhandlers : y.handlers = x.handlers) : y.WellNamed := by
  rw [WellNamed, hhandlers]
  exact h

theorem view_of_handlers {y : LiveIndex} (hhandlers : y.handlers = x.handlers) :
    y.view = { x.view with pairs := y.routes.pairs } := by
  rw [view, view, hhandlers]

theorem view_setHandlers (x : LiveIndex) (handlers : List LiveHandler) :
    (x.setHandlers handlers).view =
      { x.view with handlers := LiveView.lastOfEachName handlers } := by
  have hhandlers : (x.setHandlers handlers).view.handlers = LiveView.lastOfEachName handlers := by
    ext handler
    rw [(x.wellNamed_setHandlers handlers).mem_handlers, LiveView.lastOfEachName,
      Finset.mem_filter, List.mem_toFinset, get?_setHandlers]
    exact ⟨fun hlast => ⟨(Cache.mem_of_lastWith? hlast).1, hlast⟩, And.right⟩
  rw [← hhandlers]
  rfl

theorem WellNamed.view_addRoute (h : x.WellNamed) (r : LiveRoute) :
    (LiveAnswer.changed (x.addRoute r).1, (x.addRoute r).2.view) = x.view.step (.add r) := by
  rw [view_of_handlers (x.handlers_addRoute r), addRoute_fst, pairs_addRoute, LiveView.step]
  by_cases henabled : x.isEnabled r.target
  · rw [if_pos henabled, if_pos ((h.isEnabled_iff _).1 henabled)]
    simp [henabled, view]
  · rw [if_neg henabled, if_neg fun hview => henabled ((h.isEnabled_iff _).2 hview)]
    simp [henabled, view]

theorem view_removeRoute (x : LiveIndex) (r : LiveRoute) :
    (LiveAnswer.changed (x.removeRoute r).1, (x.removeRoute r).2.view) =
      x.view.step (.remove r) := by
  simp [removeRoute, LiveView.step, view]

theorem WellNamed.view_sync (h : x.WellNamed) (set : SyncSet) :
    (LiveAnswer.count (x.sync set).1, (x.sync set).2.view) = x.view.step (.sync set) := by
  rw [view_of_handlers (x.handlers_sync set), sync_fst, pairs_sync, LiveView.step]
  by_cases henabled : x.isEnabled set.target
  · rw [if_pos henabled, if_pos henabled, if_pos ((h.isEnabled_iff _).1 henabled)]
    rfl
  · rw [if_neg henabled, if_neg henabled,
      if_neg fun hview => henabled ((h.isEnabled_iff _).2 hview), Finset.union_empty]
    rfl

end LiveIndex

namespace Directory

variable {d : Directory}

/-- An operation does to the live data what the step does to the sets, and reports the same. -/
theorem operate_view (h : d.live.WellNamed) (op : LiveOperation) :
    ((d.operate op).1, (d.operate op).2.live.view) = d.live.view.step op := by
  cases op with
  | add r => exact h.view_addRoute r
  | remove r => exact d.live.view_removeRoute r
  | sync set => exact h.view_sync set
  | setHandlers handlers =>
    rw [LiveView.step, ← LiveIndex.view_setHandlers]
    rfl
  | clearRoutes => rfl
  | clear => rfl

theorem operate_wellNamed (h : d.live.WellNamed) (op : LiveOperation) :
    (d.operate op).2.live.WellNamed := by
  cases op with
  | add r => exact h.of_handlers (d.live.handlers_addRoute r)
  | sync set => exact h.of_handlers (d.live.handlers_sync set)
  | setHandlers handlers => exact d.live.wellNamed_setHandlers handlers
  | remove r => exact h
  | clearRoutes => exact h
  | clear => exact h

/-- Operations in order do to the live data what their steps do to the sets, and report the same. -/
theorem operateAll_view (h : d.live.WellNamed) (ops : List LiveOperation) :
    (d.operateAll ops).2.live.WellNamed ∧
      ((d.operateAll ops).1, (d.operateAll ops).2.live.view) = d.live.view.stepAll ops := by
  induction ops generalizing d with
  | nil => exact ⟨h, rfl⟩
  | cons op rest ih =>
    obtain ⟨hnamed, hrest⟩ := ih (operate_wellNamed h op)
    refine ⟨hnamed, ?_⟩
    rw [LiveView.stepAll, ← operate_view h op]
    simp only [← hrest]
    rfl

/-- The table of a directory is that of the routes, and everything that is seen of its live data is
computed from the sets. -/
structure Shows (d : Directory) (v : LiveView) : Prop where
  /-- The sensors of the routes have entries, and no others. -/
  sensors : ∀ sensorId, sensorId ∈ d.live.routes.table.keys ↔ ∃ r ∈ v.pairs, r.sensorId = sensorId
  /-- An entry is the set of the targets of its sensor, and is not empty. -/
  entries : ∀ sensorId targets, d.live.routes.table.get? sensorId = some targets →
    targets.isEmpty = false ∧ ∀ target, target ∈ targets ↔ ⟨sensorId, target⟩ ∈ v.pairs
  /-- Of each name there is at most one handler. -/
  named : ∀ h ∈ v.handlers, ∀ h' ∈ v.handlers, h.name = h'.name → h = h'
  enabled : ∀ target, d.live.isEnabled target = true ↔ v.Enabled target
  targets : ∀ sensorId target, target ∈ d.live.targets sensorId ↔
    ⟨sensorId, target⟩ ∈ v.pairs ∧ v.Enabled target
  ascending : ∀ sensorId, (d.live.targets sensorId).Pairwise (· < ·)
  liveRoutes : d.counts.liveRoutes = v.pairs.card
  liveHandlers : d.counts.liveHandlers = v.handlers.card

theorem shows_view (h : d.live.WellNamed) : d.Shows d.live.view where
  sensors := d.live.routes.mem_keys
  entries sensorId targets hentry := ⟨d.live.routes.pruned sensorId targets hentry, fun target =>
    (RouteTable.mem_of_entry hentry target).symm.trans RouteSet.mem_pairs.symm⟩
  named a ha b hb hname := by
    have hget := h.mem_handlers.1 ha
    rw [hname, h.mem_handlers.1 hb] at hget
    exact (Option.some.inj hget).symm
  enabled := h.isEnabled_iff
  targets sensorId target := by
    rw [LiveIndex.mem_targets, h.isEnabled_iff, LiveIndex.view, RouteSet.mem_pairs]
  ascending := d.live.pairwise_targets
  liveRoutes := d.live.routes.card_pairs.symm
  liveHandlers := h.card_handlers.symm

/-- From an empty directory, operations on the live data report what the steps on two empty sets
report, and the directory shows at the end what the sets have become. -/
theorem operateAll_refines (options : CacheOptions) (ops : List LiveOperation) :
    ((empty options).operateAll ops).1 = (LiveView.empty.stepAll ops).1 ∧
      ((empty options).operateAll ops).2.Shows (LiveView.empty.stepAll ops).2 := by
  obtain ⟨hnamed, hview⟩ := operateAll_view (d := empty options) LiveIndex.wellNamed_empty ops
  have hempty : (empty options).live.view = LiveView.empty := rfl
  rw [hempty] at hview
  rw [← hview]
  exact ⟨rfl, shows_view hnamed⟩

end Directory

end SensorRouter
