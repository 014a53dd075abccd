import Mathlib
import SensorRouter.Live.Index
import SensorRouter.Proofs.Dict

/-!
What the operations on live data make of the set of routes. The table of the routes refines a finite set
of pairs, and without empty sets it is determined by that set. None of the operations changes the handlers
but the one that sets them.
-/

namespace SensorRouter

namespace TextSet

theorem nodup_toList (s : TextSet) : s.toList.Nodup :=
  s.members.nodup_keys

/-- Sets with the same members are the same. -/
theorem eq_of_mem_iff {s s' : TextSet} (h : ∀ a, a ∈ s' ↔ a ∈ s) : s' = s := by
  have hmembers : s'.members = s.members := by
    apply Dict.ext_get?
    intro a
    apply Option.ext
    rintro ⟨⟩
    exact mem_iff_get?.symm.trans ((h a).trans mem_iff_get?)
  obtain ⟨_⟩ := s
  obtain ⟨_⟩ := s'
  cases hmembers
  rfl

end TextSet

/-! ### Tables -/

namespace RouteTable

variable {t t' : RouteTable}

/-- The routes of the table, sensor by sensor. -/
def toList (t : RouteTable) : List LiveRoute :=
  t.entries.flatMap fun e => e.2.toList.map (LiveRoute.mk e.1)

theorem mem_toList {r : LiveRoute} : r ∈ t.toList ↔ r ∈ t := by
  rw [mem_iff_exists, toList, List.mem_flatMap]
  simp only [List.mem_map, Dict.get?_eq_some_iff]
  constructor
  · rintro ⟨⟨_, targets⟩, hentry, a, ha, rfl⟩
    exact ⟨targets, hentry, TextSet.mem_toList.1 ha⟩
  · rintro ⟨targets, hentry, ha⟩
    exact ⟨_, hentry, r.target, TextSet.mem_toList.2 ha, rfl⟩

theorem nodup_toList (t : RouteTable) : t.toList.Nodup := by
  refine List.nodup_flatMap.2 ⟨fun e _ => ?_, t.ascending.imp fun {e e'} hlt => ?_⟩
  · exact e.2.nodup_toList.map fun _ _ h => congrArg LiveRoute.target h
  · intro r hr hr'
    obtain ⟨_, -, rfl⟩ := List.mem_map.1 hr
    obtain ⟨_, -, hsame⟩ := List.mem_map.1 hr'
    have hsensor : e'.1 = e.1 := congrArg LiveRoute.sensorId hsame
    rw [hsensor] at hlt
    exact String.lt_irrefl _ hlt

/-- The routes as a finite set of pairs. -/
def pairs (t : RouteTable) : Finset LiveRoute :=
  t.toList.toFinset

@[simp]
theorem mem_pairs {r : LiveRoute} : r ∈ t.pairs ↔ r ∈ t :=
  List.mem_toFinset.trans mem_toList

/-- The sizes of the sets of targets add up to the number of pairs. -/
theorem card_pairs (t : RouteTable) : t.pairs.card = t.size := by
  have hsize : t.size = (t.values.map TextSet.size).sum := by
    rw [size, List.sum_eq_foldl, List.foldl_map]
  rw [pairs, List.toFinset_card_of_nodup t.nodup_toList, toList, List.length_flatMap, hsize,
    Dict.values, List.map_map]
  simp [Function.comp_def, TextSet.length_toList]

theorem pairs_add (t : RouteTable) (r : LiveRoute) : (t.add r).2.pairs = insert r t.pairs := by
  ext x
  simp

theorem pairs_remove (t : RouteTable) (r : LiveRoute) :
    (t.remove r).2.pairs = t.pairs.erase r := by
  ext x
  simp [and_comm]

theorem pairs_dropTarget (t : RouteTable) (target : String) :
    (t.dropTarget target).pairs = t.pairs.filter (·.target ≠ target) := by
  ext x
  simp

theorem mem_of_entry {sensorId : String} {targets : TextSet} (h : t.get? sensorId = some targets)
    (target : String) : ⟨sensorId, target⟩ ∈ t ↔ target ∈ targets := by
  rw [mem_iff, ofSensor, h, Option.getD_some]

/-- Where no set is empty, a sensor has an entry if it has a target. -/
theorem Pruned.get?_eq (h : t.Pruned) (sensorId : String) :
    t.get? sensorId =
      if (t.ofSensor sensorId).isEmpty then none else some (t.ofSensor sensorId) := by
  cases hentry : t.get? sensorId with
  | none => simp [ofSensor, hentry, TextSet.isEmpty_iff]
  | some targets => simp [ofSensor, hentry, h sensorId targets hentry]

/-- Tables with the same pairs are the same, if no set in them is empty. -/
theorem Pruned.eq_of_pairs_eq (h : t.Pruned) (h' : t'.Pruned) (hpairs : t.pairs = t'.pairs) :
    t = t' := by
  apply Dict.ext_get?
  intro sensorId
  have htargets : t.ofSensor sensorId = t'.ofSensor sensorId := by
    apply TextSet.eq_of_mem_iff
    intro target
    have hpair : (⟨sensorId, target⟩ : LiveRoute) ∈ t.pairs ↔ ⟨sensorId, target⟩ ∈ t'.pairs := by
      rw [hpairs]
    rwa [mem_pairs, mem_pairs] at hpair
  rw [h.get?_eq, h'.get?_eq, htargets]

end RouteTable

/-! ### Sets of routes -/

namespace RouteSet

/-- The routes as a finite set. -/
def pairs (s : RouteSet) : Finset LiveRoute :=
  s.table.pairs

@[simp]
theorem mem_pairs {s : RouteSet} {r : LiveRoute} : r ∈ s.pairs ↔ r ∈ s :=
  RouteTable.mem_pairs

@[simp]
theorem card_pairs (s : RouteSet) : s.pairs.card = s.size :=
  s.table.card_pairs

/-- Route sets with the same members are the same. -/
theorem eq_of_pairs_eq {s s' : RouteSet} (h : s.pairs = s'.pairs) : s = s' := by
  have htables : s.table = s'.table := s.pruned.eq_of_pairs_eq s'.pruned h
  obtain ⟨_, _⟩ := s
  obtain ⟨_, _⟩ := s'
  cases htables
  rfl

/-- The sensors of the routes have entries, and no others. -/
theorem mem_keys (s : RouteSet) (sensorId : String) :
    sensorId ∈ s.table.keys ↔ ∃ r ∈ s.pairs, r.sensorId = sensorId := by
  rw [Dict.mem_keys_iff, Option.isSome_iff_exists]
  constructor
  · rintro ⟨targets, hentry⟩
    obtain ⟨target, htarget⟩ := TextSet.isEmpty_eq_false_iff.1 (s.pruned sensorId targets hentry)
    exact ⟨⟨sensorId, target⟩, mem_pairs.2 ((RouteTable.mem_of_entry hentry target).2 htarget), rfl⟩
  · rintro ⟨r, hr, rfl⟩
    obtain ⟨targets, hentry, -⟩ := RouteTable.mem_iff_exists.1 (mem_pairs.1 hr)
    exact ⟨targets, hentry⟩

@[simp]
theorem add_fst (s : RouteSet) (r : LiveRoute) : (s.add r).1 = decide (r ∉ s) := rfl

@[simp]
theorem pairs_add (s : RouteSet) (r : LiveRoute) : (s.add r).2.pairs = insert r s.pairs :=
  s.table.pairs_add r

@[simp]
theorem remove_fst (s : RouteSet) (r : LiveRoute) : (s.remove r).1 = decide (r ∈ s) :=
  s.table.remove_fst r

@[simp]
theorem mem_remove {s : RouteSet} {r x : LiveRoute} : x ∈ (s.remove r).2 ↔ x ∈ s ∧ x ≠ r :=
  RouteTable.mem_remove

@[simp]
theorem pairs_remove (s : RouteSet) (r : LiveRoute) :
    (s.remove r).2.pairs = s.pairs.erase r :=
  s.table.pairs_remove r

@[simp]
theorem pairs_dropTarget (s : RouteSet) (target : String) :
    (s.dropTarget target).pairs = s.pairs.filter (·.target ≠ target) :=
  s.table.pairs_dropTarget target

theorem pairs_addAll (s : RouteSet) (routes : List LiveRoute) :
    (s.addAll routes).2.pairs = s.pairs ∪ routes.toFinset := by
  induction routes generalizing s with
  | nil => simp [addAll]
  | cons r rest ih =>
    have hrest := ih (s.add r).2
    rw [pairs_add, Finset.insert_union] at hrest
    rw [List.toFinset_cons, Finset.union_insert]
    exact hrest

/-- The number of routes grows by the number of those reported as new. -/
theorem card_addAll (s : RouteSet) (routes : List LiveRoute) :
    (s.addAll routes).1 + s.pairs.card = (s.addAll routes).2.pairs.card := by
  induction routes generalizing s with
  | nil => simp [addAll]
  | cons r rest ih =>
    have hrest := ih (s.add r).2
    have hfirst : (if (s.add r).1 then 1 else 0) + s.pairs.card = (s.add r).2.pairs.card := by
      rw [pairs_add, add_fst]
      by_cases hknown : r ∈ s
      · rw [Finset.insert_eq_of_mem (mem_pairs.2 hknown)]
        simp [hknown]
      · rw [Finset.card_insert_of_notMem (mt mem_pairs.1 hknown)]
        simp [hknown, Nat.add_comm]
    simp only [addAll]
    omega

end RouteSet

namespace LiveIndex

theorem pairwise_targets (x : LiveIndex) (sensorId : String) :
    (x.targets sensorId).Pairwise (· < ·) :=
  (x.routes.table.pairwise_targets sensorId).filter _

theorem mem_targets {x : LiveIndex} {sensorId target : String} :
    target ∈ x.targets sensorId ↔ ⟨sensorId, target⟩ ∈ x.routes ∧ x.isEnabled target = true := by
  rw [targets, List.mem_filter]
  exact and_congr_left fun _ => RouteTable.mem_targets

/-! ### One route -/

theorem addRoute_fst (x : LiveIndex) (r : LiveRoute) :
    (x.addRoute r).1 = decide (x.isEnabled r.target = true ∧ r ∉ x.routes) := by
  unfold addRoute
  by_cases henabled : x.isEnabled r.target <;> simp [henabled]

@[simp]
theorem handlers_addRoute (x : LiveIndex) (r : LiveRoute) :
    (x.addRoute r).2.handlers = x.handlers := by
  unfold addRoute
  split <;> rfl

@[simp]
theorem isEnabled_addRoute (x : LiveIndex) (r : LiveRoute) (target : String) :
    (x.addRoute r).2.isEnabled target = x.isEnabled target := by
  rw [isEnabled, handlers_addRoute, isEnabled]

/-- A route is added when its target is enabled. -/
theorem pairs_addRoute (x : LiveIndex) (r : LiveRoute) :
    (x.addRoute r).2.routes.pairs =
      if x.isEnabled r.target then insert r x.routes.pairs else x.routes.pairs := by
  unfold addRoute
  by_cases henabled : x.isEnabled r.target <;> simp [henabled]

theorem mem_addRoute (x : LiveIndex) (r' route : LiveRoute) :
    route ∈ (x.addRoute r').2.routes ↔
      (r' = route ∧ x.isEnabled route.target = true) ∨ route ∈ x.routes := by
  rw [← RouteSet.mem_pairs, x.pairs_addRoute]
  by_cases hroute : r' = route
  · subst hroute
    by_cases henabled : x.isEnabled r'.target <;> simp [henabled]
  · by_cases henabled : x.isEnabled r'.target <;> simp [henabled, hroute, Ne.symm hroute]

/-! ### Several routes -/

/-- Of several routes those with an enabled target are added. -/
theorem addRoutes_eq (x : LiveIndex) (routes : List LiveRoute) :
    let added := x.routes.addAll (routes.filter fun r => x.isEnabled r.target)
    x.addRoutes routes = (added.1, { x with routes := added.2 }) := by
  induction routes generalizing x with
  | nil => rfl
  | cons r rest ih =>
    have hrest := ih (x.addRoute r).2
    simp only [isEnabled_addRoute] at hrest
    simp only [addRoutes, hrest]
    by_cases henabled : x.isEnabled r.target
    · simp [addRoute, henabled, RouteSet.addAll]
    · simp [addRoute, henabled]

@[simp]
theorem handlers_addRoutes (x : LiveIndex) (routes : List LiveRoute) :
    (x.addRoutes routes).2.handlers = x.handlers := by
  rw [addRoutes_eq]

theorem pairs_addRoutes (x : LiveIndex) (routes : List LiveRoute) :
    (x.addRoutes routes).2.routes.pairs =
      x.routes.pairs ∪ routes.toFinset.filter fun r => x.isEnabled r.target := by
  rw [addRoutes_eq, RouteSet.pairs_addAll, List.toFinset_filter]

/-- The number of routes grows by the number of those reported as new. -/
theorem card_addRoutes (x : LiveIndex) (routes : List LiveRoute) :
    (x.addRoutes routes).1 + x.routes.pairs.card = (x.addRoutes routes).2.routes.pairs.card := by
  rw [addRoutes_eq]
  exact x.routes.card_addAll _

/-! ### Syncs -/

/-- The routes of listed sensors to one target. -/
def fanIn (sensors : List String) (target : String) : Finset LiveRoute :=
  sensors.toFinset.image fun s => ⟨s, target⟩

@[simp]
theorem mem_fanIn {sensors : List String} {target : String} {r : LiveRoute} :
    r ∈ fanIn sensors target ↔ r.sensorId ∈ sensors ∧ r.target = target := by
  obtain ⟨s, t⟩ := r
  simp [fanIn, eq_comm]

theorem card_fanIn (sensors : List String) (target : String) :
    (fanIn sensors target).card = sensors.toFinset.card :=
  Finset.card_image_of_injective _ fun _ _ h => congrArg LiveRoute.sensorId h

theorem toFinset_map_route (sensors : List String) (target : String) :
    (sensors.map fun s => LiveRoute.mk s target).toFinset = fanIn sensors target := by
  ext r
  rw [List.mem_toFinset, List.mem_map, mem_fanIn]
  constructor
  · rintro ⟨s, hs, rfl⟩
    exact ⟨hs, rfl⟩
  · rintro ⟨hs, rfl⟩
    exact ⟨r.sensorId, hs, rfl⟩

@[simp]
theorem handlers_sync (x : LiveIndex) (set : SyncSet) : (x.sync set).2.handlers = x.handlers := by
  simp only [sync]
  split <;> rfl

/-- A sync leaves the routes to other targets, and makes the listed ones those to an enabled
target. -/
theorem pairs_sync (x : LiveIndex) (set : SyncSet) :
    (x.sync set).2.routes.pairs =
      x.routes.pairs.filter (·.target ≠ set.target) ∪
        if x.isEnabled set.target then fanIn set.sensors set.target else ∅ := by
  simp only [sync]
  by_cases henabled : x.isEnabled set.target
  · simp only [if_pos henabled, RouteSet.pairs_addAll, RouteSet.pairs_dropTarget,
      toFinset_map_route]
  · simp only [if_neg henabled, RouteSet.pairs_dropTarget, Finset.union_empty]

theorem mem_sync (x : LiveIndex) (set : SyncSet) (route : LiveRoute) :
    route ∈ (x.sync set).2.routes ↔
      if route.target = set.target then
        x.isEnabled route.target = true ∧ route.sensorId ∈ set.sensors
      else route ∈ x.routes := by
  rw [← RouteSet.mem_pairs, x.pairs_sync]
  by_cases htarget : route.target = set.target
  · by_cases henabled : x.isEnabled set.target <;> simp [htarget, henabled]
  · by_cases henabled : x.isEnabled set.target <;> simp [htarget, henabled]

/-- A sync reports the number of distinct sensors, or none for a target that is not enabled. -/
theorem sync_fst (x : LiveIndex) (set : SyncSet) :
    (x.sync set).1 = if x.isEnabled set.target then set.sensors.toFinset.card else 0 := by
  simp only [sync]
  by_cases henabled : x.isEnabled set.target
  · have hgrown := (x.routes.dropTarget set.target).card_addAll
      (set.sensors.map fun s => ⟨s, set.target⟩)
    have hdisjoint : Disjoint (x.routes.pairs.filter (·.target ≠ set.target))
        (fanIn set.sensors set.target) := by
      rw [Finset.disjoint_left]
      intro r hkept hlisted
      exact (Finset.mem_filter.1 hkept).2 (mem_fanIn.1 hlisted).2
    rw [RouteSet.pairs_addAll, RouteSet.pairs_dropTarget, toFinset_map_route,
      Finset.card_union_of_disjoint hdisjoint, card_fanIn] at hgrown
    rw [if_pos henabled, if_pos henabled]
    simp only
    omega
  · rw [if_neg henabled, if_neg henabled]

end LiveIndex

end SensorRouter
