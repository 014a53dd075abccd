import SensorRouter.Proofs.Command.SyncText
import SensorRouter.Proofs.Directory.Replay

/-!
The two array forms of a sync compared. Routes are grouped into one set for each target, which lists
every sensor routed to it. Sets are carried out as they are listed, so a later set of a target replaces
what an earlier one has done. The forms come to the same exactly if the last set of each enabled target
lists the sensors of all sets of it.
-/

namespace SensorRouter

open Json (Value)

namespace SyncSet

/-! ### Grouping -/

/-- The sensors that are routed to a target, in order. -/
def sensorsTo (routes : List LiveRoute) (target : String) : List String :=
  (routes.filter fun r => r.target = target).map (·.sensorId)

/-- The sensors of routes under their targets, appended to those that stand there. -/
def group (d : Dict (List String)) (routes : List LiveRoute) : Dict (List String) :=
  routes.foldl (fun d r => d.insert r.target ((d.get? r.target).getD [] ++ [r.sensorId])) d

theorem get?_group (d : Dict (List String)) (routes : List LiveRoute) (target : String) :
    (group d routes).get? target =
      if sensorsTo routes target = [] then d.get? target
      else some ((d.get? target).getD [] ++ sensorsTo routes target) := by
  induction routes generalizing d with
  | nil => rfl
  | cons r rest ih =>
    rw [group, List.foldl_cons, ← group, ih, Dict.get?_insert]
    by_cases htarget : r.target = target
    · have hcons : sensorsTo (r :: rest) target = r.sensorId :: sensorsTo rest target := by
        simp [sensorsTo, htarget]
      rw [hcons, htarget]
      by_cases hrest : sensorsTo rest target = []
      · simp [hrest]
      · simp [hrest]
    · have hskip : sensorsTo (r :: rest) target = sensorsTo rest target := by
        simp [sensorsTo, htarget]
      rw [hskip, if_neg (Ne.symm htarget)]

theorem mem_ofRoutes {routes : List LiveRoute} {set : SyncSet} :
    set ∈ ofRoutes routes ↔ set.sensors = sensorsTo routes set.target ∧ set.sensors ≠ [] := by
  have hmem : set ∈ ofRoutes routes ↔ (group ∅ routes).get? set.target = some set.sensors := by
    rw [Dict.get?_eq_some_iff]
    constructor
    · intro h
      obtain ⟨e, he, rfl⟩ := List.mem_map.1 h
      exact he
    · intro h
      exact List.mem_map.2 ⟨_, h, rfl⟩
  have hempty : (∅ : Dict (List String)).get? set.target = none := rfl
  rw [hmem, get?_group, hempty]
  by_cases hnone : sensorsTo routes set.target = []
  · rw [if_pos hnone, hnone]
    exact iff_of_false nofun fun ⟨heq, hne⟩ => hne heq
  · rw [if_neg hnone]
    constructor
    · intro h
      have heq : sensorsTo routes set.target = set.sensors := Option.some.inj h
      exact ⟨heq.symm, heq ▸ hnone⟩
    · rintro ⟨heq, -⟩
      exact congrArg some heq.symm

/-- There is one set for each target. -/
theorem nodup_ofRoutes (routes : List LiveRoute) : ((ofRoutes routes).map target).Nodup := by
  rw [ofRoutes, List.map_map]
  exact Dict.nodup_keys _

/-- The sensors of all sets of a target, in order. -/
def sensorsOf (sets : List SyncSet) (target : String) : List String :=
  (sets.filter fun s => s.target = target).flatMap (·.sensors)

theorem mem_sensorsOf {sets : List SyncSet} {target sensor : String} :
    sensor ∈ sensorsOf sets target ↔ ∃ set ∈ sets, set.target = target ∧ sensor ∈ set.sensors := by
  simp [sensorsOf, and_assoc]

theorem sensorsTo_routes (sets : List SyncSet) (target : String) :
    sensorsTo (sets.flatMap routes) target = sensorsOf sets target := by
  induction sets with
  | nil => rfl
  | cons set rest ih =>
    have hsplit : sensorsTo ((set :: rest).flatMap routes) target =
        sensorsTo set.routes target ++ sensorsTo (rest.flatMap routes) target := by
      rw [List.flatMap_cons, sensorsTo, List.filter_append, List.map_append, sensorsTo, sensorsTo]
    rw [hsplit, ih]
    by_cases htarget : set.target = target
    · simp [sensorsOf, sensorsTo, routes, htarget, List.filter_map, Function.comp_def]
    · simp [sensorsOf, sensorsTo, routes, htarget]

/-- The sets that the routes of listed sets group into. -/
def merged (sets : List SyncSet) : List SyncSet :=
  ofRoutes (sets.flatMap routes)

theorem nodup_merged (sets : List SyncSet) : ((merged sets).map target).Nodup :=
  nodup_ofRoutes _

/-- Merged sets are those of the targets that are listed, each with the sensors of all sets of it. -/
theorem mem_merged {sets : List SyncSet} (hsensors : ∀ set ∈ sets, set.sensors ≠ [])
    {set : SyncSet} :
    set ∈ merged sets ↔
      set.target ∈ sets.map target ∧ set.sensors = sensorsOf sets set.target := by
  rw [merged, mem_ofRoutes, sensorsTo_routes, and_comm]
  refine and_congr_left fun heq => ?_
  rw [heq, List.mem_map]
  constructor
  · intro hne
    obtain ⟨sensor, hsensor⟩ := List.exists_mem_of_ne_nil _ hne
    obtain ⟨s, hs, htarget, -⟩ := mem_sensorsOf.1 hsensor
    exact ⟨s, hs, htarget⟩
  · rintro ⟨s, hs, htarget⟩
    obtain ⟨sensor, hsensor⟩ := List.exists_mem_of_ne_nil _ (hsensors s hs)
    exact List.ne_nil_of_mem (mem_sensorsOf.2 ⟨s, hs, htarget, hsensor⟩)

/-- A listed target has its merged set where it had the last of its sets. -/
theorem lastWith?_merged {sets : List SyncSet} (hsensors : ∀ set ∈ sets, set.sensors ≠ [])
    (t : String) :
    Cache.lastWith? target (merged sets) t =
      (Cache.lastWith? target sets t).map fun _ => ⟨t, sensorsOf sets t⟩ := by
  cases hlast : Cache.lastWith? target sets t with
  | none =>
    have hunlisted := Cache.lastWith?_eq_none_iff.1 hlast
    refine Cache.lastWith?_eq_none_iff.2 fun hmerged => ?_
    obtain ⟨set, hset, rfl⟩ := List.mem_map.1 hmerged
    exact hunlisted ((mem_merged hsensors).1 hset).1
  | some last =>
    obtain ⟨hmem, rfl⟩ := Cache.mem_of_lastWith? hlast
    have hlisted : last.target ∈ sets.map target := List.mem_map_of_mem hmem
    refine (Cache.lastWith?_eq_some_iff (nodup_merged sets)).2 ⟨?_, rfl⟩
    exact (mem_merged hsensors).2 ⟨hlisted, rfl⟩

/-- Of each enabled target the last set lists the sensors of all sets. -/
def LastCovers (enabled : String → Bool) (sets : List SyncSet) : Prop :=
  ∀ set ∈ sets, enabled set.target = true →
    ∀ last, Cache.lastWith? target sets set.target = some last → set.sensors ⊆ last.sensors

theorem lastCovers_of_nodup {sets : List SyncSet} (h : (sets.map target).Nodup)
    (enabled : String → Bool) : LastCovers enabled sets := by
  intro set hset _ last hlast
  rw [(Cache.lastWith?_eq_some_iff h).2 ⟨hset, rfl⟩] at hlast
  cases hlast
  exact List.Subset.refl _

end SyncSet

namespace LiveIndex

open SyncSet (merged sensorsOf LastCovers)

theorem eq_routes_iff {x x' : LiveIndex} :
    x'.routes = x.routes ↔ ∀ r, decide (r ∈ x'.routes) = decide (r ∈ x.routes) := by
  constructor
  · intro h r
    rw [h]
  · intro h
    refine RouteSet.eq_of_pairs_eq (Finset.ext fun r => ?_)
    rw [RouteSet.mem_pairs, RouteSet.mem_pairs]
    exact decide_eq_decide.1 (h r)

/-- Listed sets and merged ones leave the same routes if the last set of each enabled target lists all
its sensors, and only then. -/
theorem syncAll_merged_iff (x : LiveIndex) {sets : List SyncSet}
    (hsensors : ∀ set ∈ sets, set.sensors ≠ []) :
    (x.syncAll (merged sets)).routes = (x.syncAll sets).routes ↔
      LastCovers x.isEnabled sets := by
  rw [eq_routes_iff]
  simp only [mem_syncAll, SyncSet.lastWith?_merged hsensors]
  constructor
  · intro hsame set hset henabled last hlast sensor hsensor
    have hroute := hsame ⟨sensor, set.target⟩
    have hall : sensor ∈ sensorsOf sets set.target :=
      SyncSet.mem_sensorsOf.2 ⟨set, hset, rfl, hsensor⟩
    rw [hlast] at hroute
    simpa [henabled, hall] using hroute
  · intro hcovers route
    cases hlast : Cache.lastWith? SyncSet.target sets route.target with
    | none => rfl
    | some last =>
      obtain ⟨hmem, htarget⟩ := Cache.mem_of_lastWith? hlast
      cases henabled : x.isEnabled route.target with
      | false => rfl
      | true =>
        have hsame : route.sensorId ∈ sensorsOf sets route.target ↔
            route.sensorId ∈ last.sensors := by
          rw [SyncSet.mem_sensorsOf]
          constructor
          · rintro ⟨set, hset, hof, hsensor⟩
            rw [← hof] at henabled hlast
            exact hcovers set hset henabled last hlast hsensor
          · intro hsensor
            exact ⟨last, hmem, htarget, hsensor⟩
        simp [hsame]

end LiveIndex

/-! ### The forms on the wire -/

section

open Command (GivesArray payload)

variable {sets : List SyncSet}

theorem Command.ofBytes_sets (hne : sets ≠ []) (htargets : ∀ set ∈ sets, set.target ≠ "")
    {arguments : Value} (h : GivesArray (sets.map SyncSet.toValue) arguments) :
    ofBytes (payload .syncLiveDataSensors arguments.text).toUTF8 = .ok (.sync sets) := by
  refine ofBytes_sync h ?reads ?value (SyncSet.listOfDocument_sets hne) hne htargets
  case reads =>
    intro v hv
    obtain ⟨set, -, rfl⟩ := List.mem_map.1 hv
    exact set.readsBack_toValue
  case value =>
    intro v hv depth
    obtain ⟨set, -, rfl⟩ := List.mem_map.1 hv
    exact set.valueWithin_toValue depth

theorem Command.ofBytes_routes {routes : List LiveRoute} (hne : routes ≠ [])
    (htargets : ∀ r ∈ routes, r.target ≠ "") {arguments : Value}
    (h : GivesArray (routes.map LiveRoute.toValue) arguments) :
    ofBytes (payload .syncLiveDataSensors arguments.text).toUTF8 =
      .ok (.sync (SyncSet.ofRoutes routes)) := by
  refine ofBytes_sync h ?reads ?value (SyncSet.listOfDocument_routes routes) ?some ?targets
  case reads =>
    intro v hv
    obtain ⟨r, -, rfl⟩ := List.mem_map.1 hv
    exact r.readsBack_toValue
  case value =>
    intro v hv depth
    obtain ⟨r, -, rfl⟩ := List.mem_map.1 hv
    exact r.valueWithin_toValue (depth + 1)
  case some =>
    obtain ⟨r, hr⟩ := List.exists_mem_of_ne_nil _ hne
    have hsensor : r.sensorId ∈ SyncSet.sensorsTo routes r.target :=
      List.mem_map_of_mem (List.mem_filter.2 ⟨hr, decide_eq_true rfl⟩)
    have hset : ⟨r.target, SyncSet.sensorsTo routes r.target⟩ ∈ SyncSet.ofRoutes routes :=
      SyncSet.mem_ofRoutes.2 ⟨rfl, List.ne_nil_of_mem hsensor⟩
    exact List.ne_nil_of_mem hset
  case targets =>
    intro set hset
    obtain ⟨hsensors, hsome⟩ := SyncSet.mem_ofRoutes.1 hset
    rw [hsensors, SyncSet.sensorsTo, ne_eq, List.map_eq_nil_iff] at hsome
    obtain ⟨r, hr⟩ := List.exists_mem_of_ne_nil _ hsome
    obtain ⟨hmem, htarget⟩ := List.mem_filter.1 hr
    exact of_decide_eq_true htarget ▸ htargets r hmem

namespace Directory

open SyncSet (merged sensorsOf LastCovers)

/-- A list of sets is read as it stands, the list of their routes as one set for each target, with the
sensors of all sets of it. Carried out on any directory they leave the same routes exactly if the last
set of each enabled target lists the sensors of all sets of that target. -/
theorem sync_forms_agree_iff (hne : sets ≠ [])
    (hsets : ∀ set ∈ sets, set.target ≠ "" ∧ set.sensors ≠ []) {objects routes : Value}
    (hobjects : GivesArray (sets.map SyncSet.toValue) objects)
    (hroutes : GivesArray ((sets.flatMap SyncSet.routes).map LiveRoute.toValue) routes) :
    Command.ofBytes (payload .syncLiveDataSensors objects.text).toUTF8 = .ok (.sync sets) ∧
      Command.ofBytes (payload .syncLiveDataSensors routes.text).toUTF8 =
        .ok (.sync (merged sets)) ∧
      ((merged sets).map SyncSet.target).Nodup ∧
      (∀ set, set ∈ merged sets ↔
        set.target ∈ sets.map SyncSet.target ∧ set.sensors = sensorsOf sets set.target) ∧
      ∀ (d : Directory) (now : Nat) (p : Repository),
        ∃ d₁ d₂, d.apply now p (.sync sets) = .ok d₁ ∧ d.apply now p (.sync (merged sets)) = .ok d₂ ∧
          (d₂.live.routes = d₁.live.routes ↔ LastCovers d.live.isEnabled sets) := by
  have hsensors : ∀ set ∈ sets, set.sensors ≠ [] := fun set hset => (hsets set hset).2
  have hsome : sets.flatMap SyncSet.routes ≠ [] := by
    obtain ⟨set, hset⟩ := List.exists_mem_of_ne_nil _ hne
    obtain ⟨sensor, hsensor⟩ := List.exists_mem_of_ne_nil _ (hsensors set hset)
    exact List.ne_nil_of_mem (List.mem_flatMap.2 ⟨set, hset, List.mem_map_of_mem hsensor⟩)
  have hnamed : ∀ r ∈ sets.flatMap SyncSet.routes, r.target ≠ "" := by
    intro r hr
    obtain ⟨set, hset, hmem⟩ := List.mem_flatMap.1 hr
    obtain ⟨sensor, -, rfl⟩ := List.mem_map.1 hmem
    exact (hsets set hset).1
  refine ⟨Command.ofBytes_sets hne (fun set hset => (hsets set hset).1) hobjects,
    Command.ofBytes_routes hsome hnamed hroutes, SyncSet.nodup_merged sets,
    fun set => SyncSet.mem_merged hsensors, fun d now p => ⟨_, _, rfl, rfl, ?_⟩⟩
  rw [live_syncAll, live_syncAll]
  exact d.live.syncAll_merged_iff hsensors

/-- Two sets of different targets, one of them disabled, and their routes as a string. -/
theorem sync_forms_agree_distinct :
    let d := (empty {}).setHandlers [{ name := "t1" }, { name := "t2", enabled := false }]
    let sets : List SyncSet := [⟨"t1", ["a", "b", "a"]⟩, ⟨"t2", ["a"]⟩]
    let text := (Value.array ((sets.flatMap SyncSet.routes).map LiveRoute.toValue)).text
    ∃ c₁ c₂ d₁ d₂,
      Command.ofBytes (payload .syncLiveDataSensors
        (Value.array (sets.map SyncSet.toValue)).text).toUTF8 = .ok c₁ ∧
      Command.ofBytes (payload .syncLiveDataSensors (Value.string text).text).toUTF8 = .ok c₂ ∧
      d.apply 0 Registry.empty.toRepository c₁ = .ok d₁ ∧
      d.apply 0 Registry.empty.toRepository c₂ = .ok d₂ ∧
      d₂.live.routes = d₁.live.routes := by
  intro d sets text
  have hsets : ∀ set ∈ sets, set.target ≠ "" ∧ set.sensors ≠ [] := by decide
  obtain ⟨hobjects, hroutes, -, -, happly⟩ :=
    sync_forms_agree_iff (List.cons_ne_nil _ _) hsets .inline .encoded
  obtain ⟨d₁, d₂, h₁, h₂, hsame⟩ := happly d 0 Registry.empty.toRepository
  exact ⟨_, _, d₁, d₂, hobjects, hroutes, h₁, h₂,
    hsame.2 (SyncSet.lastCovers_of_nodup (by decide) _)⟩

/-- Two sets of one target leave the sensor of the second, their routes leave both. -/
theorem sync_forms_disagree :
    ¬ ∀ (sets : List SyncSet) (d d₁ d₂ : Directory) (now : Nat) (p : Repository) (c₁ c₂ : Command),
      sets ≠ [] → (∀ set ∈ sets, set.target ≠ "" ∧ set.sensors ≠ []) →
      Command.ofBytes (payload .syncLiveDataSensors
        (Value.array (sets.map SyncSet.toValue)).text).toUTF8 = .ok c₁ →
      Command.ofBytes (payload .syncLiveDataSensors
        (Value.array ((sets.flatMap SyncSet.routes).map LiveRoute.toValue)).text).toUTF8 = .ok c₂ →
      d.apply now p c₁ = .ok d₁ → d.apply now p c₂ = .ok d₂ →
      d₂.live.routes = d₁.live.routes := by
  intro h
  let d := (empty {}).setHandlers [{ name := "t" }]
  let sets : List SyncSet := [⟨"t", ["a"]⟩, ⟨"t", ["b"]⟩]
  let routes := sets.flatMap SyncSet.routes
  have hsets : ∀ set ∈ sets, set.target ≠ "" ∧ set.sensors ≠ [] := by decide
  have htargets : ∀ r ∈ routes, r.target ≠ "" := by decide
  have hne : sets ≠ [] := List.cons_ne_nil _ _
  have hsome : routes ≠ [] := List.cons_ne_nil _ _
  have hobjects := Command.ofBytes_sets hne (fun set hset => (hsets set hset).1) .inline
  have hroutes := Command.ofBytes_routes hsome htargets .inline
  have hsame := h sets d _ _ 0 Registry.empty.toRepository _ _ hne hsets hobjects hroutes rfl rfl
  have hboth : ⟨"a", "t"⟩ ∈ (d.syncAll (SyncSet.ofRoutes routes)).live.routes := by decide
  rw [hsame] at hboth
  exact absurd hboth (by decide)

end Directory

end

end SensorRouter
