import SensorRouter.Proofs.Directory.Reload

/-!
Repositories that answer from a registry, and the two ways in which they hand out an entity: among a
listing of its kind, or on its own. The order of a listing does not matter.
-/

namespace SensorRouter

/-! ### Triggers of a sensor -/

/-- The sensor with its row, which replaces its own triggers even when it is empty. -/
def Sensor.withRow (row : Option (List SensorTrigger)) (s : Sensor) : Sensor :=
  { s with triggers := row <|> s.triggers }

/-- The sensor with the triggers kept for it, which replace its own when there are any. -/
def Sensor.withTriggers (triggers : List SensorTrigger) (s : Sensor) : Sensor :=
  if triggers.isEmpty then s else { s with triggers := some triggers }

@[simp]
theorem Sensor.id_withTriggers (triggers : List SensorTrigger) (s : Sensor) :
    (s.withTriggers triggers).id = s.id := by
  unfold withTriggers
  split <;> rfl

/-! ### Listings -/

namespace Cache

variable {α : Type} {key : α → String} {items : List α}

/-- Where the ids differ, a listing has an item under a key exactly if it lists it. -/
theorem lastWith?_eq_some_iff (hids : (items.map key).Nodup) {id : String} {a : α} :
    lastWith? key items id = some a ↔ a ∈ items ∧ key a = id := by
  constructor
  · exact mem_of_lastWith?
  · rintro ⟨hmem, rfl⟩
    cases hb : lastWith? key items (key a) with
    | none =>
      unfold lastWith? at hb
      have hnone := List.find?_eq_none.1 hb a (List.mem_reverse.2 hmem)
      exact absurd (decide_eq_true rfl) hnone
    | some b =>
      obtain ⟨hbmem, hkey⟩ := mem_of_lastWith? hb
      rw [List.inj_on_of_nodup_map hids hbmem hmem hkey]

/-- A change of the items that keeps their ids changes what is found. -/
theorem lastWith?_map {f : α → α} (hf : ∀ a, key (f a) = key a) (id : String) :
    lastWith? key (items.map f) id = (lastWith? key items id).map f := by
  simp only [lastWith?, ← List.map_reverse, List.find?_map]
  congr 2
  funext a
  simp [hf]

/-- A listing of a dictionary's values, in any order, has under each id what the dictionary has. -/
theorem lastWith?_of_perm {d : Dict α} (hkeyed : d.Keyed key) (hperm : items.Perm d.values)
    (id : String) : lastWith? key items id = d.get? id := by
  have hids : (items.map key).Nodup := by
    rw [(hperm.map key).nodup_iff, hkeyed.map_values]
    exact d.nodup_keys
  apply Option.ext
  intro a
  rw [lastWith?_eq_some_iff hids, hperm.mem_iff, Dict.mem_values_iff]
  constructor
  · rintro ⟨⟨k, hk⟩, rfl⟩
    rwa [hkeyed k a hk]
  · intro ha
    exact ⟨⟨id, ha⟩, hkeyed id a ha⟩

end Cache

namespace TriggerRow

theorem collect?_filter_ne (rows : List TriggerRow) {id other : String} (h : id ≠ other) :
    collect? (rows.filter fun r => r.sensorId ≠ other) id = collect? rows id := by
  have hown : (rows.filter fun r => r.sensorId ≠ other).filter (fun r => r.sensorId = id) =
      rows.filter fun r => r.sensorId = id := by
    rw [List.filter_filter]
    refine List.filter_congr fun r _ => ?_
    by_cases hid : r.sensorId = id <;> simp [hid, h]
  rw [collect?, hown, collect?]

/-- Where the ids differ, every sensor gets its rows. -/
theorem attach_eq_map (rows : List TriggerRow) (sensors : List Sensor)
    (hids : (sensors.map Sensor.id).Nodup) :
    attach rows sensors =
      sensors.map fun s => s.withRow (collect? rows s.id) := by
  induction sensors generalizing rows with
  | nil => rfl
  | cons s rest ih =>
    obtain ⟨hfresh, hrest⟩ := List.nodup_cons.1 hids
    rw [attach, List.map_cons, ih _ hrest]
    congr 1
    refine List.map_congr_left fun other hother => ?_
    have hne : other.id ≠ s.id := by
      intro heq
      exact hfresh (heq ▸ List.mem_map_of_mem hother)
    rw [collect?_filter_ne rows hne]

/-- Of the rows of a registry, in any order, a sensor has the one under its id. -/
theorem collect?_of_perm {r : Registry} {rows : List TriggerRow} (h : rows.Perm r.triggerRows)
    (id : String) : collect? rows id = r.triggers.get? id := by
  have hown : (r.triggerRows.filter fun row => row.sensorId = id) =
      (r.triggers.get? id).toList.map (TriggerRow.mk id) := by
    rw [Registry.triggerRows, List.filter_map]
    change ((r.triggers.toList.filter fun e => e.1 = id).map _) = _
    rw [Dict.filter_toList, List.map_map]
    rfl
  have hperm := h.filter fun row => row.sensorId = id
  rw [hown] at hperm
  cases hrow : r.triggers.get? id with
  | none =>
    rw [hrow] at hperm
    rw [collect?, List.perm_nil.1 hperm]
  | some triggers =>
    rw [hrow] at hperm
    rw [collect?, List.perm_singleton.1 hperm]
    simp

end TriggerRow

/-! ### Entities of a registry -/

/-- One entity of a kind; a sensor with the triggers kept for it. -/
def Repository.fetch (p : Repository) :
    (kind : EntityKind) → String → Except RepositoryError (Option kind.Entity)
  | .account => p.account
  | .sensor => Directory.fetchSensor p
  | .apiKey => p.apiKey

namespace Registry

variable {r : Registry} {p : Repository} {kind : EntityKind}

/-- The entity that is kept under an id. -/
def stored (r : Registry) : (kind : EntityKind) → String → Option kind.Entity
  | .account, id => r.accounts.get? id
  | .sensor, id => r.sensors.get? id
  | .apiKey, key => r.apiKeys.get? key

/-- An entity as a listing has it. -/
def listed (r : Registry) : (kind : EntityKind) → String → Option kind.Entity
  | .sensor, id => (r.sensors.get? id).map (Sensor.withRow (r.triggers.get? id))
  | .account, id => r.accounts.get? id
  | .apiKey, key => r.apiKeys.get? key

/-- An entity as it is fetched on its own. -/
def fetched (r : Registry) : (kind : EntityKind) → String → Option kind.Entity
  | .sensor, id => (r.sensors.get? id).map (Sensor.withTriggers (r.triggersFor id))
  | .account, id => r.accounts.get? id
  | .apiKey, key => r.apiKeys.get? key

/-- A repository answers from the registry, with its listings in any order. -/
structure ServedBy (r : Registry) (p : Repository) : Prop where
  accounts : ∃ items, p.accounts = .ok items ∧ items.Perm r.accounts.values
  account : ∀ id, p.account id = .ok (r.accounts.get? id)
  apiKeys : ∃ items, p.apiKeys = .ok items ∧ items.Perm r.apiKeys.values
  apiKey : ∀ key, p.apiKey key = .ok (r.apiKeys.get? key)
  sensors : ∃ items, p.sensors = .ok items ∧ items.Perm r.sensors.values
  sensor : ∀ id, p.sensor id = .ok (r.sensors.get? id)
  triggerRows : ∃ rows, p.triggerRows = .ok rows ∧ rows.Perm r.triggerRows
  triggersFor : ∀ id, p.triggersFor id = .ok (r.triggersFor id)
  liveHandlers : p.liveHandlers = .ok r.liveHandlers
  liveRoutes : p.liveRoutes = .ok r.liveRoutes

theorem servedBy_toRepository (r : Registry) : r.ServedBy r.toRepository where
  accounts := ⟨_, rfl, .refl _⟩
  account _ := rfl
  apiKeys := ⟨_, rfl, .refl _⟩
  apiKey _ := rfl
  sensors := ⟨_, rfl, .refl _⟩
  sensor _ := rfl
  triggerRows := ⟨_, rfl, .refl _⟩
  triggersFor _ := rfl
  liveHandlers := rfl
  liveRoutes := rfl

/-- A listing of a kind has each entity of the registry under its id. -/
theorem ServedBy.listing (h : r.ServedBy p) (kind : EntityKind) :
    ∃ items, p.listing kind = .ok items ∧
      ∀ id, Cache.lastWith? kind.idOf items id = r.listed kind id := by
  cases kind with
  | account =>
    obtain ⟨items, hitems, hperm⟩ := h.accounts
    exact ⟨items, hitems, Cache.lastWith?_of_perm r.accounts_keyed hperm⟩
  | apiKey =>
    obtain ⟨items, hitems, hperm⟩ := h.apiKeys
    exact ⟨items, hitems, Cache.lastWith?_of_perm r.apiKeys_keyed hperm⟩
  | sensor =>
    obtain ⟨items, hitems, hperm⟩ := h.sensors
    obtain ⟨rows, hrows, hrowsPerm⟩ := h.triggerRows
    let merged (s : Sensor) : Sensor := s.withRow (TriggerRow.collect? rows s.id)
    have hmerged : ∀ s, (merged s).id = s.id := fun _ => rfl
    have hids : (items.map Sensor.id).Nodup := by
      rw [(hperm.map Sensor.id).nodup_iff, r.sensors_keyed.map_values]
      exact r.sensors.nodup_keys
    refine ⟨TriggerRow.attach rows items, ?_, fun id => ?_⟩
    · simp only [Repository.listing, hitems, hrows]
      rfl
    calc Cache.lastWith? Sensor.id (TriggerRow.attach rows items) id
        = Cache.lastWith? Sensor.id (items.map merged) id := by
          rw [TriggerRow.attach_eq_map rows items hids]
      _ = (Cache.lastWith? Sensor.id items id).map merged := Cache.lastWith?_map hmerged id
      _ = (r.sensors.get? id).map merged := by
          rw [Cache.lastWith?_of_perm r.sensors_keyed hperm id]
      _ = r.listed .sensor id := by
          refine Option.map_congr fun s hs => ?_
          simp only [merged, TriggerRow.collect?_of_perm hrowsPerm, r.sensors_keyed id s hs]

/-- An entity fetched on its own is there exactly if the registry has it. -/
theorem ServedBy.fetch (h : r.ServedBy p) (kind : EntityKind) (id : String) :
    p.fetch kind id = .ok (r.fetched kind id) := by
  cases kind with
  | account => exact h.account id
  | apiKey => exact h.apiKey id
  | sensor =>
    simp only [Repository.fetch, Directory.fetchSensor, h.sensor, h.triggersFor, fetched]
    cases r.sensors.get? id <;> rfl

theorem isSome_listed (r : Registry) (kind : EntityKind) (id : String) :
    (r.listed kind id).isSome = (r.stored kind id).isSome := by
  cases kind <;> simp [listed, stored]

theorem isSome_fetched (r : Registry) (kind : EntityKind) (id : String) :
    (r.fetched kind id).isSome = (r.stored kind id).isSome := by
  cases kind <;> simp [fetched, stored]

theorem idOf_of_listed {id : String} {e : kind.Entity} (h : r.listed kind id = some e) :
    kind.idOf e = id := by
  cases kind with
  | account => exact r.accounts_keyed id e h
  | apiKey => exact r.apiKeys_keyed id e h
  | sensor =>
    obtain ⟨s, hs, rfl⟩ := Option.map_eq_some_iff.1 h
    exact r.sensors_keyed id s hs

theorem idOf_of_fetched {id : String} {e : kind.Entity} (h : r.fetched kind id = some e) :
    kind.idOf e = id := by
  cases kind with
  | account => exact r.accounts_keyed id e h
  | apiKey => exact r.apiKeys_keyed id e h
  | sensor =>
    obtain ⟨s, hs, rfl⟩ := Option.map_eq_some_iff.1 h
    exact (s.id_withTriggers _).trans (r.sensors_keyed id s hs)

end Registry

end SensorRouter
