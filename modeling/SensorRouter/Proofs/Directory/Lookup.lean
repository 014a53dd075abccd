import SensorRouter.Directory.Update
import SensorRouter.Proofs.Expiry.Lookup

/-!
Lookups in a directory by kind of entity, and what each operation on the directory does to them. Two
directories are alike when no lookup, route or handler tells them apart.
-/

namespace SensorRouter

namespace EntityKind

/-- The entities of a kind. -/
abbrev Entity : EntityKind → Type
  | account => Account
  | sensor => Sensor
  | apiKey => ApiKey

/-- The id that an entity is kept under. -/
def idOf : (kind : EntityKind) → kind.Entity → String
  | account => Account.id
  | sensor => Sensor.id
  | apiKey => ApiKey.key

end EntityKind

namespace Directory

/-- The cache of the entities of a kind. -/
def cache (d : Directory) : (kind : EntityKind) → Cache kind.Entity
  | .account => d.accounts
  | .sensor => d.sensors
  | .apiKey => d.apiKeys

/-- What a lookup of an id finds. -/
def lookup (d : Directory) (kind : EntityKind) (id : String) : Option kind.Entity :=
  (d.cache kind).peek? id

/-- The settings of the cache of a kind. -/
def options (d : Directory) (kind : EntityKind) : CacheOptions :=
  (d.cache kind).options

/-- No lookup, route or handler tells the directories apart. -/
structure Alike (d d' : Directory) : Prop where
  lookup : ∀ kind id, d'.lookup kind id = d.lookup kind id
  routes : d'.live.routes = d.live.routes
  handlers : d'.live.handlers = d.live.handlers

theorem Alike.counts_eq {d d' : Directory} (h : d.Alike d') : d'.counts = d.counts := by
  have hsensors : d'.sensors.length = d.sensors.length :=
    Cache.length_eq_of_peek?_eq (h.lookup .sensor)
  have haccounts : d'.accounts.length = d.accounts.length :=
    Cache.length_eq_of_peek?_eq (h.lookup .account)
  have hkeys : d'.apiKeys.length = d.apiKeys.length :=
    Cache.length_eq_of_peek?_eq (h.lookup .apiKey)
  rw [counts, counts, hsensors, haccounts, hkeys, h.routes, h.handlers]

/-! ### Uses -/

/-- The directory after a lookup has found an entity. -/
def use (d : Directory) (now : Nat) (kind : EntityKind) (id : String) : Directory :=
  match kind with
  | .account => { d with accounts := d.accounts.noteUse now id }
  | .sensor => { d with sensors := d.sensors.noteUse now id }
  | .apiKey => { d with apiKeys := d.apiKeys.noteUse now id }

@[simp]
theorem lookup_use (d : Directory) (now : Nat) (kind kind' : EntityKind) (id id' : String) :
    (d.use now kind id).lookup kind' id' = d.lookup kind' id' := by
  cases kind <;> cases kind' <;> simp [use, lookup, cache]

@[simp]
theorem options_use (d : Directory) (now : Nat) (kind kind' : EntityKind) (id : String) :
    (d.use now kind id).options kind' = d.options kind' := by
  cases kind <;> cases kind' <;> simp [use, options, cache]

@[simp]
theorem live_use (d : Directory) (now : Nat) (kind : EntityKind) (id : String) :
    (d.use now kind id).live = d.live := by
  cases kind <;> rfl

theorem findSensor_eq (d : Directory) (now : Nat) (id : String) :
    d.findSensor now id = match d.lookup .sensor id with
      | some s => .ok (s, d.use now .sensor id)
      | none => .error .notFound := by
  simp only [findSensor, Cache.get, lookup, cache, use]
  cases d.sensors.peek? id <;> rfl

theorem findAccount_eq (d : Directory) (now : Nat) (id : String) :
    d.findAccount now id = match d.lookup .account id with
      | some a => .ok (a, d.use now .account id)
      | none => .error .notFound := by
  simp only [findAccount, Cache.get, lookup, cache, use]
  cases d.accounts.peek? id <;> rfl

theorem findApiKey_eq (d : Directory) (now : Nat) (key : String) :
    d.findApiKey now key = match d.lookup .apiKey key with
      | some k => .ok (k, d.use now .apiKey key)
      | none => .error .notFound := by
  simp only [findApiKey, Cache.get, lookup, cache, use]
  cases d.apiKeys.peek? key <;> rfl

/-- The second directory is the first after lookups at a time. -/
inductive Used (now : Nat) (d : Directory) : Directory → Prop
  | refl : Used now d d
  | use {d' : Directory} (h : Used now d d') (kind : EntityKind) (id : String) :
      Used now d (d'.use now kind id)

namespace Used

variable {now : Nat} {d d' d'' : Directory}

theorem once (d : Directory) (kind : EntityKind) (id : String) : Used now d (d.use now kind id) :=
  .use .refl kind id

theorem trans (h : Used now d d') (h' : Used now d' d'') : Used now d d'' := by
  induction h' with
  | refl => exact h
  | use _ kind id ih => exact ih.use kind id

theorem lookup_eq (h : Used now d d') (kind : EntityKind) (id : String) :
    d'.lookup kind id = d.lookup kind id := by
  induction h with
  | refl => rfl
  | use _ _ _ ih => rw [lookup_use, ih]

theorem options_eq (h : Used now d d') (kind : EntityKind) : d'.options kind = d.options kind := by
  induction h with
  | refl => rfl
  | use _ _ _ ih => rw [options_use, ih]

theorem live_eq (h : Used now d d') : d'.live = d.live := by
  induction h with
  | refl => rfl
  | use _ _ _ ih => rw [live_use, ih]

end Used

/-! ### Removals and sweeps -/

theorem lookup_remove (d : Directory) (kind kind' : EntityKind) (id id' : String) :
    (d.remove kind id).2.lookup kind' id' =
      if kind' = kind ∧ id' = id then none else d.lookup kind' id' := by
  cases kind <;> cases kind' <;> simp [remove, lookup, cache, Cache.peek?_remove]

@[simp]
theorem options_remove (d : Directory) (kind kind' : EntityKind) (id : String) :
    (d.remove kind id).2.options kind' = d.options kind' := by
  cases kind <;> cases kind' <;> simp [remove, options, cache]

theorem lookup_of_sweep {d : Directory} {now : Nat} {kind : EntityKind} {id : String}
    {v : kind.Entity} (h : (d.sweep now).2.lookup kind id = some v) :
    d.lookup kind id = some v := by
  cases kind <;> exact Cache.peek?_of_sweep h

@[simp]
theorem options_sweep (d : Directory) (now : Nat) (kind : EntityKind) :
    (d.sweep now).2.options kind = d.options kind := by
  cases kind <;> rfl

/-! ### Puts and loads -/

/-- Puts an entity of a kind into its cache. -/
def put (d : Directory) (now : Nat) : (kind : EntityKind) → kind.Entity → Except CacheError Directory
  | .account => d.putAccount now
  | .sensor => d.putSensor now
  | .apiKey => d.putApiKey now

/-- Replaces the entities of a kind by those of a listing. -/
def load (d : Directory) (now : Nat) :
    (kind : EntityKind) → List kind.Entity → Directory × Except CacheError Nat
  | .account => d.loadAccounts now
  | .sensor => d.loadSensors now
  | .apiKey => d.loadApiKeys now

/-- The directory with another cache for a kind. -/
def withCache (d : Directory) : (kind : EntityKind) → Cache kind.Entity → Directory
  | .account, c => { d with accounts := c }
  | .sensor, c => { d with sensors := c }
  | .apiKey, c => { d with apiKeys := c }

@[simp]
theorem cache_withCache (d : Directory) (kind : EntityKind) (c : Cache kind.Entity) :
    (d.withCache kind c).cache kind = c := by
  cases kind <;> rfl

@[simp]
theorem withCache_cache (d : Directory) (kind : EntityKind) :
    d.withCache kind (d.cache kind) = d := by
  cases kind <;> rfl

theorem cache_withCache_of_ne (d : Directory) {kind kind' : EntityKind} (c : Cache kind.Entity)
    (h : kind' ≠ kind) : (d.withCache kind c).cache kind' = d.cache kind' := by
  cases kind <;> cases kind' <;> first | rfl | exact absurd rfl h

@[simp]
theorem live_withCache (d : Directory) (kind : EntityKind) (c : Cache kind.Entity) :
    (d.withCache kind c).live = d.live := by
  cases kind <;> rfl

theorem lookup_withCache_of_ne (d : Directory) {kind kind' : EntityKind} (c : Cache kind.Entity)
    (h : kind' ≠ kind) (id : String) :
    (d.withCache kind c).lookup kind' id = d.lookup kind' id := by
  rw [lookup, cache_withCache_of_ne d c h, lookup]

theorem options_withCache (d : Directory) (kind kind' : EntityKind) (c : Cache kind.Entity)
    (hoptions : c.options = d.options kind) :
    (d.withCache kind c).options kind' = d.options kind' := by
  by_cases h : kind' = kind
  · subst h
    rw [options, cache_withCache, hoptions]
  · rw [options, cache_withCache_of_ne d c h, options]

theorem put_eq (d : Directory) (now : Nat) (kind : EntityKind) (e : kind.Entity) :
    d.put now kind e = ((d.cache kind).put now (kind.idOf e) e).map (d.withCache kind) := by
  cases kind <;> rfl

theorem load_eq (d : Directory) (now : Nat) (kind : EntityKind) (items : List kind.Entity) :
    d.load now kind items =
      (d.withCache kind (refill (d.cache kind) now kind.idOf items).1,
        (refill (d.cache kind) now kind.idOf items).2) := by
  cases kind <;> rfl

end Directory

end SensorRouter
