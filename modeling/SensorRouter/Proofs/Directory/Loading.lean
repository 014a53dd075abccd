import SensorRouter.Proofs.Repository.Served

/-!
What a directory without capacities holds once a registry has been reloaded or a command applied: each
lookup finds what the registry hands out, or what it found before.
-/

namespace SensorRouter

/-- The command forgets an entity, whatever the repository has. -/
def Command.Forgets (c : Command) (kind : EntityKind) (id : String) : Prop :=
  c = .flush kind id ∨ kind = .account ∧ c = .deleteAccount id

instance (c : Command) (kind : EntityKind) (id : String) : Decidable (c.Forgets kind id) :=
  inferInstanceAs (Decidable (_ ∨ _))

namespace Directory

variable {d d' : Directory} {now : Nat} {r : Registry} {p : Repository} {kind : EntityKind}

/-- No cache has a capacity. -/
def Unbounded (d : Directory) : Prop :=
  ∀ kind, (d.options kind).capacity = none

theorem Unbounded.of_options (h : d.Unbounded) (hoptions : ∀ kind, d'.options kind = d.options kind) :
    d'.Unbounded :=
  fun kind => by rw [hoptions, h]

theorem unbounded_empty {options : CacheOptions} (h : options.capacity = none) :
    (empty options).Unbounded := by
  intro kind
  cases kind <;> exact h

/-! ### Reloads -/

theorem refresh_served_ok (hd : d.Unbounded) (h : r.ServedBy p) (now : Nat)
    (kinds : List EntityKind) : (d.refresh now p kinds).2 = .ok () := by
  induction kinds generalizing d with
  | nil => rfl
  | cons kind rest ih =>
    obtain ⟨items, hitems, -⟩ := h.listing kind
    obtain ⟨d', hload, hreplaces⟩ := load_accepted now (.inl (hd kind) : d.Accepts kind items)
    rw [refresh, hitems]
    simp only [hload]
    exact ih (hd.of_options hreplaces.options)

theorem refresh_served (hd : d.Unbounded) (h : r.ServedBy p) (now : Nat) {kinds : List EntityKind}
    (hkinds : kinds.Nodup) :
    (d.refresh now p kinds).2 = .ok () ∧
      ∀ kind ∈ kinds, ∀ id, (d.refresh now p kinds).1.lookup kind id = r.listed kind id := by
  have hok := refresh_served_ok hd h now kinds
  refine ⟨hok, fun kind hkind id => ?_⟩
  obtain ⟨items, hitems, hlisted⟩ := h.listing kind
  obtain ⟨-, hfound⟩ := refresh_found hkinds hok hkind hitems
  rw [hfound, hlisted]

/-- A reload from a registry succeeds, and from then on lookups find what the registry lists. -/
theorem reload_served (hd : d.Unbounded) (h : r.ServedBy p) (now : Nat) :
    ∃ d' summary, d.reload now p = (d', .ok summary) ∧ d'.Unbounded ∧
      ∀ kind id, d'.lookup kind id = r.listed kind id := by
  let d₁ := d.setHandlers r.liveHandlers
  let d₂ := (d₁.refresh now p [.account, .sensor, .apiKey]).1
  have hd₁ : d₁.Unbounded := hd.of_options (d.options_setHandlers r.liveHandlers)
  obtain ⟨hok, hlisted⟩ := refresh_served hd₁ h now
    (by decide : [EntityKind.account, .sensor, .apiKey].Nodup)
  have hrefresh : d₁.refresh now p [.account, .sensor, .apiKey] = (d₂, .ok ()) := Prod.ext rfl hok
  have hparts := d.reload_eq_parts now p
  rw [reloadParts, h.liveHandlers] at hparts
  simp only [d₁] at hrefresh
  simp only [hrefresh, h.liveRoutes] at hparts
  rcases hreload : d.reload now p with ⟨d', e | summary⟩
  · rw [hreload] at hparts
    cases congrArg Prod.snd hparts
  · rw [hreload] at hparts
    have hd' : d' = (d₂.addRoutes r.liveRoutes).2 := congrArg Prod.fst hparts
    have hoptions := (d₁.refresh_frame now p [.account, .sensor, .apiKey]).2.1
    refine ⟨d', summary, rfl, ?_, ?_⟩
    · exact hd₁.of_options fun kind => by rw [hd', options_addRoutes, hoptions]
    · intro kind id
      rw [hd', lookup_addRoutes, hlisted kind (by cases kind <;> decide)]

/-! ### Commands -/

theorem replaces_remove (d : Directory) (kind : EntityKind) (id : String) :
    d.Replaces (d.remove kind id).2 kind fun k => if k = id then none else d.lookup kind k where
  found k := by simp [lookup_remove]
  others kind' hne k := by simp [lookup_remove, hne]
  options kind' := by simp
  live := by cases kind <;> rfl

theorem put_replaces (hcapacity : (d.options kind).capacity = none) (now : Nat) (e : kind.Entity) :
    ∃ d', d.put now kind e = .ok d' ∧
      d.Replaces d' kind fun k => if k = kind.idOf e then some e else d.lookup kind k := by
  obtain ⟨c, hput, hoptions, hpeek⟩ := (d.cache kind).put_unbounded hcapacity now (kind.idOf e) e
  refine ⟨d.withCache kind c, by rw [put_eq, hput]; rfl, ?_⟩
  have hreplaces := d.replaces_withCache hoptions
  rwa [funext hpeek] at hreplaces

theorem apply_add_eq (d : Directory) (now : Nat) (p : Repository) (kind : EntityKind)
    (id : String) :
    d.apply now p (.add kind id) = d.settle kind id (d.put now kind) (p.fetch kind id) := by
  cases kind <;> rfl

/-- An entity added from a registry is found as the registry hands it out, or no longer found. -/
theorem apply_add_served (hd : d.Unbounded) (h : r.ServedBy p) (now : Nat) (kind : EntityKind)
    (id : String) :
    ∃ d', d.apply now p (.add kind id) = .ok d' ∧
      d.Replaces d' kind fun k => if k = id then r.fetched kind id else d.lookup kind k := by
  rw [apply_add_eq, h.fetch]
  cases hfetched : r.fetched kind id with
  | none => exact ⟨_, rfl, d.replaces_remove kind id⟩
  | some e =>
    obtain ⟨d', hput, hreplaces⟩ := put_replaces (hd kind) now e
    rw [Registry.idOf_of_fetched hfetched] at hreplaces
    exact ⟨d', by simp [settle, hput, Except.mapError], hreplaces⟩

/-- Syncs change no lookup and no settings. -/
theorem syncAll_frame (d : Directory) (sets : List SyncSet) :
    (∀ kind, (d.syncAll sets).options kind = d.options kind) ∧
      ∀ kind id, (d.syncAll sets).lookup kind id = d.lookup kind id := by
  induction sets generalizing d with
  | nil => exact ⟨fun _ => rfl, fun _ _ => rfl⟩
  | cons set rest ih =>
    obtain ⟨hoptions, hlookup⟩ := ih (d.sync set).2
    refine ⟨fun kind => (hoptions kind).trans ?_, fun kind id => (hlookup kind id).trans ?_⟩
    · cases kind <;> rfl
    · cases kind <;> rfl

/-- A command from a registry succeeds; it changes no lookup but that of the id that it adds or
forgets. -/
theorem apply_served (hd : d.Unbounded) (h : r.ServedBy p) (now : Nat) (c : Command) :
    ∃ d', d.apply now p c = .ok d' ∧ d'.Unbounded ∧
      ∀ kind id, d'.lookup kind id =
        if c = .add kind id then r.fetched kind id
        else if c.Forgets kind id then none else d.lookup kind id := by
  cases c with
  | add kind₀ id₀ =>
    obtain ⟨d', happly, hreplaces⟩ := apply_add_served hd h now kind₀ id₀
    refine ⟨d', happly, hd.of_options hreplaces.options, fun kind id => ?_⟩
    by_cases hkind : kind = kind₀
    · subst hkind
      rw [hreplaces.found]
      by_cases hid : id = id₀
      · simp [hid]
      · simp [hid, Ne.symm hid, Command.Forgets]
    · simp [hreplaces.others kind hkind, Command.Forgets, Ne.symm hkind]
  | flush kind₀ id₀ =>
    refine ⟨_, rfl, hd.of_options (d.replaces_remove kind₀ id₀).options, fun kind id => ?_⟩
    simp [lookup_remove, Command.Forgets, eq_comm]
  | deleteAccount id₀ =>
    refine ⟨_, rfl, hd.of_options (d.replaces_remove .account id₀).options, fun kind id => ?_⟩
    simp [lookup_remove, Command.Forgets, eq_comm]
  | addRoute route =>
    refine ⟨_, rfl, hd.of_options fun kind => ?_, fun kind id => ?_⟩ <;> cases kind <;> rfl
  | removeRoute route =>
    refine ⟨_, rfl, hd.of_options fun kind => ?_, fun kind id => ?_⟩ <;> cases kind <;> rfl
  | sync sets =>
    obtain ⟨hoptions, hlookup⟩ := d.syncAll_frame sets
    refine ⟨_, rfl, hd.of_options hoptions, fun kind id => ?_⟩
    simp [hlookup, Command.Forgets]

end Directory

end SensorRouter
