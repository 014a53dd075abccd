import SensorRouter.Proofs.Directory.Replay
import SensorRouter.Proofs.Expiry.Accounting
import SensorRouter.Proofs.Routing.Authorization

/-!
How long a directory retains what has been used. With sliding expiration a lookup renews the entry that
it finds, and an authorization that succeeds looks up all that it depends on. A renewed entry outlasts
two sweeps past its timeout, whatever happens to other entries meanwhile.
-/

namespace SensorRouter

/-! ### One entry -/

namespace Entry

variable {α : Type} {e : Entry α} {v : α} {T since late now : Nat}

/-- The entry has had a value since a use. It may be idle for a time `T`, and at most `late` sweeps
have moved it on its way out. -/
structure Retains (e : Entry α) (v : α) (T since late : Nat) : Prop where
  value : e.value = v
  timeout : e.timeout = some T
  seen : since ≤ e.lastSeen
  kept : e.state ≠ .removed
  past : e.state.sweepsPast ≤ late

theorem state_touch (hkept : e.state ≠ .removed) (now : Nat) : (e.touch now).state = .active :=
  if_neg hkept

theorem Retains.touch (h : e.Retains v T since late) (hnow : since ≤ now) :
    (e.touch now).Retains v T since late where
  value := h.value
  timeout := h.timeout
  seen := hnow
  kept := by rw [state_touch h.kept]; exact nofun
  past := by rw [state_touch h.kept]; exact Nat.zero_le late

/-- A use starts over, however far the entry was on its way out. -/
theorem retains_touch (htimeout : e.timeout = some T) (hkept : e.state ≠ .removed) (now : Nat) :
    (e.touch now).Retains e.value T now 0 where
  value := rfl
  timeout := htimeout
  seen := Nat.le_refl now
  kept := by rw [state_touch hkept]; exact nofun
  past := by rw [state_touch hkept]; exact Nat.le_refl 0

/-- Until its timeout has passed since the use, the entry is not idle. -/
theorem Retains.not_idle (h : e.Retains v T since late) (hnow : now ≤ since + T) : ¬ e.Idle now := by
  rintro ⟨t, ht, hidle⟩
  have hseen := h.seen
  rw [h.timeout] at ht
  cases ht
  omega

/-- A sweep that does not find the entry idle leaves it active. -/
theorem Retains.swept_of_not_idle (h : e.Retains v T since late) (hidle : ¬ e.Idle now) :
    ∃ e', e.swept now = some e' ∧ e'.Retains v T since late := by
  have hactive : e.swept now = some { e with state := .active } := by
    unfold swept fate
    cases hstate : e.state with
    | active => simp [hidle, ← hstate]
    | expired => simp [hidle]
    | scheduled => simp [hidle]
    | removed => exact absurd hstate h.kept
  exact ⟨_, hactive, h.value, h.timeout, h.seen, nofun, Nat.zero_le late⟩

/-- A sweep that finds the entry idle drops it only when it is the third. -/
theorem Retains.swept_of_idle (h : e.Retains v T since late) (hidle : e.Idle now)
    (hfew : late + 1 < 3) : ∃ e', e.swept now = some e' ∧ e'.Retains v T since (late + 1) := by
  rw [Entry.swept_of_idle hidle]
  have hpast := h.past
  cases hstate : e.state with
  | active =>
    have hwaned : e.waned = some { e with state := .expired } := by rw [waned, hstate]
    refine ⟨{ e with state := .expired }, hwaned, h.value, h.timeout, h.seen, ?_, ?_⟩
    · exact EntryState.noConfusion
    · exact Nat.le_add_left 1 late
  | expired =>
    rw [hstate] at hpast
    have hwaned : e.waned = some { e with state := .scheduled } := by rw [waned, hstate]
    refine ⟨{ e with state := .scheduled }, hwaned, h.value, h.timeout, h.seen, ?_, ?_⟩
    · exact EntryState.noConfusion
    · exact Nat.succ_le_succ hpast
  | scheduled =>
    rw [hstate] at hpast
    change 2 ≤ late at hpast
    omega
  | removed => exact absurd hstate h.kept

/-- A sweep counts against the entry when it comes after the timeout has passed since the use. -/
theorem Retains.swept (h : e.Retains v T since late) {count : Nat}
    (hcount : count = if since + T < now then 1 else 0) (hfew : late + count < 3) :
    ∃ e', e.swept now = some e' ∧ e'.Retains v T since (late + count) := by
  by_cases hidle : e.Idle now
  · have hpassed : since + T < now := Nat.lt_of_not_le fun hnow => h.not_idle hnow hidle
    rw [if_pos hpassed] at hcount
    rw [hcount] at hfew ⊢
    exact h.swept_of_idle hidle hfew
  · obtain ⟨e', hswept, hretains⟩ := h.swept_of_not_idle hidle
    exact ⟨e', hswept, { hretains with past := hretains.past.trans (Nat.le_add_right late count) }⟩

end Entry

/-! ### One cache -/

namespace Cache

variable {α : Type} {c c' : Cache α} {T now : Nat}

/-- Expiration is sliding, and every entry may be idle for the default timeout. -/
structure Slides (c : Cache α) (T : Nat) : Prop where
  sliding : c.options.sliding = true
  timeout : c.options.timeout = some T
  entries : c.Every fun e => e.timeout = some T

theorem slides_empty {options : CacheOptions} (hsliding : options.sliding = true)
    (htimeout : options.timeout = some T) : (empty options : Cache α).Slides T :=
  ⟨hsliding, htimeout, every_empty options _⟩

namespace Slides

theorem clear (h : c.Slides T) : c.clear.Slides T :=
  slides_empty h.sliding h.timeout

theorem noteUse (h : c.Slides T) (now : Nat) (key : String) : (c.noteUse now key).Slides T where
  sliding := by rw [options_noteUse]; exact h.sliding
  timeout := by rw [options_noteUse]; exact h.timeout
  entries := h.entries.noteUse (fun _ htimeout => htimeout) key

theorem remove (h : c.Slides T) (key : String) : (c.remove key).2.Slides T where
  sliding := by rw [options_remove]; exact h.sliding
  timeout := by rw [options_remove]; exact h.timeout
  entries := h.entries.remove (fun _ htimeout => htimeout) key

theorem sweep (h : c.Slides T) (now : Nat) : (c.sweep now).2.Slides T where
  sliding := h.sliding
  timeout := h.timeout
  entries := by
    refine h.entries.sweep fun e e' htimeout hswept => ?_
    obtain ⟨state, rfl⟩ := Entry.of_swept hswept
    exact htimeout

/-- An insert without a timeout of its own takes the default one. -/
theorem put (h : c.Slides T) {key : String} {value : α} (hput : c.put now key value = .ok c') :
    c'.Slides T := by
  obtain ⟨rfl, -, -⟩ := insert_of_ok hput
  exact ⟨h.sliding, h.timeout, h.entries.withEntry h.timeout _ _⟩

theorem putRange (h : c.Slides T) (now : Nat) (key : α → String) (items : List α) :
    (c.putRange now (items.map fun a => (key a, a, {}))).1.Slides T := by
  induction items generalizing c with
  | nil => exact h
  | cons a rest ih =>
    rw [List.map_cons, Cache.putRange]
    cases hput : c.put now (key a) a with
    | error e => exact h
    | ok c' => exact ih (h.put hput)

end Slides

end Cache

/-! ### The directory -/

/-- The answers of the repository for an id are entities with that id. -/
def Repository.Keyed (p : Repository) : Prop :=
  ∀ kind id v, p.fetch kind id = .ok (some v) → kind.idOf v = id

theorem Registry.ServedBy.keyed {r : Registry} {p : Repository} (h : r.ServedBy p) : p.Keyed := by
  intro kind id v hfetch
  rw [h.fetch] at hfetch
  exact idOf_of_fetched (Except.ok.inj hfetch)

namespace Directory

variable {d d' : Directory} {now T since late : Nat} {kind kind' : EntityKind} {id id' : String}

/-- The entry of an id, also one that is removed. -/
def held? (d : Directory) (kind : EntityKind) (id : String) : Option (Entry kind.Entity) :=
  (d.cache kind).entries.get? id

theorem lookup_eq_held? (d : Directory) (kind : EntityKind) (id : String) :
    d.lookup kind id = (d.held? kind id).bind Entry.visible? :=
  (d.cache kind).peek?_eq id

theorem use_eq (d : Directory) (now : Nat) (kind : EntityKind) (id : String) :
    d.use now kind id = d.withCache kind ((d.cache kind).noteUse now id) := by
  cases kind <;> rfl

theorem remove_eq (d : Directory) (kind : EntityKind) (id : String) :
    (d.remove kind id).2 = d.withCache kind ((d.cache kind).remove id).2 := by
  cases kind <;> rfl

theorem cache_sweep (d : Directory) (now : Nat) (kind : EntityKind) :
    (d.sweep now).2.cache kind = ((d.cache kind).sweep now).2 := by
  cases kind <;> rfl

/-- Another cache for a kind shows in the entries of that kind only. -/
theorem held?_withCache (d : Directory) (c : Cache kind.Entity)
    (hsame : kind' = kind → c.entries.get? id' = (d.cache kind).entries.get? id') :
    (d.withCache kind c).held? kind' id' = d.held? kind' id' := by
  by_cases hkind : kind' = kind
  · subst hkind
    rw [held?, cache_withCache]
    exact hsame rfl
  · rw [held?, cache_withCache_of_ne d c hkind, held?]

/-- A use touches an entry or leaves it. -/
theorem held?_use (d : Directory) (now : Nat) (kind kind' : EntityKind) (id id' : String) :
    (d.use now kind id).held? kind' id' = d.held? kind' id' ∨
      (d.use now kind id).held? kind' id' = (d.held? kind' id').map (·.touch now) := by
  rw [use_eq]
  by_cases hkind : kind' = kind
  · subst hkind
    rw [held?, cache_withCache, Cache.get?_noteUse]
    split
    · exact .inr rfl
    · exact .inl rfl
  · exact .inl (d.held?_withCache _ fun heq => absurd heq hkind)

theorem held?_remove (d : Directory) (h : ¬ (kind' = kind ∧ id' = id)) :
    (d.remove kind id).2.held? kind' id' = d.held? kind' id' := by
  rw [remove_eq]
  refine d.held?_withCache _ fun hkind => ?_
  rw [Cache.get?_remove, if_neg fun hid => h ⟨hkind, hid⟩]

theorem held?_put {v : kind.Entity} (hput : d.put now kind v = .ok d')
    (h : ¬ (kind' = kind ∧ id' = kind.idOf v)) : d'.held? kind' id' = d.held? kind' id' := by
  rw [put_eq] at hput
  cases hcache : (d.cache kind).put now (kind.idOf v) v with
  | error e => rw [hcache] at hput; exact nomatch hput
  | ok c =>
    rw [hcache] at hput
    cases hput
    obtain ⟨timeout, size, total, rfl⟩ := Cache.insert_eq_withEntry hcache
    refine d.held?_withCache _ fun hkind => ?_
    rw [Cache.get?_withEntry, if_neg fun hid => h ⟨hkind, hid⟩]

theorem held?_syncAll (d : Directory) (sets : List SyncSet) :
    (d.syncAll sets).held? kind id = d.held? kind id := by
  induction sets generalizing d with
  | nil => rfl
  | cons set rest ih =>
    refine (ih (d.sync set).2).trans ?_
    cases kind <;> rfl

/-- A command changes no entry but the one that it is about. -/
theorem held?_apply {p : Repository} (hp : p.Keyed) {c : Command}
    (happly : d.apply now p c = .ok d') (h : ¬ c.Addresses (.entity kind id)) :
    d'.held? kind id = d.held? kind id := by
  rw [Command.Addresses, Command.Forgets] at h
  cases c with
  | add kind₀ id₀ =>
    have hother : ¬ (kind = kind₀ ∧ id = id₀) := by
      rintro ⟨rfl, rfl⟩
      exact h (.inl rfl)
    rw [apply_add_eq] at happly
    rcases hfetch : p.fetch kind₀ id₀ with e | _ | v
    · rw [hfetch] at happly
      cases happly
    · rw [hfetch] at happly
      cases happly
      exact d.held?_remove hother
    · rw [hfetch] at happly
      cases hput : d.put now kind₀ v with
      | error e => simp [settle, hput, Except.mapError] at happly
      | ok d₁ =>
        simp only [settle, hput, Except.mapError, Except.ok.injEq] at happly
        subst happly
        exact held?_put hput (hp kind₀ id₀ v hfetch ▸ hother)
  | flush kind₀ id₀ =>
    cases happly
    refine d.held?_remove fun hboth => h (.inr (.inl ?_))
    rw [hboth.1, hboth.2]
  | deleteAccount id₀ =>
    cases happly
    refine d.held?_remove fun hboth => h (.inr (.inr ⟨hboth.1, ?_⟩))
    rw [hboth.2]
  | addRoute route | removeRoute route =>
    cases happly
    cases kind <;> rfl
  | sync sets =>
    cases happly
    exact d.held?_syncAll sets

/-! ### Sliding expiration -/

/-- Every cache slides with the same default timeout. -/
def Slides (d : Directory) (T : Nat) : Prop :=
  ∀ kind, (d.cache kind).Slides T

theorem slides_empty {options : CacheOptions} (hsliding : options.sliding = true)
    (htimeout : options.timeout = some T) : (empty options).Slides T := by
  intro kind
  cases kind <;> exact Cache.slides_empty hsliding htimeout

namespace Slides

theorem withCache (h : d.Slides T) {c : Cache kind.Entity} (hc : c.Slides T) :
    (d.withCache kind c).Slides T := by
  intro kind'
  by_cases hkind : kind' = kind
  · subst hkind
    rwa [cache_withCache]
  · rw [cache_withCache_of_ne d c hkind]
    exact h kind'

theorem use (h : d.Slides T) (now : Nat) (kind : EntityKind) (id : String) :
    (d.use now kind id).Slides T := by
  rw [use_eq]
  exact h.withCache ((h kind).noteUse now id)

theorem used (h : d.Slides T) (hused : Used now d d') : d'.Slides T := by
  induction hused with
  | refl => exact h
  | use _ kind id ih => exact ih.use now kind id

theorem remove (h : d.Slides T) (kind : EntityKind) (id : String) :
    (d.remove kind id).2.Slides T := by
  rw [remove_eq]
  exact h.withCache ((h kind).remove id)

theorem sweep (h : d.Slides T) (now : Nat) : (d.sweep now).2.Slides T := by
  intro kind
  rw [cache_sweep]
  exact (h kind).sweep now

theorem put (h : d.Slides T) {v : kind.Entity} (hput : d.put now kind v = .ok d') :
    d'.Slides T := by
  rw [put_eq] at hput
  cases hcache : (d.cache kind).put now (kind.idOf v) v with
  | error e => rw [hcache] at hput; exact nomatch hput
  | ok c =>
    rw [hcache] at hput
    cases hput
    exact h.withCache ((h kind).put hcache)

theorem load (h : d.Slides T) (now : Nat) (kind : EntityKind) (items : List kind.Entity) :
    (d.load now kind items).1.Slides T := by
  rw [load_eq]
  exact h.withCache ((h kind).clear.putRange now kind.idOf items)

/-- The live data of a directory have no part in it. -/
theorem of_cache (h : d.Slides T) (hcache : ∀ kind, d'.cache kind = d.cache kind) :
    d'.Slides T := by
  intro kind
  rw [hcache]
  exact h kind

theorem syncAll (h : d.Slides T) (sets : List SyncSet) : (d.syncAll sets).Slides T := by
  induction sets generalizing d with
  | nil => exact h
  | cons set rest ih =>
    refine ih (h.of_cache fun kind => ?_)
    cases kind <;> rfl

theorem refresh (h : d.Slides T) (now : Nat) (p : Repository) (kinds : List EntityKind) :
    (d.refresh now p kinds).1.Slides T := by
  induction kinds generalizing d with
  | nil => exact h
  | cons kind rest ih =>
    rw [Directory.refresh]
    rcases p.listing kind with e | items
    · exact h
    · have hload := h.load now kind items
      simp only
      revert hload
      rcases d.load now kind items with ⟨d', e | count⟩ <;> intro hload
      · exact hload
      · exact ih hload

theorem reload (h : d.Slides T) (now : Nat) (p : Repository) : (d.reload now p).1.Slides T := by
  have hparts : (d.reload now p).1 = (d.reloadParts now p).1 :=
    congrArg Prod.fst (d.reload_eq_parts now p)
  rw [hparts, reloadParts]
  rcases p.liveHandlers with e | handlers
  · exact h
  have hset : (d.setHandlers handlers).Slides T := h.of_cache fun kind => by cases kind <;> rfl
  have hrefresh := hset.refresh now p [.account, .sensor, .apiKey]
  simp only
  revert hrefresh
  rcases (d.setHandlers handlers).refresh now p [.account, .sensor, .apiKey] with ⟨d', e | _⟩ <;>
    intro hrefresh
  · exact hrefresh
  rcases p.liveRoutes with e | routes
  · exact hrefresh
  · exact hrefresh.of_cache fun kind => by cases kind <;> rfl

theorem apply (h : d.Slides T) {p : Repository} {c : Command} (happly : d.apply now p c = .ok d') :
    d'.Slides T := by
  cases c with
  | add kind id =>
    rw [apply_add_eq] at happly
    rcases hfetch : p.fetch kind id with e | _ | v
    · rw [hfetch] at happly
      exact nomatch happly
    · rw [hfetch] at happly
      cases happly
      exact h.remove kind id
    · rw [hfetch] at happly
      cases hput : d.put now kind v with
      | error e => simp [settle, hput, Except.mapError] at happly
      | ok d₁ =>
        simp only [settle, hput, Except.mapError, Except.ok.injEq] at happly
        exact happly ▸ h.put hput
  | flush kind id =>
    cases happly
    exact h.remove kind id
  | deleteAccount id =>
    cases happly
    exact h.remove .account id
  | addRoute route | removeRoute route =>
    cases happly
    exact h.of_cache fun kind => by cases kind <;> rfl
  | sync sets =>
    cases happly
    exact h.syncAll sets

end Slides

/-! ### Entries that have been used -/

/-- The directory has had an entity since a use. -/
def Retains (d : Directory) (kind : EntityKind) (id : String) (v : kind.Entity)
    (T since late : Nat) : Prop :=
  ∃ e, d.held? kind id = some e ∧ e.Retains v T since late

namespace Retains

variable {v : kind.Entity}

theorem lookup (h : d.Retains kind id v T since late) : d.lookup kind id = some v := by
  obtain ⟨e, he, hretains⟩ := h
  have hseen : e.isRemoved = false := decide_eq_false hretains.kept
  rw [lookup_eq_held?, he, Option.bind_some, Entry.visible?, hseen, ← hretains.value]
  rfl

theorem of_held? (h : d.Retains kind id v T since late)
    (hsame : d'.held? kind id = d.held? kind id) : d'.Retains kind id v T since late := by
  obtain ⟨e, he, hretains⟩ := h
  exact ⟨e, hsame.trans he, hretains⟩

theorem use (h : d.Retains kind id v T since late) (hnow : since ≤ now) (kind' : EntityKind)
    (id' : String) : (d.use now kind' id').Retains kind id v T since late := by
  rcases d.held?_use now kind' kind id' id with hsame | htouch
  · exact h.of_held? hsame
  · obtain ⟨e, he, hretains⟩ := h
    rw [he] at htouch
    exact ⟨e.touch now, htouch, hretains.touch hnow⟩

theorem used (h : d.Retains kind id v T since late) (hnow : since ≤ now) (hused : Used now d d') :
    d'.Retains kind id v T since late := by
  induction hused with
  | refl => exact h
  | use _ kind' id' ih => exact ih.use hnow kind' id'

theorem sweep (h : d.Retains kind id v T since late) {count : Nat}
    (hcount : count = if since + T < now then 1 else 0) (hfew : late + count < 3) :
    (d.sweep now).2.Retains kind id v T since (late + count) := by
  obtain ⟨e, he, hretains⟩ := h
  obtain ⟨e', hswept, hlater⟩ := hretains.swept hcount hfew
  refine ⟨e', ?_, hlater⟩
  rw [held?, cache_sweep, Cache.get?_sweep]
  change (d.held? kind id).bind _ = _
  rw [he]
  exact hswept

end Retains

/-- A lookup that finds an entity renews it. -/
theorem retains_use (hd : d.Slides T) {v : kind.Entity} (hfound : d.lookup kind id = some v)
    (now : Nat) : (d.use now kind id).Retains kind id v T now 0 := by
  have hvisible : ((d.cache kind).peek? id).isSome := Option.isSome_of_mem hfound
  rw [lookup_eq_held?] at hfound
  obtain ⟨e, he, hseen⟩ := Option.bind_eq_some_iff.1 hfound
  have hkept : e.state ≠ .removed := by
    intro hremoved
    simp [Entry.visible?, Entry.isRemoved, hremoved] at hseen
  have hvalue : e.value = v := by
    simpa [Entry.visible?, Entry.isRemoved, hkept] using hseen
  refine ⟨e.touch now, ?_, hvalue ▸ Entry.retains_touch ((hd kind).entries id e he) hkept now⟩
  rw [use_eq, held?, cache_withCache, Cache.get?_noteUse, if_pos ⟨rfl, (hd kind).sliding, hvisible⟩]
  change (d.held? kind id).map _ = _
  rw [he]
  rfl

/-- Among the lookups at a time that lead from one directory to another is one of an id. -/
def Meets (now : Nat) (d : Directory) (kind : EntityKind) (id : String) (d' : Directory) : Prop :=
  ∃ between, Used now d between ∧ Used now (between.use now kind id) d'

theorem Meets.retains (hmeets : Meets now d kind id d') (hd : d.Slides T) {v : kind.Entity}
    (hfound : d.lookup kind id = some v) : d'.Retains kind id v T now 0 := by
  obtain ⟨between, hbefore, hafter⟩ := hmeets
  rw [← hbefore.lookup_eq] at hfound
  exact (retains_use (hd.used hbefore) hfound now).used (Nat.le_refl now) hafter

theorem Used.meets {between : Directory} (hused : Used now d between)
    (hmeets : Meets now between kind id d') : Meets now d kind id d' := by
  obtain ⟨later, hbefore, hafter⟩ := hmeets
  exact ⟨later, hused.trans hbefore, hafter⟩

/-- Keys that all pass have all been looked up. -/
theorem authorizeKeys_meets (now : Nat) (accountId : String) {keys : List String}
    (hpass : ∀ key ∈ keys, d.KeyPasses accountId key) :
    ∀ key ∈ keys, Meets now d .apiKey key (d.authorizeKeys now accountId keys).2 := by
  induction keys generalizing d with
  | nil => exact nofun
  | cons first rest ih =>
    obtain ⟨⟨k, hfound, hwrites⟩, hrest⟩ := List.forall_mem_cons.1 hpass
    have hstep : d.authorizeKeys now accountId (first :: rest) =
        (d.use now .apiKey first).authorizeKeys now accountId rest := by
      rw [authorizeKeys, findApiKey_eq, hfound]
      simp only [(k.authorize_eq_ok_iff accountId).2 hwrites]
    have hpassLater : ∀ key ∈ rest, (d.use now .apiKey first).KeyPasses accountId key := by
      intro key hkey
      exact (d.keyPasses_use ..).2 (hrest key hkey)
    rw [hstep]
    intro key hkey
    rcases List.mem_cons.1 hkey with rfl | hlater
    · exact ⟨d, .refl, authorizeKeys_used ..⟩
    · exact (Used.once d .apiKey first).meets (ih hpassLater key hlater)

/-- An authorization that succeeds has looked up the sensor, its account and the keys. -/
theorem Admits.meets {sensorId : String} {presented : Option String} {s : Sensor}
    (h : d.Admits sensorId presented s) (now : Nat) :
    Meets now d .sensor sensorId (d.authorize now sensorId presented).2 ∧
      Meets now d .account s.accountId (d.authorize now sensorId presented).2 ∧
      ∀ key ∈ checkedKeys s.secret presented,
        Meets now d .apiKey key (d.authorize now sensorId presented).2 := by
  obtain ⟨a, haccount, husable⟩ := h.account
  let known := d.use now .sensor sensorId
  let usable := known.use now .account s.accountId
  have hknown : Used now d known := .once ..
  have husedAccount : Used now d usable := hknown.use .account s.accountId
  have hstep : (d.authorize now sensorId presented).2 =
      (usable.authorizeKeys now s.accountId (checkedKeys s.secret presented)).2 := by
    rw [authorize, findSensor_eq, h.sensor]
    simp only
    rw [findAccount_eq, lookup_use, haccount]
    simp only [a.authorize_eq_ok_iff.2 husable]
    rfl
  have hkeys : ∀ key ∈ checkedKeys s.secret presented, usable.KeyPasses s.accountId key := by
    intro key hkey
    rw [keyPasses_use, keyPasses_use]
    exact (forall_checkedKeys (d.KeyPasses s.accountId) ..).2 ⟨h.secret, h.presented⟩ key hkey
  have hrest := usable.authorizeKeys_used now s.accountId (checkedKeys s.secret presented)
  rw [hstep]
  refine ⟨⟨d, .refl, ?_⟩, ⟨known, hknown, hrest⟩, fun key hkey => ?_⟩
  · exact (Used.once known .account s.accountId).trans hrest
  · exact husedAccount.meets (authorizeKeys_meets now s.accountId hkeys key hkey)

end Directory

end SensorRouter
