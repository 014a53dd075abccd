import SensorRouter.Proofs.Expiry.Run

/-!
The lifecycle of entries over whole runs. An entry that is on its way out is idle, and an idle entry
is dropped by the third sweep that finds it so, unless an insert or a sliding lookup intervenes. The
last theorem collects what holds at the end of every run from an empty cache.
-/

namespace SensorRouter

variable {α : Type}

/-- How many sweeps have moved an entry to where it is on its way out. -/
def EntryState.sweepsPast : EntryState → Nat
  | .active | .removed => 0
  | .expired => 1
  | .scheduled => 2

namespace Entry

theorem Idle.mono {e : Entry α} {now now' : Nat} (h : e.Idle now) (hle : now ≤ now') :
    e.Idle now' := by
  obtain ⟨t, ht, hidle⟩ := h
  exact ⟨t, ht, by omega⟩

/-- An entry one step further on its way out. -/
def waned (e : Entry α) : Option (Entry α) :=
  match e.state with
  | .active => some { e with state := .expired }
  | .expired => some { e with state := .scheduled }
  | .scheduled | .removed => none

/-- On its way out, but not removed on request. -/
def IsWaning (e : Entry α) : Prop :=
  e.state = .expired ∨ e.state = .scheduled

theorem swept_of_idle {e : Entry α} {now : Nat} (h : e.Idle now) : e.swept now = e.waned := by
  unfold swept fate waned
  cases e.state <;> simp [h]

theorem swept_of_active {e : Entry α} {now : Nat} (hstate : e.state = .active) (h : ¬ e.Idle now) :
    e.swept now = some e := by
  simp [swept, fate, hstate, h]

theorem swept_of_removed {e : Entry α} {now : Nat} (hstate : e.state = .removed) :
    e.swept now = none := by
  simp [swept, fate, hstate]

/-- A sweep moves an entry one step further or leaves it, if all that are on their way out are
idle. -/
theorem swept_cases {e : Entry α} {now : Nat} (hwaning : e.IsWaning → e.Idle now) :
    e.Idle now ∧ e.swept now = e.waned ∨
      e.state = .active ∧ e.swept now = some e ∨
      e.state = .removed ∧ e.swept now = none := by
  by_cases hidle : e.Idle now
  · exact .inl ⟨hidle, swept_of_idle hidle⟩
  · cases hstate : e.state with
    | active => exact .inr (.inl ⟨rfl, swept_of_active hstate hidle⟩)
    | removed => exact .inr (.inr ⟨rfl, swept_of_removed hstate⟩)
    | expired => exact absurd (hwaning (.inl hstate)) hidle
    | scheduled => exact absurd (hwaning (.inr hstate)) hidle

theorem waned_eq_some {e e' : Entry α} (h : e.waned = some e') :
    e.state = .active ∧ e' = { e with state := .expired } ∨
      e.state = .expired ∧ e' = { e with state := .scheduled } := by
  unfold waned at h
  cases hstate : e.state <;> simp only [hstate, Option.some.injEq, reduceCtorEq] at h
  · exact .inl ⟨rfl, h.symm⟩
  · exact .inr ⟨rfl, h.symm⟩

theorem idle_of_waned {e e' : Entry α} {now : Nat} (hidle : e.Idle now) (h : e.waned = some e') :
    e'.Idle now := by
  rcases waned_eq_some h with ⟨-, rfl⟩ | ⟨-, rfl⟩ <;> exact hidle

theorem state_advance_removed (e : Entry α) : (e.advance .removed).state = .removed := by
  unfold advance EntryState.later
  cases e.state <;> rfl

end Entry

namespace TimedCache

/-! ### Entries on their way out -/

/-- Every entry that is on its way out is idle. -/
def WaningIdle (x : TimedCache α) : Prop :=
  ∀ key e, x.held? key = some e → e.IsWaning → e.Idle x.now

variable {x start : TimedCache α} {op : CacheOperation α} {ops later : List (CacheOperation α)}
  {key : String} {e e' : Entry α}

/-- What has happened to an entry that is there before and after a step. -/
inductive Progress (x : TimedCache α) (op : CacheOperation α) (key : String) (e e' : Entry α) : Prop
  | inserted (h : x.Inserts op key) (hactive : e'.state = .active)
  | used (h : x.Uses op key) (hseen : e.state ≠ .removed) (hactive : e'.state = .active)
  | removed (h : op = .remove key) (heq : e' = e.advance .removed)
  | waned (h : op = .sweep) (hidle : e.Idle x.now) (hwaned : e.waned = some e')
  | spared (h : op = .sweep) (hactive : e.state = .active) (heq : e' = e)
  | kept (hinserts : ¬ x.Inserts op key) (huses : ¬ x.Uses op key) (hsweep : op ≠ .sweep)
      (heq : e' = e)

theorem WaningIdle.progress (hx : x.WaningIdle) (he : x.held? key = some e)
    (he' : (x.step op).held? key = some e') : Progress x op key e e' := by
  have hchange := x.step_change op key
  generalize (x.step op).held? key = after at hchange he'
  cases hchange with
  | inserted h value timeout size =>
    cases he'
    exact .inserted h rfl
  | used h hbefore hseen =>
    cases he'
    cases he.symm.trans hbefore
    exact .used h hseen (by simp [Entry.touch, hseen])
  | removed h =>
    rw [he] at he'
    cases he'
    exact .removed h rfl
  | swept h =>
    rw [he, Option.bind_some] at he'
    rcases Entry.swept_cases (hx key e he) with ⟨hidle, hwaned⟩ | ⟨hactive, hsame⟩ | ⟨-, hnone⟩
    · exact .waned h hidle (hwaned.symm.trans he')
    · exact .spared h hactive (Option.some.inj (he'.symm.trans hsame))
    · cases he'.symm.trans hnone
  | cleared h => cases he'
  | kept hinserts huses hremove hsweep hclear =>
    exact .kept hinserts huses hsweep (Option.some.inj (he'.symm.trans he))

/-- An entry that a step brings about where there was none is inserted and active. -/
theorem inserts_of_step_none (hnone : x.held? key = none)
    (he' : (x.step op).held? key = some e') : x.Inserts op key ∧ e'.state = .active := by
  have hchange := x.step_change op key
  generalize (x.step op).held? key = after at hchange he'
  cases hchange with
  | inserted h value timeout size =>
    cases he'
    exact ⟨h, rfl⟩
  | used _ hbefore => exact nomatch hnone.symm.trans hbefore
  | removed | swept => rw [hnone] at he'; exact nomatch he'
  | cleared => exact nomatch he'
  | kept => exact nomatch hnone.symm.trans he'

theorem WaningIdle.step (hx : x.WaningIdle) (op : CacheOperation α) : (x.step op).WaningIdle := by
  intro key e' he' hwaning
  have hlater := x.le_now_step op
  have hnotActive : e'.state ≠ .active := by
    rcases hwaning with h | h <;> simp [h]
  cases hbefore : x.held? key with
  | none => exact absurd (inserts_of_step_none hbefore he').2 hnotActive
  | some e =>
    cases hx.progress hbefore he' with
    | inserted _ hactive => exact absurd hactive hnotActive
    | used _ _ hactive => exact absurd hactive hnotActive
    | removed _ heq =>
      subst heq
      rcases hwaning with h | h <;> exact nomatch e.state_advance_removed.symm.trans h
    | waned _ hidle hwaned => exact (Entry.idle_of_waned hidle hwaned).mono hlater
    | spared _ hactive heq => exact absurd (heq ▸ hactive) hnotActive
    | kept _ _ _ heq =>
      subst heq
      exact (hx key e' hbefore hwaning).mono hlater

/-- The last sweeps of a run, `n` of them, found the entry of a key idle, and no insert under the key
and no use of it came after the first of them. -/
def IdleSweeps (start : TimedCache α) (key : String) : Nat → List (CacheOperation α) → Prop
  | 0, _ => True
  | n + 1, ops => ∃ before after, ops = before ++ .sweep :: after ∧
      CacheOperation.sweeps after = 0 ∧
      ((start.run before).step .sweep).Never (fun x op => x.Inserts op key ∨ x.Uses op key) after ∧
      (∃ e, (start.run before).held? key = some e ∧ e.Idle (start.run before).now) ∧
      start.IdleSweeps key n before

/-- The history of an idle entry grows by a sweep. -/
theorem IdleSweeps.sweep {n : Nat} (h : start.IdleSweeps key n ops)
    (he : (start.run ops).held? key = some e) (hidle : e.Idle (start.run ops).now) :
    start.IdleSweeps key (n + 1) (ops ++ [.sweep]) :=
  ⟨ops, [], rfl, rfl, trivial, ⟨e, he, hidle⟩, h⟩

/-- Under the key there is at most an entry that is removed. -/
def Forgotten (x : TimedCache α) (key : String) : Prop :=
  ∀ e, x.held? key = some e → e.state = .removed

theorem Forgotten.peek? (h : x.Forgotten key) : x.cache.peek? key = none := by
  rw [Cache.peek?_eq, ← held?]
  cases he : x.held? key with
  | none => rfl
  | some e => simp [Entry.visible?, Entry.isRemoved, h e he]

theorem Forgotten.step (hx : x.WaningIdle) (h : x.Forgotten key) (hinserts : ¬ x.Inserts op key) :
    (x.step op).Forgotten key := by
  intro e' he'
  cases he : x.held? key with
  | none => exact absurd (inserts_of_step_none he he').1 hinserts
  | some e =>
    have hremoved := h e he
    cases hx.progress he he' with
    | inserted h => exact absurd h hinserts
    | used _ hseen => exact absurd hremoved hseen
    | removed _ heq => exact heq ▸ e.state_advance_removed
    | waned _ _ hwaned =>
      rw [Entry.waned, hremoved] at hwaned
      exact nomatch hwaned
    | spared _ _ heq => exact heq ▸ hremoved
    | kept _ _ _ heq => exact heq ▸ hremoved

theorem Forgotten.sweep (h : x.Forgotten key) : (x.step .sweep).held? key = none := by
  rw [held?_sweep, Option.bind_eq_none_iff]
  exact fun e he => Entry.swept_of_removed (h e he)

theorem held?_run_of_none (hnone : x.held? key = none)
    (hnever : x.Never (fun x op => x.Inserts op key) later) : (x.run later).held? key = none := by
  induction later generalizing x with
  | nil => exact hnone
  | cons op rest ih =>
    refine ih (Option.eq_none_iff_forall_not_mem.2 fun e' he' => ?_) hnever.2
    exact hnever.1 (inserts_of_step_none hnone he').1

/-- What was removed on request cannot be read, and the next sweep drops it, unless an insert under
the key comes first. -/
theorem Forgotten.run (hx : x.WaningIdle) (h : x.Forgotten key)
    (hnever : x.Never (fun x op => x.Inserts op key) later) :
    (x.run later).cache.peek? key = none ∧
      (1 ≤ CacheOperation.sweeps later → (x.run later).held? key = none) := by
  induction later generalizing x with
  | nil => exact ⟨h.peek?, fun hsweeps => absurd hsweeps (Nat.not_succ_le_zero 0)⟩
  | cons op rest ih =>
    obtain ⟨hpeek, hswept⟩ := ih (hx.step op) (h.step hx hnever.1) hnever.2
    refine ⟨hpeek, fun hsweeps => ?_⟩
    by_cases hop : op = .sweep
    · subst hop
      have hrest := held?_run_of_none h.sweep hnever.2
      exact hrest
    · refine hswept ?_
      rwa [CacheOperation.sweeps, List.countP_cons, CacheOperation.isSweep_eq_false hop] at hsweeps

/-! ### Counts of a sweep -/

example :
    let x := (empty { timeout := some 5 } 0).run [.put "k" () {}, .wait 6, .sweep, .sweep]
    x.cache.peek? "k" = some () ∧ ((x.step .sweep).held? "k").isNone := by decide

end TimedCache

end SensorRouter
