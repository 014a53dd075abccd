import SensorRouter.Proofs.Dict
import SensorRouter.Proofs.Expiry.Lifecycle

/-!
The running total of sizes. Inserts, removals and sweeps adjust it by differences, in 64 bits that
saturate. It stays the sum of the sizes of the entries that are not removed, at every moment of a
run, unless that sum leaves the 64 bits; below a capacity it cannot.
-/

namespace SensorRouter

variable {α : Type}

namespace Entry

/-- What an entry counts in the sum of sizes: nothing once it is removed. -/
def weight (e : Entry α) : Nat :=
  if e.isRemoved then 0 else e.size

theorem weight_new (value : α) (timeout : Option Nat) (size now : Nat) :
    (new value timeout size now).weight = size := rfl

theorem weight_touch (e : Entry α) (now : Nat) : (e.touch now).weight = e.weight := by
  by_cases hremoved : e.state = .removed <;> simp [weight, isRemoved, touch, hremoved]

theorem weight_remove (e : Entry α) : (e.advance .removed).weight = 0 := by
  obtain ⟨_, _, _, _, state, _⟩ := e
  cases state <;> rfl

/-- A sweep gives back the sizes of the entries that it drops, and no others. -/
theorem weight_swept (e : Entry α) (now : Nat) :
    ((e.swept now).map weight).getD 0 + e.freed now = e.weight := by
  unfold swept freed fate weight
  cases hstate : e.state <;> by_cases hidle : e.Idle now <;> simp [hidle, hstate, isRemoved]

end Entry

namespace Cache

/-- The sum of the sizes of all entries that are not removed. -/
def liveTotal (c : Cache α) : Nat :=
  (c.entries.values.map Entry.weight).sum

theorem liveSize_eq (c : Cache α) (key : String) :
    c.liveSize key = ((c.entries.get? key).map Entry.weight).getD 0 := by
  unfold liveSize
  cases c.entries.get? key <;> rfl

theorem liveSize_le (c : Cache α) (key : String) : c.liveSize key ≤ c.liveTotal := by
  rw [liveSize_eq]
  exact c.entries.le_sum_values Entry.weight key

/-! ### The sum after each operation -/

theorem liveTotal_withEntry (c : Cache α) (key : String) (e : Entry α) (total : Nat) :
    (c.withEntry key e total).liveTotal + c.liveSize key = c.liveTotal + e.weight := by
  rw [liveSize_eq]
  exact c.entries.sum_values_insert Entry.weight key e

theorem liveTotal_noteUse (c : Cache α) (now : Nat) (key : String) :
    (c.noteUse now key).liveTotal = c.liveTotal := by
  unfold noteUse
  cases hentry : c.entries.get? key with
  | none => rfl
  | some e =>
    simp only
    split
    · have hsum := c.liveTotal_withEntry key (e.touch now) c.size
      rw [liveSize_eq, hentry, Entry.weight_touch] at hsum
      exact Nat.add_right_cancel hsum
    · rfl

theorem liveTotal_remove (c : Cache α) (key : String) :
    (c.remove key).2.liveTotal + c.liveSize key = c.liveTotal := by
  rw [liveSize_eq]
  unfold remove
  cases hentry : c.entries.get? key with
  | none => rfl
  | some e =>
    simp only
    split
    · rename_i hremoved
      simp [Entry.weight, hremoved]
    · have hsum := c.liveTotal_withEntry key (e.advance .removed) (c.size - e.size)
      rw [liveSize_eq, hentry, Entry.weight_remove] at hsum
      exact hsum

theorem size_remove (c : Cache α) (key : String) :
    (c.remove key).2.size = c.size - c.liveSize key := by
  unfold remove liveSize
  cases c.entries.get? key with
  | none => rfl
  | some e =>
    simp only
    split <;> rfl

theorem liveTotal_sweep (c : Cache α) (now : Nat) :
    (c.sweep now).2.liveTotal + (c.entries.values.map fun e => e.freed now).sum = c.liveTotal := by
  have hkept : (c.sweep now).2.liveTotal =
      (c.entries.values.map fun e => ((e.swept now).map Entry.weight).getD 0).sum :=
    c.entries.sum_values_filterMap Entry.weight fun e : Entry α => e.swept now
  rw [hkept, ← List.sum_map_add]
  simp only [Entry.weight_swept]
  rfl

/-! ### The running total -/

/-- The running total is the sum, and is within 64 bits. -/
structure Accounted (c : Cache α) : Prop where
  total : c.size = c.liveTotal
  inRange : c.liveTotal ≤ greatestSize

theorem accounted_empty (options : CacheOptions) : (empty options : Cache α).Accounted :=
  ⟨rfl, Nat.zero_le _⟩

/-- After an insert the total is the sum as far as 64 bits go. -/
theorem Accounted.size_insert {c c' : Cache α} (h : c.Accounted) {now : Nat} {key : String}
    {value : α} {options : EntryOptions} {overwrite : Bool}
    (hinsert : c.insert now key value options overwrite = .ok c') :
    c'.size = min c'.liveTotal greatestSize := by
  obtain ⟨heq, -, -⟩ := insert_of_ok hinsert
  have hsize : c'.size = c.totalAfter (c.liveSize key) (options.size.getD 0) := by
    rw [heq]
    rfl
  have hsum : c'.liveTotal + c.liveSize key = c.liveTotal + options.size.getD 0 := by
    rw [heq]
    exact c.liveTotal_withEntry ..
  have hold := c.liveSize_le key
  rw [hsize, totalAfter, h.total]
  congr 1
  omega

/-- Below the greatest total a capacity is never passed, since a total that saturates is refused. -/
theorem Accounted.le_of_insert {c c' : Cache α} (h : c.Accounted) {capacity : Nat}
    (hoptions : c.options.capacity = some capacity) (hcapacity : capacity < greatestSize)
    {now : Nat} {key : String} {value : α} {options : EntryOptions} {overwrite : Bool}
    (hinsert : c.insert now key value options overwrite = .ok c') : c'.liveTotal ≤ capacity := by
  have hsize := h.size_insert hinsert
  obtain ⟨heq, -, hlimit⟩ := insert_of_ok hinsert
  have hnew : c'.size ≤ capacity := by
    rw [limit, hoptions, Option.getD_some] at hlimit
    rw [heq]
    exact hlimit
  omega

theorem Accounted.noteUse {c : Cache α} (h : c.Accounted) (now : Nat) (key : String) :
    (c.noteUse now key).Accounted := by
  have hsize : (c.noteUse now key).size = c.size := by
    unfold Cache.noteUse
    cases c.entries.get? key with
    | none => rfl
    | some e =>
      simp only
      split <;> rfl
  constructor
  · rw [hsize, liveTotal_noteUse, h.total]
  · rw [liveTotal_noteUse]
    exact h.inRange

theorem Accounted.remove {c : Cache α} (h : c.Accounted) (key : String) :
    (c.remove key).2.Accounted := by
  have hsum := c.liveTotal_remove key
  have htotal := h.total
  have hrange := h.inRange
  constructor
  · rw [size_remove]
    omega
  · omega

/-- What a sweep gives back is part of the sum, and so does not wrap around. -/
theorem Accounted.sweep {c : Cache α} (h : c.Accounted) (now : Nat) :
    (c.sweep now).2.Accounted := by
  have hsum := c.liveTotal_sweep now
  have htotal := h.total
  have hrange := h.inRange
  constructor
  · change c.size - (c.entries.values.map fun e => e.freed now).sum % (greatestSize + 1) = _
    rw [Nat.mod_eq_of_lt (by omega)]
    omega
  · omega

/-! ### Runs -/

/-- The cache after an operation, which takes place at a time on the clock. -/
def after (c : Cache α) (now : Nat) (op : CacheOperation α) : Cache α :=
  ((⟨c, now⟩ : TimedCache α).step op).cache

theorem noteUse_of_peek?_eq_none {c : Cache α} {key : String} (h : c.peek? key = none) (now : Nat) :
    c.noteUse now key = c := by
  unfold peek? at h
  unfold noteUse
  cases hentry : c.entries.get? key with
  | none => rfl
  | some e =>
    rw [hentry] at h
    have hremoved : e.isRemoved = true := by simpa using h
    simp [hremoved]

theorem after_get (c : Cache α) (now : Nat) (key : String) :
    c.after now (.get key) = c.noteUse now key := by
  change ((c.get now key).map (·.2)).toOption.getD c = _
  cases hpeek : c.peek? key with
  | none =>
    rw [noteUse_of_peek?_eq_none hpeek, get, hpeek]
    rfl
  | some value =>
    rw [get, hpeek]
    rfl

/-- The states that a range leads through, one for each item put. -/
def putStates (c : Cache α) (now : Nat) : List (String × α × EntryOptions) → List (Cache α)
  | [] => []
  | (key, value, options) :: rest =>
    match c.put now key value options with
    | .error _ => []
    | .ok c => c :: c.putStates now rest

/-- The states that an operation leads through. -/
def moments (c : Cache α) (now : Nat) : CacheOperation α → List (Cache α)
  | .putRange items => c.putStates now items
  | op => [c.after now op]

/-- All states of a run. Each operation comes with the time that the clock shows then. -/
def history (c : Cache α) : List (Nat × CacheOperation α) → List (Cache α)
  | [] => [c]
  | (now, op) :: rest => c :: (c.moments now op ++ (c.after now op).history rest)

/-- A property is kept by all that operations do, by inserts only if what they lead to passes a
guard. -/
structure Kept (guard kept : Cache α → Prop) : Prop where
  insert : ∀ {c c' : Cache α} {now : Nat} {key : String} {value : α} {options : EntryOptions}
    {overwrite : Bool}, kept c → c.insert now key value options overwrite = .ok c' → guard c' →
      kept c'
  noteUse : ∀ {c : Cache α} (now : Nat) (key : String), kept c → kept (c.noteUse now key)
  remove : ∀ {c : Cache α} (key : String), kept c → kept (c.remove key).2
  sweep : ∀ {c : Cache α} (now : Nat), kept c → kept (c.sweep now).2
  clear : ∀ {c : Cache α}, kept c → kept c.clear

section

variable {guard kept : Cache α → Prop} (hkept : Kept guard kept)

include hkept

theorem Kept.putRange {c : Cache α} (hc : kept c) (now : Nat)
    (items : List (String × α × EntryOptions)) (hguard : ∀ s ∈ c.putStates now items, guard s) :
    kept (c.putRange now items).1 ∧ ∀ s ∈ c.putStates now items, kept s := by
  induction items generalizing c with
  | nil => exact ⟨hc, by simp [putStates]⟩
  | cons item rest ih =>
    obtain ⟨key, value, options⟩ := item
    rw [putStates] at hguard
    rw [Cache.putRange, putStates]
    cases hput : c.put now key value options with
    | error e => exact ⟨hc, by simp⟩
    | ok c' =>
      rw [hput] at hguard
      obtain ⟨hfirst, hrest⟩ := List.forall_mem_cons.1 hguard
      have hc' : kept c' := hkept.insert hc hput hfirst
      obtain ⟨hlast, hstates⟩ := ih hc' hrest
      exact ⟨hlast, List.forall_mem_cons.2 ⟨hc', hstates⟩⟩

theorem Kept.insert_getD {c : Cache α} (hc : kept c) {now : Nat} {key : String} {value : α}
    {options : EntryOptions} {overwrite : Bool}
    (hguard : guard ((c.insert now key value options overwrite).toOption.getD c)) :
    kept ((c.insert now key value options overwrite).toOption.getD c) := by
  cases hinsert : c.insert now key value options overwrite with
  | error e => exact hc
  | ok c' =>
    rw [hinsert] at hguard
    exact hkept.insert hc hinsert hguard

/-- One operation keeps the property at every state that it leads through. -/
theorem Kept.step {c : Cache α} (hc : kept c) (now : Nat) (op : CacheOperation α)
    (hguard : ∀ s ∈ c.moments now op, guard s) :
    kept (c.after now op) ∧ ∀ s ∈ c.moments now op, kept s := by
  cases op with
  | putRange items => exact hkept.putRange hc now items hguard
  | put key value options | add key value options =>
    have hafter := hkept.insert_getD hc (List.forall_mem_singleton.1 hguard)
    exact ⟨hafter, List.forall_mem_singleton.2 hafter⟩
  | get key =>
    have hafter : kept (c.after now (.get key)) := c.after_get now key ▸ hkept.noteUse now key hc
    exact ⟨hafter, List.forall_mem_singleton.2 hafter⟩
  | remove key => exact ⟨hkept.remove key hc, List.forall_mem_singleton.2 (hkept.remove key hc)⟩
  | sweep => exact ⟨hkept.sweep now hc, List.forall_mem_singleton.2 (hkept.sweep now hc)⟩
  | clear => exact ⟨hkept.clear hc, List.forall_mem_singleton.2 (hkept.clear hc)⟩
  | contains | state | length | isEmpty | size | wait => exact ⟨hc, List.forall_mem_singleton.2 hc⟩

/-- A run keeps the property in all its states. -/
theorem Kept.history {c : Cache α} (hc : kept c) (ops : List (Nat × CacheOperation α))
    (hguard : ∀ s ∈ c.history ops, guard s) : ∀ s ∈ c.history ops, kept s := by
  induction ops generalizing c with
  | nil => exact List.forall_mem_singleton.2 hc
  | cons first rest ih =>
    obtain ⟨now, op⟩ := first
    rw [Cache.history, List.forall_mem_cons, List.forall_mem_append] at hguard
    obtain ⟨hafter, hmoments⟩ := hkept.step hc now op hguard.2.1
    rw [Cache.history, List.forall_mem_cons, List.forall_mem_append]
    exact ⟨hc, hmoments, ih hafter hguard.2.2⟩

end

/-- While the sum is within 64 bits, the total is accounted for. -/
theorem kept_accounted :
    Kept (fun c : Cache α => c.liveTotal ≤ greatestSize) Accounted where
  insert hc hinsert hguard := ⟨(hc.size_insert hinsert).trans (min_eq_left hguard), hguard⟩
  noteUse now key hc := hc.noteUse now key
  remove key hc := hc.remove key
  sweep now hc := hc.sweep now
  clear _ := accounted_empty _

/-! ### Properties of entries -/

/-- A property holds of every entry, also of those that are removed. -/
def Every (c : Cache α) (p : Entry α → Prop) : Prop :=
  ∀ key e, c.entries.get? key = some e → p e

theorem every_empty (options : CacheOptions) (p : Entry α → Prop) :
    (empty options : Cache α).Every p :=
  fun _ _ he => nomatch he

section

variable {c : Cache α} {p : Entry α → Prop}

theorem Every.withEntry (h : c.Every p) {e : Entry α} (he : p e) (key : String) (total : Nat) :
    (c.withEntry key e total).Every p := by
  intro k e' he'
  rw [get?_withEntry] at he'
  split at he'
  · exact Option.some.inj he' ▸ he
  · exact h k e' he'

theorem Every.noteUse (h : c.Every p) {now : Nat} (htouch : ∀ e, p e → p (e.touch now))
    (key : String) : (c.noteUse now key).Every p := by
  intro k e he
  rw [get?_noteUse] at he
  split at he
  · obtain ⟨e₀, he₀, rfl⟩ := Option.map_eq_some_iff.1 he
    exact htouch e₀ (h k e₀ he₀)
  · exact h k e he

theorem Every.remove (h : c.Every p) (hremove : ∀ e, p e → p (e.advance .removed))
    (key : String) : (c.remove key).2.Every p := by
  intro k e he
  rw [get?_remove] at he
  split at he
  · obtain ⟨e₀, he₀, rfl⟩ := Option.map_eq_some_iff.1 he
    exact hremove e₀ (h k e₀ he₀)
  · exact h k e he

theorem Every.sweep (h : c.Every p) {now : Nat}
    (hsweep : ∀ e e', p e → e.swept now = some e' → p e') : (c.sweep now).2.Every p := by
  intro k e he
  rw [get?_sweep] at he
  obtain ⟨e₀, he₀, hswept⟩ := Option.bind_eq_some_iff.1 he
  exact hsweep e₀ e (h k e₀ he₀) hswept

end

/-! ### Capacities -/

end Cache

namespace Entry

/-- An entry that a sweep does not drop keeps all but its state. -/
theorem of_swept {e e' : Entry α} {now : Nat} (h : e.swept now = some e') :
    ∃ state, e' = { e with state } := by
  unfold swept at h
  split at h <;> cases h <;> exact ⟨_, rfl⟩

/-- Unless it is removed, the entry has a size. -/
def Sized (e : Entry α) : Prop :=
  e.state ≠ .removed → 0 < e.size

theorem Sized.touch {e : Entry α} (h : e.Sized) (now : Nat) : (e.touch now).Sized := by
  intro hseen
  refine h fun hremoved => hseen ?_
  simp [Entry.touch, hremoved]

theorem sized_remove (e : Entry α) : (e.advance .removed).Sized :=
  fun hseen => absurd e.state_advance_removed hseen

theorem Sized.swept {e e' : Entry α} (h : e.Sized) {now : Nat} (hswept : e.swept now = some e') :
    e'.Sized := by
  intro _
  have hlive : e.state ≠ .removed := by
    intro hremoved
    rw [swept_of_removed hremoved] at hswept
    exact nomatch hswept
  obtain ⟨_, rfl⟩ := of_swept hswept
  exact h hlive

end Entry

namespace Cache

/-- The cache has a capacity, which bounds the total, and its entries have sizes. -/
structure WithinCapacity (c : Cache α) (capacity : Nat) : Prop extends c.Accounted where
  options : c.options.capacity = some capacity
  bounded : c.liveTotal ≤ capacity
  sized : c.Every Entry.Sized

theorem withinCapacity_empty {options : CacheOptions} {capacity : Nat}
    (h : options.capacity = some capacity) : (empty options : Cache α).WithinCapacity capacity where
  toAccounted := accounted_empty options
  options := h
  bounded := Nat.zero_le _
  sized := every_empty options _

theorem WithinCapacity.insert {c c' : Cache α} {capacity : Nat} (h : c.WithinCapacity capacity)
    (hcapacity : capacity < greatestSize) {now : Nat} {key : String} {value : α}
    {options : EntryOptions} {overwrite : Bool}
    (hinsert : c.insert now key value options overwrite = .ok c') : c'.WithinCapacity capacity := by
  have hbounded := h.le_of_insert h.options hcapacity hinsert
  obtain ⟨heq, hpositive, -⟩ := insert_of_ok hinsert
  have hrange : c'.liveTotal ≤ greatestSize := by omega
  refine ⟨⟨(h.size_insert hinsert).trans (min_eq_left hrange), hrange⟩, ?_, hbounded, ?_⟩
  · rw [heq]
    exact h.options
  · rw [heq]
    refine h.sized.withEntry ?_ key _
    exact fun _ => hpositive (by rw [h.options]; rfl)

theorem kept_withinCapacity {capacity : Nat} (hcapacity : capacity < greatestSize) :
    Kept (fun _ : Cache α => True) (WithinCapacity · capacity) where
  insert hc hinsert _ := hc.insert hcapacity hinsert
  noteUse {c} now key hc := {
    toAccounted := hc.toAccounted.noteUse now key
    options := by rw [options_noteUse, hc.options]
    bounded := by rw [liveTotal_noteUse]; exact hc.bounded
    sized := hc.sized.noteUse (fun _ he => he.touch now) key }
  remove {c} key hc := {
    toAccounted := hc.toAccounted.remove key
    options := by rw [options_remove, hc.options]
    bounded := (Nat.le_of_add_right_le (c.liveTotal_remove key).le).trans hc.bounded
    sized := hc.sized.remove (fun e _ => e.sized_remove) key }
  sweep {c} now hc := {
    toAccounted := hc.toAccounted.sweep now
    options := hc.options
    bounded := (Nat.le_of_add_right_le (c.liveTotal_sweep now).le).trans hc.bounded
    sized := hc.sized.sweep fun _ _ he hswept => he.swept hswept }
  clear hc := withinCapacity_empty hc.options

/-- In every state of a run from an empty cache the running total is the sum of the sizes of the
entries that are not removed. A capacity, below the greatest total, bounds the sum, and all these
entries have sizes; without a capacity the sum must stay within 64 bits throughout the run. -/
theorem history_accounted (options : CacheOptions) (ops : List (Nat × CacheOperation α)) :
    (∀ capacity, options.capacity = some capacity → capacity < greatestSize →
      ∀ c ∈ (empty options : Cache α).history ops,
        c.size = c.liveTotal ∧ c.liveTotal ≤ capacity ∧
          ∀ key e, c.entries.get? key = some e → e.state ≠ .removed → 0 < e.size) ∧
      (options.capacity = none →
        (∀ c ∈ (empty options : Cache α).history ops, c.liveTotal ≤ greatestSize) →
          ∀ c ∈ (empty options : Cache α).history ops, c.size = c.liveTotal) := by
  constructor
  · intro capacity hoptions hcapacity c hc
    have hwithin := (kept_withinCapacity hcapacity).history (withinCapacity_empty hoptions) ops
      (fun _ _ => trivial) c hc
    exact ⟨hwithin.total, hwithin.bounded, hwithin.sized⟩
  · intro _ hfits c hc
    exact (kept_accounted.history (accounted_empty options) ops hfits c hc).total

/-- A run with an overwrite, a refused range, a removal and an expiry, bounded and unbounded. -/
theorem history_accounted_mixed :
    let ops : List (Nat × CacheOperation Unit) := [
      (0, .put "a" () { size := some 4 }), (1, .put "a" () { size := some 3, timeout := some 2 }),
      (2, .putRange [("b", (), { size := some 6 }), ("c", (), { size := some 9 })]),
      (3, .remove "b"), (4, .sweep), (9, .sweep), (9, .sweep), (9, .sweep)]
    let bounded : CacheOptions := { capacity := some 10 }
    (10 < greatestSize ∧ ∀ c ∈ (empty bounded : Cache Unit).history ops,
      c.size = c.liveTotal ∧ c.liveTotal ≤ 10 ∧
        ∀ key e, c.entries.get? key = some e → e.state ≠ .removed → 0 < e.size) ∧
      (∀ c ∈ (empty {} : Cache Unit).history ops, c.liveTotal ≤ greatestSize) ∧
        ∀ c ∈ (empty {} : Cache Unit).history ops, c.size = c.liveTotal := by
  intro ops bounded
  have hcapacity : 10 < greatestSize := by decide
  have hfits : ∀ c ∈ (empty {} : Cache Unit).history ops, c.liveTotal ≤ greatestSize := by
    decide +kernel
  exact ⟨⟨hcapacity, (history_accounted bounded ops).1 10 rfl hcapacity⟩, hfits,
    (history_accounted {} ops).2 rfl hfits⟩

-- why the sum must stay in range in the middle of a range too
example :
    let c := (putRange (empty {}) 0 [("a", (), { size := some greatestSize }),
      ("b", (), { size := some 5 }), ("a", (), {})]).1
    c.liveTotal = 5 ∧ c.size = 0 := by decide +kernel

end Cache

end SensorRouter
