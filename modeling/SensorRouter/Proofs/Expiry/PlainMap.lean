import SensorRouter.Proofs.Expiry.Accounting

/-!
Without timeouts a cache is a map with a limit on the sum of sizes. An entry that was removed stays
in the cache until a sweep meets it, but operations answer as if it were gone at once. So their
answers do not tell when sweeps took place, or how many there were.
-/

namespace SensorRouter

variable {α : Type}

/-- What an operation on a cache returns. -/
inductive CacheAnswer (α : Type) where
  | stored (result : Except CacheError Unit)
  | storedAll (result : Except CacheError Nat)
  | found (result : Except CacheError α)
  | flag (value : Bool)
  | number (value : Nat)
  | cleared
  deriving DecidableEq

namespace CacheOperation

/-- The operation is one that maps have too: neither a sweep, nor a wait, nor a look at a state. -/
def isPlain : CacheOperation α → Bool
  | .state _ | .sweep | .wait _ => false
  | _ => true

/-- No item inserted has a timeout. -/
def Untimed : CacheOperation α → Prop
  | .put _ _ options | .add _ _ options => options.timeout = none
  | .putRange items => ∀ item ∈ items, item.2.2.timeout = none
  | _ => True

instance (op : CacheOperation α) : Decidable op.Untimed :=
  match op with
  | .put _ _ options | .add _ _ options => inferInstanceAs (Decidable (options.timeout = none))
  | .putRange items => inferInstanceAs (Decidable (∀ item ∈ items, item.2.2.timeout = none))
  | .get _ | .contains _ | .state _ | .length | .isEmpty | .size | .remove _ | .sweep | .clear
  | .wait _ => isTrue trivial

/-- The operations of a run that maps have too. -/
def plainPart (ops : List (Nat × CacheOperation α)) : List (CacheOperation α) :=
  (ops.map (·.2)).filter isPlain

end CacheOperation

/-! ### Maps with sizes -/

/-- A map in which every value has a size, and perhaps a limit on the sum of sizes. -/
structure SizedMap (α : Type) where
  capacity : Option Nat
  items : Dict (α × Nat)

namespace SizedMap

def empty (capacity : Option Nat) : SizedMap α :=
  ⟨capacity, ∅⟩

/-- The sum of sizes. -/
def total (m : SizedMap α) : Nat :=
  (m.items.values.map (·.2)).sum

/-- The map with a value under a key, whatever its size. -/
def set (m : SizedMap α) (key : String) (value : α) (size : Nat) : SizedMap α :=
  { m with items := m.items.insert key (value, size) }

@[simp]
theorem capacity_set (m : SizedMap α) (key : String) (value : α) (size : Nat) :
    (m.set key value size).capacity = m.capacity := rfl

/-- Accepts a map that is within its capacity. A sum that is refused is reported in 64 bits. -/
def accept (m : SizedMap α) : Except CacheError (SizedMap α) :=
  match m.capacity with
  | none => .ok m
  | some capacity =>
    if capacity < m.total then
      .error (.capacityExceeded capacity (min m.total Cache.greatestSize))
    else .ok m

/-- Inserts a value. With a capacity it must have a size. -/
def insert (m : SizedMap α) (key : String) (value : α) (size? : Option Nat) (overwrite : Bool) :
    Except CacheError (SizedMap α) :=
  if m.capacity.isSome ∧ size?.getD 0 = 0 then .error .sizeRequired
  else if overwrite = false ∧ m.items.contains key then .error .keyExists
  else (m.set key value (size?.getD 0)).accept

/-- Inserts items in order up to the first that fails. -/
def putRange (m : SizedMap α) :
    List (String × α × EntryOptions) → SizedMap α × Except CacheError Nat
  | [] => (m, .ok 0)
  | (key, value, options) :: rest =>
    match m.insert key value options.size true with
    | .error e => (m, .error e)
    | .ok m => ((m.putRange rest).1, (m.putRange rest).2.map (· + 1))

def find (m : SizedMap α) (key : String) : Except CacheError α :=
  match m.items.get? key with
  | some item => .ok item.1
  | none => .error .notFound

/-- The map after an operation. -/
def after (m : SizedMap α) : CacheOperation α → SizedMap α
  | .put key value options => (m.insert key value options.size true).toOption.getD m
  | .add key value options => (m.insert key value options.size false).toOption.getD m
  | .putRange items => (m.putRange items).1
  | .remove key => { m with items := m.items.erase key }
  | .clear => empty m.capacity
  | _ => m

/-- What an operation returns. -/
def answer? (m : SizedMap α) : CacheOperation α → Option (CacheAnswer α)
  | .put key value options =>
    some (.stored ((m.insert key value options.size true).map fun _ => ()))
  | .add key value options =>
    some (.stored ((m.insert key value options.size false).map fun _ => ()))
  | .putRange items => some (.storedAll (m.putRange items).2)
  | .get key => some (.found (m.find key))
  | .contains key | .remove key => some (.flag (m.items.contains key))
  | .length => some (.number m.items.size)
  | .isEmpty => some (.flag m.items.isEmpty)
  | .size => some (.number m.total)
  | .clear => some .cleared
  | .state _ | .sweep | .wait _ => none

/-- What the operations of a run return. -/
def answers (m : SizedMap α) : List (CacheOperation α) → List (CacheAnswer α)
  | [] => []
  | op :: rest => (m.answer? op).toList ++ (m.after op).answers rest

/-- The maps that a range leads through, one for each item put. -/
def putStates (m : SizedMap α) : List (String × α × EntryOptions) → List (SizedMap α)
  | [] => []
  | (key, value, options) :: rest =>
    match m.insert key value options.size true with
    | .error _ => []
    | .ok m => m :: m.putStates rest

/-- The maps that an operation leads through. -/
def moments (m : SizedMap α) : CacheOperation α → List (SizedMap α)
  | .putRange items => m.putStates items
  | op => [m.after op]

/-- The sum of sizes is within 64 bits, or a capacity sees to that. -/
def Fits (m : SizedMap α) : Prop :=
  m.capacity = none → m.total ≤ Cache.greatestSize

/-- All maps of a run. -/
def history (m : SizedMap α) : List (CacheOperation α) → List (SizedMap α)
  | [] => [m]
  | op :: rest => m :: (m.moments op ++ (m.after op).history rest)

end SizedMap

/-! ### Caches as maps -/

namespace Entry

/-- What a map holds for an entry: nothing once it is removed. -/
def item? (e : Entry α) : Option (α × Nat) :=
  if e.isRemoved then none else some (e.value, e.size)

theorem weight_eq (e : Entry α) : e.weight = (e.item?.map (·.2)).getD 0 := by
  unfold weight item?
  split <;> rfl

theorem item?_touch (e : Entry α) (now : Nat) : (e.touch now).item? = e.item? := by
  by_cases hremoved : e.state = .removed <;> simp [item?, isRemoved, touch, hremoved]

theorem item?_remove (e : Entry α) : (e.advance .removed).item? = none := by
  simp [item?, isRemoved, state_advance_removed]

/-- A sweep drops only what is removed, as long as nothing is idle. -/
theorem item?_swept {e : Entry α} {now : Nat} (h : ¬ e.Idle now) :
    (e.swept now).bind item? = e.item? := by
  unfold swept fate item?
  cases hstate : e.state <;> simp [h, isRemoved, hstate]

theorem not_idle_of_untimed {e : Entry α} (h : e.timeout = none) (now : Nat) : ¬ e.Idle now := by
  rintro ⟨t, ht, -⟩
  rw [h] at ht
  exact nomatch ht

end Entry

/-- Entries have no timeout by default, and a capacity is below the greatest total. -/
structure CacheOptions.Plain (options : CacheOptions) : Prop where
  timeout : options.timeout = none
  capacity : ∀ capacity, options.capacity = some capacity → capacity < Cache.greatestSize

namespace Cache

/-- The map that a cache stands for. -/
def toMap (c : Cache α) : SizedMap α :=
  ⟨c.options.capacity, c.entries.filterMap Entry.item?⟩

@[simp]
theorem capacity_toMap (c : Cache α) : c.toMap.capacity = c.options.capacity := rfl

theorem get?_toMap (c : Cache α) (key : String) :
    c.toMap.items.get? key = (c.entries.get? key).bind Entry.item? :=
  Dict.get?_filterMap ..

theorem total_toMap (c : Cache α) : c.toMap.total = c.liveTotal := by
  have hsum := c.entries.sum_values_filterMap (·.2) Entry.item?
  simp only [← Entry.weight_eq] at hsum
  exact hsum

theorem toMap_ext {c : Cache α} {m : SizedMap α} (hcapacity : c.options.capacity = m.capacity)
    (hitems : ∀ key, (c.entries.get? key).bind Entry.item? = m.items.get? key) : c.toMap = m := by
  obtain ⟨capacity, items⟩ := m
  have hsame : c.toMap.items = items :=
    Dict.ext_get? fun key => (c.get?_toMap key).trans (hitems key)
  cases hcapacity
  cases hsame
  rfl

/-! ### What lookups return -/

theorem contains_toMap (c : Cache α) (key : String) :
    c.toMap.items.contains key = c.contains key := by
  rw [Dict.contains, get?_toMap, contains]
  cases c.entries.get? key with
  | none => rfl
  | some e => cases hremoved : e.isRemoved <;> simp [Entry.item?, hremoved]

theorem find_toMap (c : Cache α) (now : Nat) (key : String) :
    c.toMap.find key = (c.get now key).map (·.1) := by
  rw [SizedMap.find, get?_toMap, get, peek?]
  cases c.entries.get? key with
  | none => rfl
  | some e => cases hremoved : e.isRemoved <;> simp [Entry.item?, hremoved, Except.map]

theorem remove_toMap (c : Cache α) (key : String) :
    (c.remove key).1 = c.toMap.items.contains key := by
  rw [contains_toMap, contains, remove]
  cases c.entries.get? key with
  | none => rfl
  | some e => cases hremoved : e.isRemoved <;> simp [hremoved]

theorem length_toMap (c : Cache α) : c.toMap.items.size = c.length := by
  change (c.entries.entries.filterMap _).length = _
  rw [List.length_filterMap_eq_countP, length, Dict.values, List.countP_map]
  refine List.countP_congr fun e _ => ?_
  cases hremoved : e.2.isRemoved <;> simp [Entry.item?, hremoved]

theorem isEmpty_toMap (c : Cache α) : c.toMap.items.isEmpty = c.isEmpty := by
  rw [isEmpty, ← length_toMap, Dict.isEmpty, Dict.size]
  cases c.toMap.items.entries <;> simp

/-! ### What operations do -/

theorem toMap_withEntry (c : Cache α) (key : String) (value : α) (timeout : Option Nat)
    (size now total : Nat) :
    (c.withEntry key (.new value timeout size now) total).toMap = c.toMap.set key value size := by
  refine toMap_ext rfl fun k => ?_
  rw [get?_withEntry, SizedMap.set, Dict.get?_insert, get?_toMap]
  split <;> rfl

/-- A total that saturates at 64 bits is refused just as the exact one. -/
theorem accept_eq (m : SizedMap α)
    (hcapacity : ∀ capacity, m.capacity = some capacity → capacity < greatestSize) :
    m.accept =
      let total := min m.total greatestSize
      if m.capacity.getD greatestSize < total then
        .error (.capacityExceeded (m.capacity.getD greatestSize) total)
      else .ok m := by
  unfold SizedMap.accept
  cases hoptions : m.capacity with
  | none =>
    have hnever : ¬ greatestSize < min m.total greatestSize := by omega
    exact (if_neg hnever).symm
  | some capacity =>
    have hlimit : capacity < min m.total greatestSize ↔ capacity < m.total := by
      have hless := hcapacity capacity hoptions
      omega
    simp only [Option.getD_some, hlimit]

theorem totalAfter_toMap {c : Cache α} (h : c.Accounted) (key : String) (value : α) (size : Nat) :
    c.totalAfter (c.liveSize key) size = min (c.toMap.set key value size).total greatestSize := by
  have hsum := c.liveTotal_withEntry key (.new value none size 0) 0
  have hold := c.liveSize_le key
  rw [Entry.weight_new, ← total_toMap, toMap_withEntry] at hsum
  rw [totalAfter, h.total]
  congr 1
  omega

theorem toMap_insert {c : Cache α} (h : c.Accounted)
    (hcapacity : ∀ capacity, c.options.capacity = some capacity → capacity < greatestSize)
    (now : Nat) (key : String) (value : α) (options : EntryOptions) (overwrite : Bool) :
    (c.insert now key value options overwrite).map toMap =
      c.toMap.insert key value options.size overwrite := by
  -- both sides make the same tests in the same order once the totals are the same
  rw [insert_eq, SizedMap.insert, contains_toMap, accept_eq _ hcapacity]
  simp only [totalAfter_toMap h key value, apply_ite (Except.map toMap), capacity_toMap,
    SizedMap.capacity_set, limit]
  simp only [Except.map, toMap_withEntry]
  rfl

theorem toMap_noteUse (c : Cache α) (now : Nat) (key : String) :
    (c.noteUse now key).toMap = c.toMap := by
  refine toMap_ext (by rw [options_noteUse]; rfl) fun k => ?_
  rw [get?_noteUse, get?_toMap]
  split
  · cases c.entries.get? k with
    | none => rfl
    | some e => exact e.item?_touch now
  · rfl

theorem toMap_remove (c : Cache α) (key : String) :
    (c.remove key).2.toMap = { c.toMap with items := c.toMap.items.erase key } := by
  refine toMap_ext (by rw [options_remove]; rfl) fun k => ?_
  rw [get?_remove, Dict.get?_erase, get?_toMap]
  split
  · cases c.entries.get? k with
    | none => rfl
    | some e => exact e.item?_remove
  · rfl

/-- The total is accounted for, and nothing has a timeout. -/
structure Plain (c : Cache α) : Prop extends c.Accounted where
  options : c.options.Plain
  untimed : c.Every fun e => e.timeout = none

theorem toMap_sweep {c : Cache α} (h : c.Plain) (now : Nat) : (c.sweep now).2.toMap = c.toMap := by
  refine toMap_ext rfl fun key => ?_
  rw [get?_sweep, get?_toMap, Option.bind_assoc]
  exact Option.bind_congr fun e he =>
    Entry.item?_swept (Entry.not_idle_of_untimed (h.untimed key e he) now)

/-! ### Steps and runs -/

theorem plain_empty {options : CacheOptions} (h : options.Plain) :
    (empty options : Cache α).Plain where
  toAccounted := accounted_empty options
  options := h
  untimed := every_empty options _

theorem Plain.insert {c c' : Cache α} (h : c.Plain) {now : Nat} {key : String} {value : α}
    {options : EntryOptions} {overwrite : Bool} (huntimed : options.timeout = none)
    (hinsert : c.insert now key value options overwrite = .ok c') (hfits : c'.toMap.Fits) :
    c'.Plain := by
  obtain ⟨heq, -, -⟩ := insert_of_ok hinsert
  have hoptions : c'.options = c.options := by rw [heq]; rfl
  have hrange : c'.liveTotal ≤ greatestSize := by
    cases hcapacity : c.options.capacity with
    | none =>
      rw [← hoptions] at hcapacity
      exact c'.total_toMap ▸ hfits hcapacity
    | some capacity =>
      have hless := h.options.capacity capacity hcapacity
      exact (h.le_of_insert hcapacity hless hinsert).trans hless.le
  refine ⟨⟨(h.size_insert hinsert).trans (min_eq_left hrange), hrange⟩, ?_, ?_⟩
  · exact hoptions ▸ h.options
  · rw [heq]
    refine h.untimed.withEntry ?_ key _
    simp [Entry.new, huntimed, h.options.timeout]

theorem Plain.noteUse {c : Cache α} (h : c.Plain) (now : Nat) (key : String) :
    (c.noteUse now key).Plain where
  toAccounted := h.toAccounted.noteUse now key
  options := by rw [options_noteUse]; exact h.options
  untimed := h.untimed.noteUse (fun _ he => he) key

theorem Plain.remove {c : Cache α} (h : c.Plain) (key : String) : (c.remove key).2.Plain where
  toAccounted := h.toAccounted.remove key
  options := by rw [options_remove]; exact h.options
  untimed := h.untimed.remove (fun _ he => he) key

theorem Plain.sweep {c : Cache α} (h : c.Plain) (now : Nat) : (c.sweep now).2.Plain where
  toAccounted := h.toAccounted.sweep now
  options := h.options
  untimed := by
    refine h.untimed.sweep fun e e' he hswept => ?_
    obtain ⟨_, rfl⟩ := Entry.of_swept hswept
    exact he

/-- An insert into the cache and one into its map are both refused, or both succeed. -/
theorem Plain.insert_cases {c : Cache α} (h : c.Plain) (now : Nat) (key : String) (value : α)
    {options : EntryOptions} (huntimed : options.timeout = none) (overwrite : Bool)
    (hfits : ∀ m, c.toMap.insert key value options.size overwrite = .ok m → m.Fits) :
    (∃ e, c.insert now key value options overwrite = .error e ∧
        c.toMap.insert key value options.size overwrite = .error e) ∨
      ∃ c', c.insert now key value options overwrite = .ok c' ∧
        c.toMap.insert key value options.size overwrite = .ok c'.toMap ∧ c'.Plain := by
  have hmap := toMap_insert h.toAccounted h.options.capacity now key value options overwrite
  cases hinsert : c.insert now key value options overwrite with
  | error e =>
    rw [hinsert] at hmap
    exact .inl ⟨e, rfl, hmap.symm⟩
  | ok c' =>
    rw [hinsert] at hmap
    exact .inr ⟨c', rfl, hmap.symm, h.insert huntimed hinsert (hfits _ hmap.symm)⟩

/-- An insert that is refused leaves the cache and its map as they are. -/
theorem Plain.insert_getD {c : Cache α} (h : c.Plain) (now : Nat) (key : String) (value : α)
    {options : EntryOptions} (huntimed : options.timeout = none) (overwrite : Bool)
    (hfits : ((c.toMap.insert key value options.size overwrite).toOption.getD c.toMap).Fits) :
    ((c.insert now key value options overwrite).toOption.getD c).Plain ∧
      ((c.insert now key value options overwrite).toOption.getD c).toMap =
        (c.toMap.insert key value options.size overwrite).toOption.getD c.toMap ∧
      (c.insert now key value options overwrite).map (fun _ => ()) =
        (c.toMap.insert key value options.size overwrite).map fun _ => () := by
  have hinsert := h.insert_cases now key value huntimed overwrite fun m hm => by
    rw [hm] at hfits
    exact hfits
  rcases hinsert with ⟨e, hc, hm⟩ | ⟨c', hc, hm, hplain⟩
  · rw [hc, hm]
    exact ⟨h, rfl, rfl⟩
  · rw [hc, hm]
    exact ⟨hplain, rfl, rfl⟩

theorem Plain.putRange {c : Cache α} (h : c.Plain) (now : Nat)
    (items : List (String × α × EntryOptions)) (huntimed : ∀ item ∈ items, item.2.2.timeout = none)
    (hfits : ∀ m ∈ c.toMap.putStates items, m.Fits) :
    (c.putRange now items).1.Plain ∧
      (c.putRange now items).1.toMap = (c.toMap.putRange items).1 ∧
      (c.putRange now items).2 = (c.toMap.putRange items).2 := by
  induction items generalizing c with
  | nil => exact ⟨h, rfl, rfl⟩
  | cons item rest ih =>
    obtain ⟨key, value, options⟩ := item
    obtain ⟨hfirst, hrest⟩ := List.forall_mem_cons.1 huntimed
    rw [SizedMap.putStates] at hfits
    rw [Cache.putRange, SizedMap.putRange, put]
    have hinsert := h.insert_cases now key value hfirst true fun m hm => by
      rw [hm] at hfits
      exact (List.forall_mem_cons.1 hfits).1
    rcases hinsert with ⟨e, hc, hm⟩ | ⟨c', hc, hm, hplain⟩
    · rw [hc, hm]
      exact ⟨h, rfl, rfl⟩
    · rw [hm] at hfits
      rw [hc, hm]
      obtain ⟨hafter, hmap, hresult⟩ := ih hplain hrest (List.forall_mem_cons.1 hfits).2
      exact ⟨hafter, hmap, congrArg (Except.map (· + 1)) hresult⟩

/-- What an operation returns to its caller, but for the state of an entry and the counts of a
sweep. -/
def answer? (c : Cache α) (now : Nat) : CacheOperation α → Option (CacheAnswer α)
  | .put key value options => some (.stored ((c.put now key value options).map fun _ => ()))
  | .add key value options => some (.stored ((c.add now key value options).map fun _ => ()))
  | .putRange items => some (.storedAll (c.putRange now items).2)
  | .get key => some (.found ((c.get now key).map (·.1)))
  | .contains key => some (.flag (c.contains key))
  | .remove key => some (.flag (c.remove key).1)
  | .length => some (.number c.length)
  | .isEmpty => some (.flag c.isEmpty)
  | .size => some (.number c.size)
  | .clear => some .cleared
  | .state _ | .sweep | .wait _ => none

/-- What the operations of a run return. Each comes with the time that the clock shows then. -/
def answers (c : Cache α) : List (Nat × CacheOperation α) → List (CacheAnswer α)
  | [] => []
  | (now, op) :: rest => (c.answer? now op).toList ++ (c.after now op).answers rest

/-- A cache and its map stay together in an operation, and return the same. -/
theorem Plain.step {c : Cache α} (h : c.Plain) (now : Nat) {op : CacheOperation α}
    (huntimed : op.Untimed) (hfits : ∀ m ∈ c.toMap.moments op, m.Fits) :
    (c.after now op).Plain ∧ (c.after now op).toMap = c.toMap.after op ∧
      c.answer? now op = c.toMap.answer? op := by
  cases op with
  | putRange items =>
    obtain ⟨hafter, hmap, hresult⟩ := h.putRange now items huntimed hfits
    exact ⟨hafter, hmap, congrArg (fun r => some (CacheAnswer.storedAll r)) hresult⟩
  | put key value options | add key value options =>
    obtain ⟨hafter, hmap, hresult⟩ :=
      h.insert_getD now key value huntimed _ (List.forall_mem_singleton.1 hfits)
    exact ⟨hafter, hmap, congrArg (fun r => some (CacheAnswer.stored r)) hresult⟩
  | get key =>
    rw [after_get]
    exact ⟨h.noteUse now key, c.toMap_noteUse now key, by rw [SizedMap.answer?, find_toMap]; rfl⟩
  | remove key =>
    exact ⟨h.remove key, c.toMap_remove key, by rw [SizedMap.answer?, ← remove_toMap]; rfl⟩
  | sweep => exact ⟨h.sweep now, toMap_sweep h now, rfl⟩
  | clear => exact ⟨plain_empty h.options, rfl, rfl⟩
  | contains key => exact ⟨h, rfl, by rw [SizedMap.answer?, contains_toMap]; rfl⟩
  | length => exact ⟨h, rfl, by rw [SizedMap.answer?, length_toMap]; rfl⟩
  | isEmpty => exact ⟨h, rfl, by rw [SizedMap.answer?, isEmpty_toMap]; rfl⟩
  | size => exact ⟨h, rfl, by rw [SizedMap.answer?, total_toMap, ← h.total]; rfl⟩
  | state | wait => exact ⟨h, rfl, rfl⟩

/-- What maps do not have leaves the map as it is, and returns nothing. -/
theorem Plain.step_of_not_plain {c : Cache α} (h : c.Plain) (now : Nat) {op : CacheOperation α}
    (hop : op.isPlain = false) :
    (c.after now op).Plain ∧ (c.after now op).toMap = c.toMap ∧ c.answer? now op = none := by
  cases op with
  | sweep => exact ⟨h.sweep now, toMap_sweep h now, rfl⟩
  | state | wait => exact ⟨h, rfl, rfl⟩
  | _ => exact nomatch hop

/-- A run on a cache returns what the plain part of it returns on the map. -/
theorem Plain.answers_eq {c : Cache α} (h : c.Plain) (ops : List (Nat × CacheOperation α))
    (huntimed : ∀ op ∈ CacheOperation.plainPart ops, op.Untimed)
    (hfits : ∀ m ∈ c.toMap.history (CacheOperation.plainPart ops), m.Fits) :
    c.answers ops = c.toMap.answers (CacheOperation.plainPart ops) := by
  induction ops generalizing c with
  | nil => rfl
  | cons first rest ih =>
    obtain ⟨now, op⟩ := first
    -- what maps do not have is not in the plain part; the rest both sides do
    cases hop : op.isPlain with
    | false =>
      have hpart : CacheOperation.plainPart ((now, op) :: rest) = CacheOperation.plainPart rest :=
        List.filter_cons_of_neg (by simp [hop])
      obtain ⟨hafter, hmap, hanswer⟩ := h.step_of_not_plain now hop
      rw [hpart] at huntimed hfits ⊢
      rw [← hmap] at hfits ⊢
      rw [answers, hanswer, ih hafter huntimed hfits]
      rfl
    | true =>
      have hpart :
          CacheOperation.plainPart ((now, op) :: rest) = op :: CacheOperation.plainPart rest :=
        List.filter_cons_of_pos hop
      rw [hpart] at huntimed hfits ⊢
      obtain ⟨hfirst, hrest⟩ := List.forall_mem_cons.1 huntimed
      rw [SizedMap.history, List.forall_mem_cons, List.forall_mem_append] at hfits
      obtain ⟨hafter, hmap, hanswer⟩ := h.step now hfirst hfits.2.1
      have hlater := hfits.2.2
      rw [← hmap] at hlater
      rw [answers, SizedMap.answers, hanswer, ih hafter hrest hlater, hmap]

/-- Without timeouts every operation of a run from an empty cache returns what it returns on a map
with the same capacity, and so it makes no difference where sweeps and waits come, how many, and
what the clock shows. The capacity is below the greatest total, or there is none and the sizes never
sum up to more than 64 bits hold. -/
theorem answers_of_untimed (options : CacheOptions) (htimeout : options.timeout = none)
    (hcapacity : ∀ capacity, options.capacity = some capacity → capacity < greatestSize)
    (ops : List (Nat × CacheOperation α))
    (huntimed : ∀ op ∈ CacheOperation.plainPart ops, op.Untimed)
    (hfits : ∀ m ∈ (SizedMap.empty options.capacity).history (CacheOperation.plainPart ops),
      m.capacity = none → m.total ≤ greatestSize) :
    (empty options).answers ops =
        (SizedMap.empty options.capacity).answers (CacheOperation.plainPart ops) ∧
      ∀ ops', CacheOperation.plainPart ops' = CacheOperation.plainPart ops →
        (empty options).answers ops' = (empty options).answers ops := by
  have hplain : (empty options : Cache α).Plain := plain_empty ⟨htimeout, hcapacity⟩
  have hanswers := hplain.answers_eq ops huntimed hfits
  refine ⟨hanswers, fun ops' hsame => ?_⟩
  rw [← hsame] at huntimed hfits hanswers
  rw [hanswers]
  exact hplain.answers_eq ops' huntimed hfits

/-- A removed key is put again before and after a sweep, with a capacity and without. -/
theorem answers_of_untimed_removed :
    let ops : List (Nat × CacheOperation Nat) := [
      (0, .put "a" 1 { size := some 4 }), (1, .put "b" 2 { size := some 5 }), (2, .remove "a"),
      (3, .add "a" 3 { size := some 6 }), (4, .remove "b"), (5, .sweep), (6, .add "b" 4 {}),
      (7, .putRange [("b", 5, { size := some 2 }), ("c", 6, { size := some 3 })]), (8, .get "a"),
      (9, .remove "c"), (10, .length), (11, .size)]
    let bounded : CacheOptions := { sliding := true, capacity := some 10 }
    ((∀ op ∈ CacheOperation.plainPart ops, op.Untimed) ∧
      (∀ m ∈ (SizedMap.empty none).history (CacheOperation.plainPart ops),
        m.capacity = none → m.total ≤ greatestSize)) ∧
      ((empty bounded).answers ops =
          (SizedMap.empty (some 10)).answers (CacheOperation.plainPart ops) ∧
        ∀ ops', CacheOperation.plainPart ops' = CacheOperation.plainPart ops →
          (empty bounded).answers ops' = (empty bounded).answers ops) ∧
      (empty {}).answers ops = (SizedMap.empty none).answers (CacheOperation.plainPart ops) ∧
        ∀ ops', CacheOperation.plainPart ops' = CacheOperation.plainPart ops →
          (empty {}).answers ops' = (empty {}).answers ops := by
  intro ops bounded
  have huntimed : ∀ op ∈ CacheOperation.plainPart ops, op.Untimed := by decide
  have hfits : ∀ m ∈ (SizedMap.empty none).history (CacheOperation.plainPart ops),
      m.capacity = none → m.total ≤ greatestSize := by
    decide +kernel
  have hbounded := answers_of_untimed bounded rfl (by decide) ops huntimed (by decide +kernel)
  exact ⟨⟨huntimed, hfits⟩, hbounded, answers_of_untimed {} rfl (by decide) ops huntimed hfits⟩

example :
    (empty { capacity := some 10 }).answers [(0, .put "a" 1 { size := some 4 }), (0, .remove "a"),
      (0, .sweep), (0, .add "a" 2 { size := some 12 }), (0, .add "a" 3 { size := some 2 }),
      (0, .size)] =
      [.stored (.ok ()), .flag true, .stored (.error (.capacityExceeded 10 12)), .stored (.ok ()),
        .number 2] := by decide +kernel

end Cache

end SensorRouter
