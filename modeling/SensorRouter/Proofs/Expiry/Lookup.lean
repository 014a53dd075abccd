import Mathlib
import SensorRouter.Expiry.Cache

/-!
What lookups in a cache see after each operation. A use changes nothing that they see, a removal hides
one key, a sweep can only hide keys, and an insert shows its value under its key. Without a capacity
every insert succeeds; with one, an insert without a size is refused.
-/

namespace SensorRouter

namespace Entry

variable {α : Type}

/-- What a lookup sees of an entry. -/
def visible? (e : Entry α) : Option α :=
  if e.isRemoved then none else some e.value

theorem visible?_touch (e : Entry α) (now : Nat) : (e.touch now).visible? = e.visible? := by
  by_cases hremoved : e.state = .removed <;> simp [visible?, isRemoved, touch, hremoved]

theorem visible?_remove (e : Entry α) : (e.advance .removed).visible? = none := by
  obtain ⟨_, _, _, _, state, _⟩ := e
  cases state <;> rfl

/-- An entry that a lookup sees after a sweep is one that it saw before. -/
theorem visible?_of_swept {e : Entry α} {now : Nat} {v : α}
    (h : (e.swept now).bind visible? = some v) : e.visible? = some v := by
  unfold swept fate at h
  cases hstate : e.state <;> simp only [hstate] at h
  case removed => exact nomatch h
  case scheduled =>
    by_cases hidle : e.Idle now
    · simp [hidle] at h
    · simpa [hidle, visible?, isRemoved, hstate] using h
  -- active or expired: the state changes, the value stays visible
  all_goals
    by_cases hidle : e.Idle now <;> simpa [hidle, visible?, isRemoved, hstate] using h

end Entry

namespace Cache

variable {α : Type}

theorem peek?_eq (c : Cache α) (key : String) :
    c.peek? key = (c.entries.get? key).bind Entry.visible? := by
  unfold peek?
  cases c.entries.get? key <;> rfl

@[simp]
theorem peek?_clear (c : Cache α) (key : String) : c.clear.peek? key = none := rfl

/-! ### Uses, removals and sweeps -/

@[simp]
theorem peek?_noteUse (c : Cache α) (now : Nat) (key k : String) :
    (c.noteUse now key).peek? k = c.peek? k := by
  unfold noteUse
  cases hentry : c.entries.get? key with
  | none => rfl
  | some e =>
    simp only
    split
    · rw [peek?_eq, peek?_eq, Dict.get?_insert]
      by_cases hk : k = key
      · rw [if_pos hk, hk, hentry, Option.bind_some, Option.bind_some, Entry.visible?_touch]
      · rw [if_neg hk]
    · rfl

@[simp]
theorem options_noteUse (c : Cache α) (now : Nat) (key : String) :
    (c.noteUse now key).options = c.options := by
  unfold noteUse
  cases c.entries.get? key with
  | none => rfl
  | some e =>
    simp only
    split <;> rfl

theorem peek?_remove (c : Cache α) (key k : String) :
    (c.remove key).2.peek? k = if k = key then none else c.peek? k := by
  unfold remove
  cases hentry : c.entries.get? key with
  | none =>
    by_cases hk : k = key
    · simp [hk, peek?_eq, hentry]
    · simp [hk]
  | some e =>
    by_cases hremoved : e.isRemoved
    · by_cases hk : k = key
      · simp [hk, peek?_eq, hentry, hremoved, Entry.visible?]
      · simp [hk, hremoved]
    · by_cases hk : k = key
      · simp [hk, peek?_eq, hremoved, Entry.visible?_remove]
      · simp [hk, peek?_eq, hremoved]

@[simp]
theorem options_remove (c : Cache α) (key : String) : (c.remove key).2.options = c.options := by
  unfold remove
  cases c.entries.get? key with
  | none => rfl
  | some e =>
    simp only
    split <;> rfl

/-- A sweep shows nothing that was not visible before it. -/
theorem peek?_of_sweep {c : Cache α} {now : Nat} {key : String} {v : α}
    (h : (c.sweep now).2.peek? key = some v) : c.peek? key = some v := by
  rw [peek?_eq] at h
  change ((c.entries.filterMap fun e => e.swept now).get? key).bind Entry.visible? = some v at h
  rw [Dict.get?_filterMap, Option.bind_assoc, Option.bind_eq_some_iff] at h
  obtain ⟨e, hentry, hvisible⟩ := h
  rw [peek?_eq, hentry]
  exact Entry.visible?_of_swept hvisible

@[simp]
theorem options_sweep (c : Cache α) (now : Nat) : (c.sweep now).2.options = c.options := rfl

/-! ### Inserts -/

/-- The cache with a new entry under a key, and a given size total. -/
def withEntry (c : Cache α) (key : String) (e : Entry α) (total : Nat) : Cache α :=
  { c with entries := c.entries.insert key e, size := total }

/-- What an insert does: three tests in order, then the new entry. -/
theorem insert_eq (c : Cache α) (now : Nat) (key : String) (value : α) (options : EntryOptions)
    (overwrite : Bool) :
    c.insert now key value options overwrite =
      let size := options.size.getD 0
      let total := c.totalAfter (c.liveSize key) size
      if c.options.capacity.isSome ∧ size = 0 then .error .sizeRequired
      else if overwrite = false ∧ c.contains key then .error .keyExists
      else if c.limit < total then .error (.capacityExceeded c.limit total)
      else
        .ok (c.withEntry key (.new value (options.timeout <|> c.options.timeout) size now) total) := by
  by_cases hsize : c.options.capacity.isSome ∧ options.size.getD 0 = 0
  · simp [insert, entrySize, hsize, bind, Except.bind]
  · have hentry : c.entrySize options.size = .ok (options.size.getD 0) := by
      simpa [entrySize] using hsize
    simp only [insert, hentry, if_neg hsize, bind, Except.bind, pure, Except.pure, throw, throwThe,
      MonadExceptOf.throw]
    cases overwrite <;> cases c.contains key <;> simp <;> rfl

/-- An insert that succeeds sets the entry of its key to a new one. With a capacity the entry has a
size, and the new total is within the limit. -/
theorem insert_of_ok {c c' : Cache α} {now : Nat} {key : String} {value : α} {options : EntryOptions}
    {overwrite : Bool} (h : c.insert now key value options overwrite = .ok c') :
    let size := options.size.getD 0
    let total := c.totalAfter (c.liveSize key) size
    c' = c.withEntry key (.new value (options.timeout <|> c.options.timeout) size now) total ∧
      (c.options.capacity.isSome → 0 < size) ∧ total ≤ c.limit := by
  intro size total
  rw [insert_eq] at h
  simp only at h
  split at h
  · exact nomatch h
  · rename_i hsize
    split at h
    · exact nomatch h
    · split at h
      · exact nomatch h
      · rename_i hlimit
        cases h
        refine ⟨rfl, fun hcapacity => Nat.pos_of_ne_zero fun hzero => ?_, Nat.le_of_not_lt hlimit⟩
        exact hsize ⟨hcapacity, hzero⟩

theorem peek?_withEntry (c : Cache α) (key k : String) (value : α) (timeout : Option Nat)
    (size now total : Nat) :
    (c.withEntry key (.new value timeout size now) total).peek? k =
      if k = key then some value else c.peek? k := by
  rw [peek?_eq, withEntry, Dict.get?_insert]
  by_cases hk : k = key
  · rw [if_pos hk, if_pos hk]
    rfl
  · rw [if_neg hk, if_neg hk, peek?_eq]

/-- Without a capacity an insert succeeds, and shows its value under its key. -/
theorem put_unbounded (c : Cache α) (hcapacity : c.options.capacity = none) (now : Nat)
    (key : String) (value : α) :
    ∃ c', c.put now key value = .ok c' ∧ c'.options = c.options ∧
      ∀ k, c'.peek? k = if k = key then some value else c.peek? k := by
  have htotal : ¬ c.limit < c.totalAfter (c.liveSize key) 0 := by
    simp only [limit, hcapacity, Option.getD_none, totalAfter]
    omega
  refine ⟨c.withEntry key (.new value c.options.timeout 0 now)
    (c.totalAfter (c.liveSize key) 0), ?_, rfl, fun k => peek?_withEntry ..⟩
  simp [put, insert, entrySize, hcapacity, htotal, withEntry, bind, Except.bind, pure, Except.pure]

/-- With a capacity an insert without a size is refused. -/
theorem put_bounded (c : Cache α) (hcapacity : c.options.capacity ≠ none) (now : Nat)
    (key : String) (value : α) : c.put now key value = .error .sizeRequired := by
  have hsome : c.options.capacity.isSome = true := Option.isSome_iff_ne_none.2 hcapacity
  simp [put, insert, entrySize, hsome, bind, Except.bind]

/-! ### Listings -/

/-- The item that a listing has under a key; of several the last. -/
def lastWith? (key : α → String) (items : List α) (k : String) : Option α :=
  items.reverse.find? fun a => key a = k

@[simp]
theorem lastWith?_nil (key : α → String) (k : String) : lastWith? key [] k = none := rfl

theorem lastWith?_cons (key : α → String) (a : α) (rest : List α) (k : String) :
    lastWith? key (a :: rest) k = (lastWith? key rest k).or (if k = key a then some a else none) := by
  rw [lastWith?, List.reverse_cons, List.find?_append, lastWith?]
  by_cases hk : k = key a
  · simp [hk]
  · simp [hk, Ne.symm hk]

theorem mem_of_lastWith? {key : α → String} {items : List α} {k : String} {a : α}
    (h : lastWith? key items k = some a) : a ∈ items ∧ key a = k := by
  unfold lastWith? at h
  exact ⟨List.mem_reverse.1 (List.mem_of_find?_eq_some h), by simpa using List.find?_some h⟩

theorem lastWith?_eq_none_iff {key : α → String} {items : List α} {k : String} :
    lastWith? key items k = none ↔ k ∉ items.map key := by
  rw [lastWith?, List.find?_eq_none, List.mem_map]
  constructor
  · rintro hnone ⟨a, hmem, hkey⟩
    exact hnone a (List.mem_reverse.2 hmem) (decide_eq_true hkey)
  · intro hnone a hmem hkey
    exact hnone ⟨a, List.mem_reverse.1 hmem, of_decide_eq_true hkey⟩

/-- Without a capacity a listing is put as a whole, the last item of a key over the others. -/
theorem putRange_unbounded (c : Cache α) (hcapacity : c.options.capacity = none) (now : Nat)
    (key : α → String) (items : List α) :
    ∃ c', c.putRange now (items.map fun a => (key a, a, {})) = (c', .ok items.length) ∧
      c'.options = c.options ∧ ∀ k, c'.peek? k = (lastWith? key items k).or (c.peek? k) := by
  induction items generalizing c with
  | nil => exact ⟨c, rfl, rfl, fun k => rfl⟩
  | cons a rest ih =>
    obtain ⟨c₁, hput, hoptions₁, hpeek₁⟩ := c.put_unbounded hcapacity now (key a) a
    obtain ⟨c₂, hrange, hoptions₂, hpeek₂⟩ := ih c₁ (by rw [hoptions₁, hcapacity])
    refine ⟨c₂, ?_, hoptions₂.trans hoptions₁, fun k => ?_⟩
    · simp only [List.map_cons, putRange, hput, hrange]
      rfl
    · rw [hpeek₂, hpeek₁, lastWith?_cons, Option.or_assoc]
      by_cases hk : k = key a <;> simp [hk]

/-- With a capacity the first item of a listing is refused already. -/
theorem putRange_bounded (c : Cache α) (hcapacity : c.options.capacity ≠ none) (now : Nat)
    (key : α → String) (a : α) (rest : List α) :
    c.putRange now ((a :: rest).map fun a => (key a, a, {})) = (c, .error .sizeRequired) := by
  simp only [List.map_cons, putRange, c.put_bounded hcapacity now (key a) a]

/-! ### Counting -/

/-- The keys that lookups see. -/
def visibleKeys (c : Cache α) : List String :=
  (c.entries.toList.filter fun e => !e.2.isRemoved).map (·.1)

theorem nodup_visibleKeys (c : Cache α) : c.visibleKeys.Nodup :=
  c.entries.nodup_keys.sublist (List.filter_sublist.map _)

theorem mem_visibleKeys {c : Cache α} {key : String} :
    key ∈ c.visibleKeys ↔ (c.peek? key).isSome = true := by
  rw [peek?_eq, visibleKeys]
  constructor
  · intro hmem
    obtain ⟨⟨_, e⟩, hentry, rfl⟩ := List.mem_map.1 hmem
    obtain ⟨hlisted, hvisible⟩ := List.mem_filter.1 hentry
    rw [Dict.get?_eq_some_iff.2 hlisted]
    simpa [Entry.visible?] using hvisible
  · cases hget : c.entries.get? key with
    | none => simp
    | some e =>
      intro hvisible
      refine List.mem_map.2 ⟨(key, e), List.mem_filter.2 ⟨Dict.get?_eq_some_iff.1 hget, ?_⟩, rfl⟩
      simpa [Entry.visible?] using hvisible

theorem length_visibleKeys (c : Cache α) : c.visibleKeys.length = c.length := by
  rw [visibleKeys, List.length_map, length, Dict.values, List.countP_map,
    List.countP_eq_length_filter]
  rfl

/-- The number of entries is determined by what lookups see. -/
theorem length_eq_of_peek?_eq {c c' : Cache α} (h : ∀ key, c'.peek? key = c.peek? key) :
    c'.length = c.length := by
  have hperm : c'.visibleKeys.Perm c.visibleKeys :=
    (List.perm_ext_iff_of_nodup c'.nodup_visibleKeys c.nodup_visibleKeys).2 fun key => by
      rw [mem_visibleKeys, mem_visibleKeys, h]
  rw [← length_visibleKeys, ← length_visibleKeys, hperm.length_eq]

end Cache

end SensorRouter
