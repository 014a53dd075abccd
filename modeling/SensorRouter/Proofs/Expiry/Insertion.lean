import SensorRouter.Proofs.Directory.InPlace
import SensorRouter.Proofs.Expiry.Run

/-!
What becomes of an insert. Its three tests come in a fixed order, a missing size first, then an
occupied key, then the capacity; an insert that fails one of them has changed nothing, also where the
cache is changed in place, the total first and the entry afterwards. A range is a series of inserts
that the first failure ends, and what came before it stays.
-/

namespace SensorRouter

namespace Cache

variable {α : Type}

/-- The entry that holds a key: the one under it, unless that is removed. -/
def holder? (c : Cache α) (key : String) : Option (Entry α) :=
  (c.entries.get? key).filter fun e => e.state ≠ .removed

theorem contains_eq (c : Cache α) (key : String) : c.contains key = (c.holder? key).isSome := by
  unfold contains holder?
  cases c.entries.get? key with
  | none => rfl
  | some e =>
    by_cases hremoved : e.state = .removed <;> simp [Entry.isRemoved, hremoved]

theorem liveSize_eq_holder? (c : Cache α) (key : String) :
    c.liveSize key = (c.holder? key).elim 0 Entry.size := by
  unfold liveSize holder?
  cases c.entries.get? key with
  | none => rfl
  | some e =>
    by_cases hremoved : e.state = .removed <;> simp [Entry.isRemoved, Option.filter, hremoved]

/-! ### The three tests -/

/-- A capacity asks for a size, and the insert gives none or 0. -/
def LacksSize (c : Cache α) (options : EntryOptions) : Prop :=
  c.options.capacity.isSome ∧ (options.size = none ∨ options.size = some 0)

instance (c : Cache α) (options : EntryOptions) : Decidable (c.LacksSize options) :=
  inferInstanceAs (Decidable (_ ∧ (_ ∨ _)))

theorem lacksSize_iff (c : Cache α) (options : EntryOptions) :
    c.LacksSize options ↔ c.options.capacity.isSome ∧ options.size.getD 0 = 0 := by
  unfold LacksSize
  cases options.size <;> simp

/-- The insert must not overwrite, and an entry holds the key. -/
def Occupied (c : Cache α) (key : String) (overwrite : Bool) : Prop :=
  overwrite = false ∧ (c.holder? key).isSome

instance (c : Cache α) (key : String) (overwrite : Bool) :
    Decidable (c.Occupied key overwrite) :=
  inferInstanceAs (Decidable (_ ∧ _))

/-- The total with a new entry in the place of the key's holder: neither the difference nor the sum
leaves 64 bits. -/
def requested (c : Cache α) (key : String) (options : EntryOptions) : Nat :=
  min (c.size - (c.holder? key).elim 0 Entry.size + options.size.getD 0) (2 ^ 64 - 1)

theorem requested_eq (c : Cache α) (key : String) (options : EntryOptions) :
    c.requested key options = c.totalAfter (c.liveSize key) (options.size.getD 0) := by
  rw [totalAfter, liveSize_eq_holder?]
  rfl

/-- The new total crosses the capacity. -/
def Crosses (c : Cache α) (key : String) (options : EntryOptions) : Prop :=
  ∃ capacity ∈ c.options.capacity, capacity < c.requested key options

/-- Without a capacity the limit is the greatest total, which no total crosses. -/
theorem crosses_iff (c : Cache α) (key : String) (options : EntryOptions) :
    c.Crosses key options ↔ c.limit < c.requested key options := by
  unfold Crosses limit
  cases c.options.capacity with
  | some capacity => simp
  | none =>
    have hle : c.requested key options ≤ greatestSize := Nat.min_le_right ..
    simpa using hle

instance (c : Cache α) (key : String) (options : EntryOptions) :
    Decidable (c.Crosses key options) :=
  decidable_of_iff _ (c.crosses_iff key options).symm

/-- The entry that an insert makes. -/
def newEntry (c : Cache α) (now : Nat) (value : α) (options : EntryOptions) : Entry α :=
  .new value (options.timeout <|> c.options.timeout) (options.size.getD 0) now

theorem insert_eq_ite (c : Cache α) (now : Nat) (key : String) (value : α) (options : EntryOptions)
    (overwrite : Bool) :
    c.insert now key value options overwrite =
      if c.LacksSize options then .error .sizeRequired
      else if c.Occupied key overwrite then .error .keyExists
      else if c.Crosses key options then .error (.capacityExceeded c.limit (c.requested key options))
      else .ok (c.withEntry key (c.newEntry now value options) (c.requested key options)) := by
  rw [insert_eq]
  simp only [lacksSize_iff, crosses_iff, Occupied, requested_eq, contains_eq]
  rfl

/-! ### Outcomes -/

/-- The result of an insert and the cache that it leaves. -/
structure Insertion (c : Cache α) (now : Nat) (key : String) (value : α) (options : EntryOptions)
    (overwrite : Bool) (result : Except CacheError Unit) (left : Cache α) : Prop where
  sizeRequired : result = .error .sizeRequired ↔ c.LacksSize options
  keyExists : ¬ c.LacksSize options → (result = .error .keyExists ↔ c.Occupied key overwrite)
  capacityExceeded : ¬ c.LacksSize options → ¬ c.Occupied key overwrite →
    ((∃ capacity total, result = .error (.capacityExceeded capacity total)) ↔
      c.Crosses key options)
  /-- The error names the capacity and the total that it does not admit. -/
  exceeds : ∀ capacity total, result = .error (.capacityExceeded capacity total) →
    c.options.capacity = some capacity ∧ total = c.requested key options
  succeeds : ¬ c.LacksSize options → ¬ c.Occupied key overwrite → ¬ c.Crosses key options →
    result = .ok ()
  /-- The key then holds a new entry. -/
  inserted : result = .ok () →
    left.holder? key = some
      { value
        timeout := options.timeout <|> c.options.timeout
        createdAt := now
        lastSeen := now
        state := .active
        size := options.size.getD 0 } ∧
      left.size = c.requested key options
  others : ∀ k, k ≠ key → left.entries.get? k = c.entries.get? k
  options : left.options = c.options
  unchanged : ∀ e, result = .error e → left = c

theorem holder?_withEntry (c : Cache α) (key : String) {e : Entry α} (h : e.state ≠ .removed)
    (total : Nat) : (c.withEntry key e total).holder? key = some e := by
  rw [holder?, get?_withEntry, if_pos rfl]
  simp [h]

/-- An insert that passes the three tests sets the entry and the total, and nothing else. -/
theorem insertion_withEntry (c : Cache α) (now : Nat) {key : String} (value : α)
    {options : EntryOptions} {overwrite : Bool} (hlacks : ¬ c.LacksSize options)
    (hoccupied : ¬ c.Occupied key overwrite) (hcrosses : ¬ c.Crosses key options) :
    c.Insertion now key value options overwrite (.ok ())
      (c.withEntry key (c.newEntry now value options) (c.requested key options)) := by
  have hok (e : CacheError) : (Except.ok () : Except CacheError Unit) ≠ .error e := by simp
  have hwithin : ¬ ∃ capacity total, (Except.ok () : Except CacheError Unit) =
      .error (.capacityExceeded capacity total) := by
    rintro ⟨capacity, total, h⟩
    exact hok _ h
  have hothers (k : String) (hk : k ≠ key) := (get?_withEntry c key k
    (c.newEntry now value options) (c.requested key options)).trans (if_neg hk)
  have hholder := c.holder?_withEntry key (e := c.newEntry now value options)
    EntryState.noConfusion (c.requested key options)
  exact {
    sizeRequired := iff_of_false (hok _) hlacks
    keyExists := fun _ => iff_of_false (hok _) hoccupied
    capacityExceeded := fun _ _ => iff_of_false hwithin hcrosses
    exceeds := fun _ _ h => absurd h (hok _)
    succeeds := fun _ _ _ => rfl
    inserted := fun _ => ⟨hholder, rfl⟩
    others := hothers
    options := rfl
    unchanged := fun e h => absurd h (hok e) }

/-- An insert passes the three tests in their order, and either it fails one or it sets the entry. -/
theorem insertion_wholly (c : Cache α) (now : Nat) (key : String) (value : α)
    (options : EntryOptions) (overwrite : Bool) {result : Except CacheError Unit} {left : Cache α}
    (h : InPlace.wholly c (c.insert now key value options overwrite) = (result, left)) :
    c.Insertion now key value options overwrite result left := by
  rw [insert_eq_ite] at h
  by_cases hlacks : c.LacksSize options
  · rw [if_pos hlacks] at h
    cases h
    constructor <;> simp [hlacks]
  rw [if_neg hlacks] at h
  by_cases hoccupied : c.Occupied key overwrite
  · rw [if_pos hoccupied] at h
    cases h
    constructor <;> simp [hlacks, hoccupied]
  rw [if_neg hoccupied] at h
  by_cases hcrosses : c.Crosses key options
  · rw [if_pos hcrosses] at h
    cases h
    obtain ⟨capacity, hcapacity, -⟩ := id hcrosses
    have hlimit : c.limit = capacity := by
      rw [limit, hcapacity, Option.getD_some]
    constructor <;> simp [hlacks, hoccupied, hcrosses, hlimit]
    exact hcapacity
  · rw [if_neg hcrosses] at h
    cases h
    exact c.insertion_withEntry now value hlacks hoccupied hcrosses

/-! ### Ranges -/

/-- The cache after inserting items one by one, each over what its key holds. -/
def inserts (c : Cache α) (now : Nat) (items : List (String × α × EntryOptions)) :
    Except CacheError (Cache α) :=
  items.foldlM (fun c item => c.insert now item.1 item.2.1 item.2.2 true) c

/-- A range ends with its last item or with the first that fails. -/
inductive RangeOutcome (c : Cache α) (now : Nat) (items : List (String × α × EntryOptions))
    (result : Except CacheError Nat) (left : Cache α) : Prop
  | complete (inserted : c.inserts now items = .ok left) (counted : result = .ok items.length)
  | stopped (front rest : List (String × α × EntryOptions)) (key : String) (value : α)
      (options : EntryOptions) (e : CacheError)
      (split : items = front ++ (key, value, options) :: rest)
      (inserted : c.inserts now front = .ok left)
      (refused : left.insert now key value options true = .error e)
      (failed : result = .error e)

theorem rangeOutcome (c : Cache α) (now : Nat) (items : List (String × α × EntryOptions))
    {result : Except CacheError Nat} {left : Cache α}
    (h : c.putRange now items = (left, result)) : c.RangeOutcome now items result left := by
  induction items generalizing c result with
  | nil =>
    cases h
    exact .complete rfl rfl
  | cons item rest ih =>
    obtain ⟨key, value, options⟩ := item
    rw [putRange] at h
    cases hput : c.put now key value options with
    | error e =>
      rw [hput] at h
      cases h
      exact .stopped [] rest key value options e rfl rfl hput rfl
    | ok c' =>
      rw [hput] at h
      have hinserts (more) : c.inserts now ((key, value, options) :: more) = c'.inserts now more := by
        rw [inserts, List.foldlM_cons]
        exact congrArg (· >>= _) hput
      rcases hrange : c'.putRange now rest with ⟨left', result'⟩
      simp only [hrange] at h
      cases h
      cases ih c' hrange with
      | complete hinserted hcounted =>
        apply RangeOutcome.complete ((hinserts rest).trans hinserted)
        rw [hcounted]
        rfl
      | stopped front rest' key' value' options' e hsplit hinserted hrefused hfailed =>
        apply RangeOutcome.stopped ((key, value, options) :: front) rest' key' value' options' e
          (congrArg (_ :: ·) hsplit) ((hinserts front).trans hinserted) hrefused
        rw [hfailed]
        rfl

end Cache

namespace InPlace

variable {α : Type}

/-- Inserts items one after another and counts them. -/
def insertAll (now : Nat) :
    List (String × α × EntryOptions) → Nat → InPlace (Cache α) CacheError Nat
  | [], count => pure count
  | (key, value, options) :: rest, count => do
    insert now key value options true
    insertAll now rest (count + 1)

theorem runOn_insertAll (now : Nat) (items : List (String × α × EntryOptions)) (count : Nat)
    (c : Cache α) :
    (insertAll now items count).runOn c =
      ((c.putRange now items).2.map (count + ·), (c.putRange now items).1) := by
  induction items generalizing count c with
  | nil => rfl
  | cons item rest ih =>
    obtain ⟨key, value, options⟩ := item
    have hinsert : (insert now key value options true).runOn c =
        wholly c (c.put now key value options) := insert_realizes now key value options true c
    rw [insertAll, runOn_bind, hinsert, Cache.putRange]
    cases c.put now key value options with
    | error e => rfl
    | ok c' =>
      refine (ih (count + 1) c').trans ?_
      cases hrange : (c'.putRange now rest).2 with
      | error e => simp [Except.map, hrange]
      | ok n =>
        have hcount : count + 1 + n = count + (n + 1) := by omega
        simp [Except.map, hrange, hcount]

end InPlace

/-- Inserting fails on a missing size, else on an occupied key, else on the capacity, and then has
changed nothing; or else the key holds a new entry. A range inserts its items one by one up to the
first that fails. The programs that change the cache in place do the same. -/
theorem Cache.insert_outcome {α : Type} (c : Cache α) (now : Nat) :
    (∀ key value options overwrite, ∃ result left,
      (InPlace.insert now key value options overwrite).runOn c = (result, left) ∧
        c.insert now key value options overwrite = result.map (fun _ => left) ∧
        c.Insertion now key value options overwrite result left) ∧
      ∀ items, ∃ result left,
        (InPlace.insertAll now items 0).runOn c = (result, left) ∧
          c.putRange now items = (left, result) ∧ c.RangeOutcome now items result left := by
  constructor
  · intro key value options overwrite
    refine ⟨_, _, InPlace.insert_realizes now key value options overwrite c, ?_,
      c.insertion_wholly now key value options overwrite rfl⟩
    beta_reduce
    cases c.insert now key value options overwrite <;> rfl
  · intro items
    have hrun := InPlace.runOn_insertAll now items 0 c
    have hresult : (c.putRange now items).2.map (0 + ·) = (c.putRange now items).2 := by
      cases (c.putRange now items).2 with
      | error e => rfl
      | ok n => exact congrArg Except.ok (Nat.zero_add n)
    rw [hresult] at hrun
    exact ⟨_, _, hrun, rfl, c.rangeOutcome now items rfl⟩

end SensorRouter
