import SensorRouter.Proofs.Ring.Sequence

/-!
The operations of a ring with every access checked: a remainder by zero is a fault, and so is a slot
outside the buffer, or a new buffer that is too small for the items. On a ring that is tidy they do
just what the operations without the checks do, and no fault occurs.
-/

namespace SensorRouter

variable {α : Type}

/-- What can go wrong in an access to the buffer. -/
inductive Fault where
  | divisionByZero
  | outOfBounds
  | bufferTooSmall
  deriving DecidableEq, Repr

namespace Ring.Checked

def remainder (a b : Nat) : Except Fault Nat :=
  if b = 0 then .error .divisionByZero else .ok (a % b)

def read (slots : Array (Option α)) (i : Nat) : Except Fault (Option α) :=
  match slots[i]? with
  | none => .error .outOfBounds
  | some cell => .ok cell

def write (slots : Array (Option α)) (i : Nat) (cell : Option α) :
    Except Fault (Array (Option α)) :=
  if i < slots.size then .ok (slots.setIfInBounds i cell) else .error .outOfBounds

def slotOf (r : Ring α) (i : Nat) : Except Fault Nat :=
  remainder (r.head + i) r.capacity

def get? (r : Ring α) (i : Nat) : Except Fault (Option α) :=
  if r.length ≤ i then .ok none
  else do
    let slot ← slotOf r i
    read r.slots slot

def toList (r : Ring α) : Except Fault (List α) := do
  let cells ← (List.range r.length).mapM (get? r)
  return cells.filterMap id

def reallocate (r : Ring α) (capacity : Nat) : Except Fault (Ring α) := do
  if capacity < r.length then throw .bufferTooSmall
  let cells ← (List.range r.length).mapM fun i => do
    let slot ← slotOf r i
    read r.slots slot
  return {
    slots := cells.toArray ++ Array.replicate (capacity - r.length) none
    head := 0
    length := r.length }

def reserve (r : Ring α) (additional : Nat) : Except Fault (Ring α) :=
  if r.length + additional ≤ r.capacity then .ok r
  else reallocate r (doubled (max r.capacity leastGrowth) (r.length + additional))

def pushBack (r : Ring α) (x : α) : Except Fault (Ring α) := do
  let r ← reserve r 1
  let slot ← slotOf r r.length
  let slots ← write r.slots slot (some x)
  return { r with slots, length := r.length + 1 }

def pushFront (r : Ring α) (x : α) : Except Fault (Ring α) := do
  let r ← reserve r 1
  let head ← remainder (r.head + r.capacity - 1) r.capacity
  let slots ← write r.slots head (some x)
  return { slots, head, length := r.length + 1 }

def append (r : Ring α) (xs : List α) : Except Fault (Ring α) := do
  let r ← reserve r xs.length
  xs.foldlM pushBack r

def prepend (r : Ring α) (xs : List α) : Except Fault (Ring α) := do
  let r ← reserve r xs.length
  xs.reverse.foldlM pushFront r

def popFront (r : Ring α) : Except Fault (Option α × Ring α) :=
  if r.length = 0 then .ok (none, r)
  else do
    let cell ← read r.slots r.head
    let slots ← write r.slots r.head none
    let head ← remainder (r.head + 1) r.capacity
    return (cell, { slots, head, length := r.length - 1 })

def popBack (r : Ring α) : Except Fault (Option α × Ring α) :=
  if r.length = 0 then .ok (none, r)
  else do
    let slot ← slotOf r (r.length - 1)
    let cell ← read r.slots slot
    let slots ← write r.slots slot none
    return (cell, { r with slots, length := r.length - 1 })

def take : Nat → Ring α → Except Fault (List α × Ring α)
  | 0, r => .ok ([], r)
  | n + 1, r => do
    match ← popFront r with
    | (none, r) => return ([], r)
    | (some x, r) =>
      let (xs, r) ← take n r
      return (x :: xs, r)

def trim (r : Ring α) : Except Fault (Ring α) :=
  if r.length < r.capacity then reallocate r r.length else .ok r

/-- What taking an item returns. -/
def returned : Option α → RingAnswer α
  | none => .taken (.error .underflow)
  | some x => .taken (.ok x)

def step [BEq α] (r : Ring α) : RingOperation α → Except Fault (RingAnswer α × Ring α)
  | .add x => do return (.done, ← pushBack r x)
  | .addFront x => do return (.done, ← pushFront r x)
  | .addRange xs => do return (.done, ← append r xs)
  | .addRangeFront xs => do return (.done, ← prepend r xs)
  | .dequeue => do
    let (x?, rest) ← popFront r
    return (returned x?, rest)
  | .dequeueBack => do
    let (x?, rest) ← popBack r
    return (returned x?, rest)
  | .dequeueRange n => do
    let (xs, rest) ← take n r
    return (.items xs, rest)
  | .drain => do
    let (xs, rest) ← take r.length r
    return (.items xs, rest)
  | .clear => .ok (.done, r.clear)
  | .trim => do return (.done, ← trim r)
  | .peek i => do return (.item (← get? r i), r)
  | .contains x => do return (.flag ((← toList r).any (· == x)), r)
  | .countWhere test => do return (.number ((← toList r).countP test), r)
  | .length => .ok (.number r.length, r)
  | .isEmpty => .ok (.flag r.isEmpty, r)
  | .snapshot => do return (.items (← toList r), r)

def run [BEq α] (r : Ring α) :
    List (RingOperation α) → Except Fault (List (RingAnswer α) × Ring α)
  | [] => .ok ([], r)
  | op :: rest => do
    let (answer, r) ← step r op
    let (answers, r) ← run r rest
    return (answer :: answers, r)

def origin : RingOrigin α → Except Fault (Ring α)
  | .new => .ok .empty
  | .withCapacity capacity => .ok (.withCapacity capacity)
  | .ofList xs => append (.withCapacity (max xs.length leastGrowth)) xs

/-! ### Accesses -/

variable {r : Ring α}

theorem remainder_eq {b : Nat} (h : 0 < b) (a : Nat) : remainder a b = .ok (a % b) :=
  if_neg (Nat.ne_of_gt h)

theorem read_eq {slots : Array (Option α)} {i : Nat} {cell : Option α}
    (h : slots[i]? = some cell) : read slots i = .ok cell := by
  rw [read, h]

theorem write_eq {slots : Array (Option α)} {i : Nat} (h : i < slots.size) (cell : Option α) :
    write slots i cell = .ok (slots.setIfInBounds i cell) :=
  if_pos h

theorem slotOf_eq (hcapacity : 0 < r.capacity) (i : Nat) : slotOf r i = .ok (r.slotOf i) :=
  remainder_eq hcapacity _

theorem ok_bind {β γ : Type} (b : β) (f : β → Except Fault γ) : (Except.ok b >>= f) = f b := rfl

theorem mapM_eq {β γ : Type} {f : β → Except Fault γ} {g : β → γ} {l : List β}
    (h : ∀ b ∈ l, f b = .ok (g b)) : l.mapM f = .ok (l.map g) := by
  induction l with
  | nil => rfl
  | cons b rest ih =>
    obtain ⟨hfirst, hrest⟩ := List.forall_mem_cons.1 h
    rw [List.mapM_cons, hfirst, ih hrest]
    rfl

/-- A slot in the window is there, and read. -/
theorem read_slotOf (h : r.Packed) {i : Nat} (hi : i < r.length) :
    (do
      let slot ← slotOf r i
      read r.slots slot) = .ok (r.get? i) := by
  rw [slotOf_eq (Nat.zero_lt_of_lt (Nat.lt_of_lt_of_le hi h.fits)), ok_bind]
  exact read_eq (h.slots_slotOf hi)

theorem get?_eq (h : r.Packed) (i : Nat) : get? r i = .ok (r.get? i) := by
  by_cases hi : r.length ≤ i
  · rw [get?, if_pos hi, get?_of_le hi]
  · rw [get?, if_neg hi, read_slotOf h (Nat.lt_of_not_le hi)]

theorem toList_eq (h : r.Packed) : toList r = .ok r.toList := by
  rw [toList, mapM_eq fun i _ => get?_eq h i, Ring.toList]
  change Except.ok (((List.range r.length).map r.get?).filterMap id) = _
  rw [List.filterMap_map]
  rfl

/-! ### Adding items -/

theorem reallocate_eq (h : r.Packed) {capacity : Nat} (hroom : r.length ≤ capacity) :
    reallocate r capacity = .ok (r.reallocate capacity) := by
  rw [reallocate, if_neg (Nat.not_lt_of_le hroom),
    mapM_eq fun i hi => read_slotOf h (List.mem_range.1 hi)]
  rfl

theorem reserve_eq (h : r.Packed) (additional : Nat) :
    reserve r additional = .ok (r.reserve additional) := by
  by_cases hroom : r.length + additional ≤ r.capacity
  · rw [reserve, if_pos hroom, Ring.reserve, if_pos hroom]
  · have hdoubled := le_doubled (max r.capacity leastGrowth) (r.length + additional)
      (Nat.lt_of_lt_of_le (by decide) (Nat.le_max_right _ _))
    rw [reserve, if_neg hroom, Ring.reserve, if_neg hroom]
    exact reallocate_eq h (by omega)

theorem pushBack_eq (h : r.Packed) (x : α) : pushBack r x = .ok (r.pushBack x) := by
  have hcapacity : 0 < (r.reserve 1).capacity := Nat.zero_lt_of_lt r.reserve_one_room
  have hslot : (r.reserve 1).slotOf (r.reserve 1).length < (r.reserve 1).slots.size :=
    slotOf_lt hcapacity _
  rw [pushBack, reserve_eq h, ok_bind, slotOf_eq hcapacity, ok_bind, write_eq hslot, ok_bind]
  rfl

theorem pushFront_eq (h : r.Packed) (x : α) : pushFront r x = .ok (r.pushFront x) := by
  have hcapacity : 0 < (r.reserve 1).capacity := Nat.zero_lt_of_lt r.reserve_one_room
  have hslot : ((r.reserve 1).head + (r.reserve 1).capacity - 1) % (r.reserve 1).capacity <
      (r.reserve 1).slots.size := Nat.mod_lt _ hcapacity
  rw [pushFront, reserve_eq h, ok_bind, remainder_eq hcapacity, ok_bind, write_eq hslot, ok_bind]
  rfl

/-- Pushes that are checked one by one are checked in a row, as each leaves a tidy ring. -/
theorem foldlM_eq {checked : Ring α → α → Except Fault (Ring α)} {push : Ring α → α → Ring α}
    (hpush : ∀ r x, r.Tidy → checked r x = .ok (push r x) ∧ (push r x).Tidy) (h : r.Tidy)
    (xs : List α) : xs.foldlM checked r = .ok (xs.foldl push r) := by
  induction xs generalizing r with
  | nil => rfl
  | cons x rest ih =>
    obtain ⟨hfirst, htidy⟩ := hpush r x h
    rw [List.foldlM_cons, hfirst, ok_bind, ih htidy]
    rfl

theorem append_eq (h : r.Tidy) (xs : List α) : append r xs = .ok (r.append xs) := by
  rw [append, reserve_eq h.toPacked, ok_bind]
  exact foldlM_eq (fun r x hr => ⟨pushBack_eq hr.toPacked x, hr.pushBack x⟩) (h.reserve _) xs

theorem prepend_eq (h : r.Tidy) (xs : List α) : prepend r xs = .ok (r.prepend xs) := by
  rw [prepend, reserve_eq h.toPacked, ok_bind]
  exact foldlM_eq (fun r x hr => ⟨pushFront_eq hr.toPacked x, hr.pushFront x⟩) (h.reserve _) _

theorem origin_eq (start : RingOrigin α) : origin start = .ok start.ring := by
  rcases start with _ | capacity | xs
  · rfl
  · rfl
  · exact append_eq (tidy_withCapacity _) xs

/-! ### Taking items -/

/-- The front item is read at the head, which is its slot in a tidy ring. -/
theorem popFront_eq (h : r.Tidy) : popFront r = .ok r.popFront := by
  by_cases hempty : r.length = 0
  · rw [popFront, if_pos hempty, Ring.popFront, get?_of_le (Nat.le_of_eq hempty)]
  · have hsome : 0 < r.length := Nat.pos_of_ne_zero hempty
    have hcapacity : 0 < r.capacity := Nat.lt_of_lt_of_le hsome h.fits
    obtain ⟨x, hx⟩ := Option.isSome_iff_exists.1 (h.filled 0 hsome)
    have hcell : r.slots[r.head]? = some (some x) := by
      rw [← h.slotOf_zero hcapacity, h.slots_slotOf hsome, hx]
    rw [popFront, if_neg hempty, read_eq hcell, ok_bind, write_eq (h.head_lt hcapacity), ok_bind,
      remainder_eq hcapacity, ok_bind, Ring.popFront, hx]
    rfl

theorem popBack_eq (h : r.Tidy) : popBack r = .ok r.popBack := by
  by_cases hempty : r.length = 0
  · have hnone : r.length ≤ r.length - 1 := by omega
    rw [popBack, if_pos hempty, Ring.popBack, get?_of_le hnone]
  · have hlast : r.length - 1 < r.length := by omega
    have hcapacity : 0 < r.capacity := Nat.zero_lt_of_lt (Nat.lt_of_lt_of_le hlast h.fits)
    obtain ⟨x, hx⟩ := Option.isSome_iff_exists.1 (h.filled _ hlast)
    have hcell := h.slots_slotOf hlast
    rw [popBack, if_neg hempty, slotOf_eq hcapacity, ok_bind, read_eq hcell, ok_bind,
      write_eq (slotOf_lt hcapacity _), ok_bind, Ring.popBack, hx]
    rfl

theorem take_eq (h : r.Tidy) (n : Nat) : take n r = .ok (r.take n) := by
  induction n generalizing r with
  | zero => rfl
  | succ n ih =>
    have hrest := h.popFront
    rw [take, popFront_eq h, ok_bind, Ring.take]
    rcases hpop : r.popFront with ⟨_ | x, rest⟩
    · rfl
    · rw [hpop] at hrest
      simp only [ih hrest]
      rfl

theorem trim_eq (h : r.Tidy) : trim r = .ok r.trim := by
  by_cases hlarge : r.length < r.capacity
  · rw [trim, if_pos hlarge, Ring.trim, if_pos hlarge]
    exact reallocate_eq h.toPacked (Nat.le_refl _)
  · rw [trim, if_neg hlarge, Ring.trim, if_neg hlarge]

/-! ### Steps and runs -/

variable [BEq α]

theorem step_eq (h : r.Tidy) (op : RingOperation α) : step r op = .ok (r.step op) := by
  cases op with
  | add x => rw [step, pushBack_eq h.toPacked]; rfl
  | addFront x => rw [step, pushFront_eq h.toPacked]; rfl
  | addRange xs => rw [step, append_eq h]; rfl
  | addRangeFront xs => rw [step, prepend_eq h]; rfl
  | dequeue =>
    rw [step, popFront_eq h, ok_bind, Ring.step, Ring.dequeue]
    rcases h.popFront_cases with ⟨-, hpop⟩ | ⟨x, -, hpop⟩
    · rw [hpop]
      rfl
    · rw [hpop]
      rfl
  | dequeueBack =>
    rw [step, popBack_eq h, ok_bind, Ring.step, Ring.dequeueBack]
    rcases h.popBack_cases with ⟨-, hpop⟩ | ⟨x, -, hpop⟩
    · rw [hpop]
      rfl
    · rw [hpop]
      rfl
  | dequeueRange n => rw [step, take_eq h]; rfl
  | drain => rw [step, take_eq h]; rfl
  | trim => rw [step, trim_eq h]; rfl
  | peek i => rw [step, get?_eq h.toPacked]; rfl
  | contains | countWhere | snapshot => rw [step, toList_eq h.toPacked]; rfl
  | clear | length | isEmpty => rfl

theorem run_eq (h : r.Tidy) (ops : List (RingOperation α)) : run r ops = .ok (r.run ops) := by
  induction ops generalizing r with
  | nil => rfl
  | cons op rest ih =>
    obtain ⟨-, htidy, -⟩ := h.step op
    rw [run, step_eq h, ok_bind]
    simp only [ih htidy]
    rfl

end Ring.Checked

/-- A ring that is made in any of the ways and then goes through any operations returns just what a
list would return. No access on the way leaves the buffer or divides by zero. In the end, and so at
any time, the slots hold the items of the list. -/
theorem RingOrigin.run_as_list [BEq α] (origin : RingOrigin α) (ops : List (RingOperation α)) :
    (do
      let r ← Ring.Checked.origin origin
      Ring.Checked.run r ops) = .ok (origin.ring.run ops) ∧
      (origin.ring.run ops).1 = (RingOperation.runOnList origin.items ops).1 ∧
      (origin.ring.run ops).2.Holds (RingOperation.runOnList origin.items ops).2 := by
  have htidy := origin.tidy_ring
  obtain ⟨hanswers, hlast, hitems⟩ := htidy.run ops
  rw [origin.toList_ring] at hanswers hitems
  refine ⟨?_, hanswers, hitems ▸ hlast.holds⟩
  rw [Ring.Checked.origin_eq, Ring.Checked.ok_bind, Ring.Checked.run_eq htidy]

-- the buffer wraps around, is trimmed to nothing, and grows again in front
example :
    ((RingOrigin.withCapacity 2).ring.run [.addRange [1, 2], .dequeue, .add 3, .snapshot, .drain,
      .trim, .dequeueBack, .addFront 4, .addRangeFront [5, 6], .peek 1]).1 =
      [.done, .taken (.ok 1), .done, .items [2, 3], .items [2, 3], .done,
        .taken (.error .underflow), .done, .done, .item (some 6)] := by decide +kernel

end SensorRouter
