import SensorRouter.Proofs.Ring.Window

/-!
A ring is a list. An operation on a ring returns what it would return on the list of its items, and
leaves a ring of the items that it would leave in the list. So no run of operations can tell the two
apart.
-/

namespace SensorRouter

variable {α : Type}

/-- Operations on items in a row with two ends. -/
inductive RingOperation (α : Type) where
  | add (x : α)
  | addFront (x : α)
  | addRange (xs : List α)
  | addRangeFront (xs : List α)
  | dequeue
  | dequeueBack
  | dequeueRange (n : Nat)
  | drain
  | clear
  | trim
  | peek (i : Nat)
  | contains (x : α)
  | countWhere (test : α → Bool)
  | length
  | isEmpty
  | snapshot

/-- What an operation returns. -/
inductive RingAnswer (α : Type) where
  | done
  | taken (result : Except Ring.Error α)
  | items (items : List α)
  | item (item : Option α)
  | flag (value : Bool)
  | number (value : Nat)
  deriving DecidableEq

/-- The ways to make a ring. -/
inductive RingOrigin (α : Type) where
  | new
  | withCapacity (capacity : Nat)
  | ofList (xs : List α)

namespace RingOrigin

def ring : RingOrigin α → Ring α
  | new => .empty
  | withCapacity capacity => .withCapacity capacity
  | ofList xs => .ofList xs

def items : RingOrigin α → List α
  | new | withCapacity _ => []
  | ofList xs => xs

end RingOrigin

namespace RingOperation

variable [BEq α]

/-- What an operation returns on a list, and the list afterwards. -/
def onList (xs : List α) : RingOperation α → RingAnswer α × List α
  | add x => (.done, xs ++ [x])
  | addFront x => (.done, x :: xs)
  | addRange added => (.done, xs ++ added)
  | addRangeFront added => (.done, added ++ xs)
  | dequeue =>
    match xs.head? with
    | none => (.taken (.error .underflow), xs)
    | some x => (.taken (.ok x), xs.tail)
  | dequeueBack =>
    match xs.getLast? with
    | none => (.taken (.error .underflow), xs)
    | some x => (.taken (.ok x), xs.dropLast)
  | dequeueRange n => (.items (xs.take n), xs.drop n)
  | drain => (.items xs, [])
  | clear => (.done, [])
  | trim => (.done, xs)
  | peek i => (.item xs[i]?, xs)
  | contains x => (.flag (xs.any (· == x)), xs)
  | countWhere test => (.number (xs.countP test), xs)
  | length => (.number xs.length, xs)
  | isEmpty => (.flag xs.isEmpty, xs)
  | snapshot => (.items xs, xs)

/-- What the operations of a run return on a list, and the list at the end. -/
def runOnList (xs : List α) : List (RingOperation α) → List (RingAnswer α) × List α
  | [] => ([], xs)
  | op :: rest =>
    let later := runOnList (op.onList xs).2 rest
    ((op.onList xs).1 :: later.1, later.2)

end RingOperation

namespace Ring

section Operations

variable [BEq α]

/-- What an operation returns on a ring, and the ring afterwards. -/
def step (r : Ring α) : RingOperation α → RingAnswer α × Ring α
  | .add x => (.done, r.pushBack x)
  | .addFront x => (.done, r.pushFront x)
  | .addRange xs => (.done, r.append xs)
  | .addRangeFront xs => (.done, r.prepend xs)
  | .dequeue =>
    match r.dequeue with
    | .error e => (.taken (.error e), r)
    | .ok (x, rest) => (.taken (.ok x), rest)
  | .dequeueBack =>
    match r.dequeueBack with
    | .error e => (.taken (.error e), r)
    | .ok (x, rest) => (.taken (.ok x), rest)
  | .dequeueRange n => (.items (r.take n).1, (r.take n).2)
  | .drain => (.items r.drain.1, r.drain.2)
  | .clear => (.done, r.clear)
  | .trim => (.done, r.trim)
  | .peek i => (.item (r.get? i), r)
  | .contains x => (.flag (r.contains x), r)
  | .countWhere test => (.number (r.countWhere test), r)
  | .length => (.number r.length, r)
  | .isEmpty => (.flag r.isEmpty, r)
  | .snapshot => (.items r.toList, r)

/-- What the operations of a run return on a ring, and the ring at the end. -/
def run (r : Ring α) : List (RingOperation α) → List (RingAnswer α) × Ring α
  | [] => ([], r)
  | op :: rest =>
    let later := (r.step op).2.run rest
    ((r.step op).1 :: later.1, later.2)

end Operations

variable {r : Ring α}

theorem Tidy.dequeue_cases (h : r.Tidy) :
    (r.toList = [] ∧ r.dequeue = .error .underflow) ∨
      ∃ x rest, r.toList = x :: rest.toList ∧ rest.Tidy ∧ r.dequeue = .ok (x, rest) := by
  have hrest := h.popFront
  rcases h.popFront_cases with ⟨hnil, hpop⟩ | ⟨x, hcons, hpop⟩
  · exact .inl ⟨hnil, by rw [dequeue, hpop]⟩
  · rw [hpop] at hrest
    exact .inr ⟨x, r.dropFront, hcons, hrest, by rw [dequeue, hpop]⟩

theorem Tidy.dequeueBack_cases (h : r.Tidy) :
    (r.toList = [] ∧ r.dequeueBack = .error .underflow) ∨
      ∃ x, r.toList.getLast? = some x ∧ r.dequeueBack = .ok (x, r.dropBack) := by
  rcases h.popBack_cases with ⟨hnil, hpop⟩ | ⟨x, hlast, hpop⟩
  · exact .inl ⟨hnil, by rw [dequeueBack, hpop]⟩
  · exact .inr ⟨x, hlast, by rw [dequeueBack, hpop]⟩

/-- An operation does to a ring what it does to the list of its items. -/
theorem Tidy.step [BEq α] (h : r.Tidy) (op : RingOperation α) :
    (r.step op).1 = (op.onList r.toList).1 ∧ (r.step op).2.Tidy ∧
      (r.step op).2.toList = (op.onList r.toList).2 := by
  cases op with
  | add x => exact ⟨rfl, h.pushBack x, r.toList_pushBack x⟩
  | addFront x => exact ⟨rfl, h.pushFront x, r.toList_pushFront x⟩
  | addRange xs => exact ⟨rfl, h.append xs, r.toList_append xs⟩
  | addRangeFront xs => exact ⟨rfl, h.prepend xs, r.toList_prepend xs⟩
  | dequeue =>
    rcases h.dequeue_cases with ⟨hnil, htaken⟩ | ⟨x, rest, hcons, hrest, htaken⟩
    · rw [Ring.step, htaken, RingOperation.onList, hnil]
      exact ⟨rfl, h, rfl⟩
    · rw [Ring.step, htaken, RingOperation.onList, hcons]
      exact ⟨rfl, hrest, rfl⟩
  | dequeueBack =>
    rcases h.dequeueBack_cases with ⟨hnil, htaken⟩ | ⟨x, hlast, htaken⟩
    · rw [Ring.step, htaken, RingOperation.onList, hnil]
      exact ⟨rfl, h, rfl⟩
    · rw [Ring.step, htaken, RingOperation.onList, hlast]
      exact ⟨rfl, h.dropBack, h.toList_dropBack⟩
  | dequeueRange n =>
    obtain ⟨htaken, hrest, -⟩ := h.take_spec n
    exact ⟨congrArg RingAnswer.items htaken, h.take n, hrest⟩
  | drain =>
    obtain ⟨htaken, hrest, -⟩ := h.drain_spec
    exact ⟨congrArg RingAnswer.items htaken, h.take _, hrest⟩
  | clear => exact ⟨rfl, tidy_withCapacity _, rfl⟩
  | trim => exact ⟨rfl, h.trim, r.toList_trim⟩
  | peek i => exact ⟨congrArg RingAnswer.item (h.getElem?_toList i).symm, h, rfl⟩
  | length => exact ⟨congrArg RingAnswer.number h.length_toList.symm, h, rfl⟩
  | isEmpty =>
    refine ⟨congrArg RingAnswer.flag ?_, h, rfl⟩
    rw [Ring.isEmpty, ← h.length_toList]
    cases r.toList <;> simp
  | contains | countWhere | snapshot => exact ⟨rfl, h, rfl⟩

/-- A run of operations does to a ring what it does to the list of its items. -/
theorem Tidy.run [BEq α] (h : r.Tidy) (ops : List (RingOperation α)) :
    (r.run ops).1 = (RingOperation.runOnList r.toList ops).1 ∧ (r.run ops).2.Tidy ∧
      (r.run ops).2.toList = (RingOperation.runOnList r.toList ops).2 := by
  induction ops generalizing r with
  | nil => exact ⟨rfl, h, rfl⟩
  | cons op rest ih =>
    obtain ⟨hanswer, htidy, hitems⟩ := h.step op
    obtain ⟨hanswers, hlast, hleft⟩ := ih htidy
    rw [hitems] at hanswers hleft
    exact ⟨congrArg₂ List.cons hanswer hanswers, hlast, hleft⟩

/-- The slots hold a list: from the head on and around the end of the buffer there are its items in
order, and all other slots are empty. -/
structure Holds (r : Ring α) (xs : List α) : Prop where
  length : r.length = xs.length
  fits : xs.length ≤ r.capacity
  head : r.head < max r.capacity 1
  window : ∀ i x, xs[i]? = some x → r.slots[(r.head + i) % r.capacity]? = some (some x)
  vacant : ∀ j < r.capacity, (∀ i < xs.length, (r.head + i) % r.capacity ≠ j) →
    r.slots[j]? = some none

theorem Tidy.holds (h : r.Tidy) : r.Holds r.toList where
  length := h.length_toList.symm
  fits := h.length_toList ▸ h.fits
  head := h.head
  window := by
    intro i x hx
    rw [h.getElem?_toList] at hx
    exact (h.slots_slotOf (length_pos_of_get? hx)).trans (congrArg some hx)
  vacant := by
    intro j hj hfree
    refine h.vacant j hj ?_
    rintro ⟨i, hi, hslot⟩
    exact hfree i (h.length_toList ▸ hi) hslot

end Ring

theorem RingOrigin.tidy_ring (origin : RingOrigin α) : origin.ring.Tidy := by
  rcases origin with _ | capacity | xs
  · exact Ring.tidy_withCapacity _
  · exact Ring.tidy_withCapacity capacity
  · exact Ring.tidy_ofList xs

theorem RingOrigin.toList_ring (origin : RingOrigin α) : origin.ring.toList = origin.items := by
  rcases origin with _ | capacity | xs
  · rfl
  · rfl
  · exact Ring.toList_ofList xs

end SensorRouter
