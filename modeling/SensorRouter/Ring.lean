/-!
A queue with two ends in a circular buffer. The items stand in consecutive slots from `head` on,
wrapping at the end of the buffer. The buffer doubles when it is full and shrinks only on request.
-/

namespace SensorRouter

universe u

structure Ring (α : Type u) where
  slots : Array (Option α)
  head : Nat
  length : Nat

namespace Ring

variable {α : Type u}

/-- The capacity of a ring that is made without one. -/
def defaultCapacity : Nat := 256

/-- The least capacity that growth leads to. -/
def leastGrowth : Nat := 4

def withCapacity (capacity : Nat) : Ring α where
  slots := Array.replicate capacity none
  head := 0
  length := 0

def empty : Ring α :=
  withCapacity defaultCapacity

instance : Inhabited (Ring α) := ⟨empty⟩

def capacity (r : Ring α) : Nat :=
  r.slots.size

/-- The slot of the item at a position counted from the front. -/
def slotOf (r : Ring α) (i : Nat) : Nat :=
  (r.head + i) % r.capacity

/-- The item at a position counted from the front. -/
def get? (r : Ring α) (i : Nat) : Option α :=
  if i < r.length then (r.slots[r.slotOf i]?).join else none

/-- The items from front to back. -/
def toList (r : Ring α) : List α :=
  (List.range r.length).filterMap r.get?

def isEmpty (r : Ring α) : Bool :=
  r.length = 0

/-- Moves the items to the front of a new buffer. -/
def reallocate (r : Ring α) (capacity : Nat) : Ring α where
  slots := ((List.range r.length).map r.get?).toArray ++
    Array.replicate (capacity - r.length) none
  head := 0
  length := r.length

/-- The first of `capacity`, `2 · capacity`, `4 · capacity`, … that is at least `needed`. -/
def doubled (capacity needed : Nat) : Nat :=
  if capacity < needed ∧ 0 < capacity then doubled (2 * capacity) needed else capacity
termination_by needed - capacity

/-- Makes room for further items. -/
def reserve (r : Ring α) (additional : Nat) : Ring α :=
  if r.length + additional ≤ r.capacity then r
  else r.reallocate (doubled (max r.capacity leastGrowth) (r.length + additional))

def pushBack (r : Ring α) (x : α) : Ring α :=
  let r := r.reserve 1
  { r with slots := r.slots.setIfInBounds (r.slotOf r.length) (some x), length := r.length + 1 }

def pushFront (r : Ring α) (x : α) : Ring α :=
  let r := r.reserve 1
  let head := (r.head + r.capacity - 1) % r.capacity
  { slots := r.slots.setIfInBounds head (some x), head, length := r.length + 1 }

/-- Adds items at the back, in order. -/
def append (r : Ring α) (xs : List α) : Ring α :=
  xs.foldl pushBack (r.reserve xs.length)

/-- Adds items in front, keeping their order: the first one becomes the front. -/
def prepend (r : Ring α) (xs : List α) : Ring α :=
  xs.reverse.foldl pushFront (r.reserve xs.length)

/-- A ring of the given items. -/
def ofList (xs : List α) : Ring α :=
  (withCapacity (max xs.length leastGrowth)).append xs

/-- The front item, if there is one, and the ring without it. -/
def popFront (r : Ring α) : Option α × Ring α :=
  match r.get? 0 with
  | none => (none, r)
  | some x =>
    let head := (r.head + 1) % r.capacity
    (some x, { slots := r.slots.setIfInBounds r.head none, head, length := r.length - 1 })

/-- The back item, if there is one, and the ring without it. -/
def popBack (r : Ring α) : Option α × Ring α :=
  match r.get? (r.length - 1) with
  | none => (none, r)
  | some x =>
    (some x, { r with
               slots := r.slots.setIfInBounds (r.slotOf (r.length - 1)) none
               length := r.length - 1 })

/-- Up to `n` items from the front, in order, and the ring without them. -/
def take : Nat → Ring α → List α × Ring α
  | 0, r => ([], r)
  | n + 1, r =>
    match r.popFront with
    | (none, r) => ([], r)
    | (some x, r) =>
      let (xs, r) := take n r
      (x :: xs, r)

theorem length_pos_of_get? {r : Ring α} {i : Nat} {x : α} (h : r.get? i = some x) :
    i < r.length := by
  unfold get? at h
  split at h
  · assumption
  · simp at h

theorem length_popFront (r : Ring α) :
    r.popFront.1.toList.length + r.popFront.2.length = r.length := by
  unfold popFront
  split
  · simp
  · rename_i h
    have := length_pos_of_get? h
    simp only [Option.toList_some, List.length_cons, List.length_nil]
    omega

/-- Taking loses no item. -/
theorem length_take (n : Nat) (r : Ring α) :
    (r.take n).1.length + (r.take n).2.length = r.length := by
  induction n generalizing r with
  | zero => simp [take]
  | succ n ih =>
    have hpop := length_popFront r
    unfold take
    split
    · rename_i h
      simpa [h] using hpop
    · rename_i x r' h
      have := ih r'
      simp only [h, Option.toList_some, List.length_cons, List.length_nil] at hpop ⊢
      omega

/-- All items, and the ring without them. -/
def drain (r : Ring α) : List α × Ring α :=
  r.take r.length

/-- Empties the ring and keeps its capacity. -/
def clear (r : Ring α) : Ring α :=
  withCapacity r.capacity

/-- Shrinks the buffer to the items it holds. -/
def trim (r : Ring α) : Ring α :=
  if r.length < r.capacity then r.reallocate r.length else r

/-- The number of items of which the test holds. -/
def countWhere (r : Ring α) (test : α → Bool) : Nat :=
  r.toList.countP test

def contains [BEq α] (r : Ring α) (x : α) : Bool :=
  r.toList.any (· == x)

/-- A one-line description: the number of items and of slots. -/
def describe (r : Ring α) : String :=
  "Deque \x7b len: " ++ toString r.length ++ ", capacity: " ++ toString r.capacity ++ " \x7d"

/-- Why an item cannot be taken. -/
inductive Error where
  | underflow
  deriving DecidableEq, Repr

def Error.message : Error → String
  | .underflow => "queue underflow: dequeue on an empty queue"

/-- Takes the front item. -/
def dequeue (r : Ring α) : Except Error (α × Ring α) :=
  match r.popFront with
  | (some x, r) => .ok (x, r)
  | (none, _) => .error .underflow

/-- Takes the back item. -/
def dequeueBack (r : Ring α) : Except Error (α × Ring α) :=
  match r.popBack with
  | (some x, r) => .ok (x, r)
  | (none, _) => .error .underflow

example : ((withCapacity 2).append [1, 2, 3]).capacity = 4 := by decide +kernel
example : (((ofList [1, 2, 3, 4]).take 3).2.append [5, 6]).toList = [4, 5, 6] := by decide +kernel

end Ring

end SensorRouter
