import SensorRouter.Proofs.Ring.Sequence

/-!
The capacity of a ring. It grows by doubling when items are added and shrinks only when the ring is
trimmed. Doubling for a need and then for a larger one ends where doubling for the larger one at once
does, and so a batch leaves the same contents and the same capacity as its items one by one.
-/

namespace SensorRouter

namespace Ring

universe u

variable {α : Type u} {r : Ring α} {capacity m n : Nat}

/-! ### Doubling -/

/-- Doubling leads to the first multiple that is enough. -/
theorem isLeast_doubled (hpos : 0 < capacity) (needed : Nat) :
    IsLeast {c | needed ≤ c ∧ ∃ k, c = capacity * 2 ^ k} (doubled capacity needed) := by
  fun_induction doubled capacity needed with
  | case1 capacity hshort ih =>
    obtain ⟨⟨hneeded, k, hk⟩, hleast⟩ := ih (by omega)
    refine ⟨⟨hneeded, k + 1, ?_⟩, ?_⟩
    · rw [hk, Nat.pow_succ']
      ring
    · rintro c ⟨hc, j, rfl⟩
      cases j with
      | zero => omega
      | succ j =>
        refine hleast ⟨hc, j, ?_⟩
        rw [Nat.pow_succ']
        ring
  | case2 capacity henough =>
    refine ⟨⟨by omega, 0, (Nat.mul_one _).symm⟩, ?_⟩
    rintro c ⟨-, j, rfl⟩
    exact Nat.le_mul_of_pos_right capacity (Nat.two_pow_pos j)

/-- Doubling for a need on the way to a larger one makes no difference. -/
theorem doubled_doubled (h : m ≤ n) : doubled (doubled capacity m) n = doubled capacity n := by
  fun_induction doubled capacity m with
  | case1 capacity hshort ih =>
    have hstep : doubled capacity n = doubled (2 * capacity) n := by
      rw [doubled, if_pos ⟨by omega, hshort.2⟩]
    rw [hstep]
    exact ih
  | case2 => rfl

/-- The capacity after making room for `needed` items. -/
def grown (capacity needed : Nat) : Nat :=
  if needed ≤ capacity then capacity else doubled (max capacity leastGrowth) needed

theorem grown_of_le (h : n ≤ capacity) : grown capacity n = capacity :=
  if_pos h

theorem grown_of_lt (h : capacity < n) : grown capacity n = doubled (max capacity leastGrowth) n :=
  if_neg (Nat.not_le_of_lt h)

theorem max_leastGrowth_pos (capacity : Nat) : 0 < max capacity leastGrowth :=
  Nat.lt_of_lt_of_le (by decide) (Nat.le_max_right _ _)

theorem le_grown (capacity needed : Nat) : needed ≤ grown capacity needed := by
  unfold grown
  split
  · assumption
  · exact le_doubled _ _ (max_leastGrowth_pos capacity)

/-- Making room for some items on the way to more makes no difference. -/
theorem grown_grown (h : m ≤ n) : grown (grown capacity m) n = grown capacity n := by
  by_cases hroom : m ≤ capacity
  · rw [grown_of_le hroom]
  · have hcapacity : capacity < n := by omega
    rw [grown_of_lt hcapacity, grown_of_lt (Nat.lt_of_not_le hroom), ← doubled_doubled h]
    -- the larger need is met already, or doubling goes on from a capacity that is large enough
    obtain ⟨⟨-, k, hk⟩, -⟩ := isLeast_doubled (max_leastGrowth_pos capacity) m
    have hlarge : leastGrowth ≤ doubled (max capacity leastGrowth) m := by
      rw [hk]
      exact (Nat.le_max_right _ _).trans (Nat.le_mul_of_pos_right _ (Nat.two_pow_pos k))
    generalize doubled (max capacity leastGrowth) m = first at hlarge ⊢
    by_cases hmet : n ≤ first
    · rw [grown_of_le hmet, doubled, if_neg (by omega)]
    · rw [grown_of_lt (Nat.lt_of_not_le hmet), Nat.max_eq_left hlarge]

/-! ### Adding items -/

theorem capacity_reserve (r : Ring α) (additional : Nat) :
    (r.reserve additional).capacity = grown r.capacity (r.length + additional) := by
  have hneeded := le_grown r.capacity (r.length + additional)
  unfold reserve grown at *
  split
  · rfl
  · rename_i hroom
    rw [if_neg hroom] at hneeded
    rw [capacity_reallocate]
    omega

/-- Adds one item and makes room for it if there is none. -/
structure Pushes (push : Ring α → α → Ring α) : Prop where
  length : ∀ r x, (push r x).length = r.length + 1
  capacity : ∀ r x, (push r x).capacity = grown r.capacity (r.length + 1)

theorem pushes_pushBack : Pushes (pushBack (α := α)) where
  length r _ := congrArg (· + 1) (r.length_reserve 1)
  capacity r x := ((r.reserve 1).capacity_place x).trans (r.capacity_reserve 1)

theorem pushes_pushFront : Pushes (pushFront (α := α)) where
  length r _ := congrArg (· + 1) (r.length_reserve 1)
  capacity r x := ((r.reserve 1).capacity_placeFront x).trans (r.capacity_reserve 1)

/-- Items that are added one by one end at the capacity for all of them. -/
theorem Pushes.capacity_foldl {push : Ring α → α → Ring α} (h : Pushes push)
    (hfits : r.length ≤ r.capacity) (xs : List α) :
    (xs.foldl push r).capacity = grown r.capacity (r.length + xs.length) := by
  induction xs generalizing r with
  | nil => exact (grown_of_le hfits).symm
  | cons x rest ih =>
    have hpushed : (push r x).length ≤ (push r x).capacity := by
      rw [h.length, h.capacity]
      exact le_grown _ _
    have hcount : r.length + 1 + rest.length = r.length + (x :: rest).length := by
      rw [List.length_cons]
      omega
    rw [List.foldl_cons, ih hpushed, h.length, h.capacity, hcount]
    exact grown_grown (by rw [List.length_cons]; omega)

/-- So do items for which room is made at once. -/
theorem Pushes.capacity_foldl_reserve {push : Ring α → α → Ring α} (h : Pushes push) (r : Ring α)
    {xs : List α} (hn : xs.length = n) :
    (xs.foldl push (r.reserve n)).capacity = grown r.capacity (r.length + n) := by
  have hfits : (r.reserve n).length ≤ (r.reserve n).capacity := by
    rw [length_reserve]
    exact Nat.le_of_add_right_le (r.room_reserve n)
  rw [h.capacity_foldl hfits, length_reserve, capacity_reserve, hn]
  exact grown_grown (Nat.le_refl _)

theorem capacity_append (r : Ring α) (xs : List α) :
    (r.append xs).capacity = grown r.capacity (r.length + xs.length) :=
  pushes_pushBack.capacity_foldl_reserve r rfl

theorem capacity_prepend (r : Ring α) (xs : List α) :
    (r.prepend xs).capacity = grown r.capacity (r.length + xs.length) :=
  pushes_pushFront.capacity_foldl_reserve r List.length_reverse

/-! ### Taking items -/

theorem capacity_popFront (r : Ring α) : r.popFront.2.capacity = r.capacity := by
  unfold popFront
  split
  · rfl
  · exact r.capacity_dropFront

theorem capacity_popBack (r : Ring α) : r.popBack.2.capacity = r.capacity := by
  unfold popBack
  split
  · rfl
  · exact r.capacity_dropBack

theorem capacity_take (r : Ring α) (n : Nat) : (r.take n).2.capacity = r.capacity := by
  induction n generalizing r with
  | zero => rfl
  | succ n ih =>
    have hrest := r.capacity_popFront
    rw [take]
    rcases hpop : r.popFront with ⟨_ | x, rest⟩
    · rwa [hpop] at hrest
    · rw [hpop] at hrest
      exact (ih rest).trans hrest

theorem capacity_clear (r : Ring α) : r.clear.capacity = r.capacity :=
  Array.size_replicate

theorem capacity_trim (hfits : r.length ≤ r.capacity) : r.trim.capacity = r.length := by
  unfold trim
  split
  · rw [capacity_reallocate, Nat.sub_self, Nat.add_zero]
  · omega

end Ring

/-! ### Steps -/

variable {α : Type}

/-- The number of items that an operation adds. -/
def RingOperation.inserted : RingOperation α → Nat
  | add _ | addFront _ => 1
  | addRange xs | addRangeFront xs => xs.length
  | _ => 0

/-- The capacity after an operation on a ring of some capacity and length. -/
def RingOperation.capacityAfter (capacity length : Nat) : RingOperation α → Nat
  | trim => length
  | op => Ring.grown capacity (length + op.inserted)

theorem RingOperation.capacityAfter_of_ne_trim {op : RingOperation α} (h : op ≠ .trim)
    (capacity length : Nat) :
    op.capacityAfter capacity length = Ring.grown capacity (length + op.inserted) := by
  cases op with
  | trim => exact absurd rfl h
  | _ => rfl

namespace Ring

variable {r : Ring α}

theorem step_dequeue [BEq α] (r : Ring α) :
    r.step .dequeue = (.taken (r.popFront.1.elim (.error .underflow) .ok), r.popFront.2) := by
  unfold step dequeue popFront
  cases r.get? 0 <;> rfl

theorem step_dequeueBack [BEq α] (r : Ring α) :
    r.step .dequeueBack = (.taken (r.popBack.1.elim (.error .underflow) .ok), r.popBack.2) := by
  unfold step dequeueBack popBack
  cases r.get? (r.length - 1) <;> rfl

/-- The capacity after an operation depends on the capacity and the number of items before. -/
theorem capacity_step [BEq α] (hfits : r.length ≤ r.capacity) (op : RingOperation α) :
    (r.step op).2.capacity = op.capacityAfter r.capacity r.length := by
  have hkept : grown r.capacity (r.length + 0) = r.capacity := grown_of_le hfits
  cases op with
  | add x => exact pushes_pushBack.capacity r x
  | addFront x => exact pushes_pushFront.capacity r x
  | addRange xs => exact r.capacity_append xs
  | addRangeFront xs => exact r.capacity_prepend xs
  | trim => exact capacity_trim hfits
  | dequeue =>
    rw [step_dequeue]
    exact r.capacity_popFront.trans hkept.symm
  | dequeueBack =>
    rw [step_dequeueBack]
    exact r.capacity_popBack.trans hkept.symm
  | dequeueRange n => exact (r.capacity_take n).trans hkept.symm
  | drain => exact (r.capacity_take r.length).trans hkept.symm
  | clear => exact r.capacity_clear.trans hkept.symm
  | peek | contains | countWhere | length | isEmpty | snapshot => exact hkept.symm

/-- What an operation does to the capacity. -/
structure Resizes (before : Ring α) (op : RingOperation α) (after : Ring α) : Prop where
  /-- There is a slot for every item. -/
  fits : after.length ≤ after.capacity
  /-- Items for which there is no room double the capacity, from four on, until there is. -/
  grown : before.capacity < before.length + op.inserted →
    IsLeast {c | before.length + op.inserted ≤ c ∧ ∃ k, c = max before.capacity 4 * 2 ^ k}
      after.capacity
  /-- Trimming leaves the slots of the items. -/
  trimmed : op = .trim → after.capacity = after.length ∧ after.length = before.length
  /-- All else, as taking items and clearing, leaves the capacity as it is. -/
  kept : op ≠ .trim → before.length + op.inserted ≤ before.capacity →
    after.capacity = before.capacity

theorem Tidy.resizes [BEq α] (h : r.Tidy) (op : RingOperation α) : r.Resizes op (r.step op).2 := by
  obtain ⟨-, htidy, -⟩ := h.step op
  have hcapacity := capacity_step h.fits op
  constructor
  case fits => exact htidy.fits
  case grown =>
    intro hshort
    have hop : op ≠ .trim := by
      rintro rfl
      exact Nat.not_le_of_lt hshort h.fits
    rw [hcapacity, RingOperation.capacityAfter_of_ne_trim hop, grown_of_lt hshort]
    exact isLeast_doubled (max_leastGrowth_pos _) _
  case trimmed =>
    rintro rfl
    have hlength : r.trim.length = r.length := by
      rw [← h.trim.length_toList, toList_trim, h.length_toList]
    exact ⟨hcapacity.trans hlength.symm, hlength⟩
  case kept =>
    intro hop hroom
    rw [hcapacity, RingOperation.capacityAfter_of_ne_trim hop, grown_of_le hroom]

/-! ### Batches -/

/-- The same contents and the same capacity, wherever in the buffer the items stand. -/
structure SameContents (r s : Ring α) : Prop where
  items : r.toList = s.toList
  capacity : r.capacity = s.capacity

/-- A ring does with a batch what it does with one item after another. -/
structure TakesBatches [BEq α] (r : Ring α) : Prop where
  addRange : ∀ xs, (r.step (.addRange xs)).2.SameContents (r.run (xs.map .add)).2
  addRangeFront : ∀ xs,
    (r.step (.addRangeFront xs)).2.SameContents (r.run (xs.reverse.map .addFront)).2
  /-- The items returned are those that as many single operations take, and there are `n` of them
  unless no item is left. -/
  dequeueRange : ∀ n, ∃ xs rest, r.step (.dequeueRange n) = (.items xs, rest) ∧
    r.run (List.replicate xs.length .dequeue) = (xs.map fun x => .taken (.ok x), rest) ∧
    (xs.length = n ∨ xs.length < n ∧ rest.step .dequeue = (.taken (.error .underflow), rest))

theorem sameContents_append (hfits : r.length ≤ r.capacity) (xs : List α) :
    (r.append xs).SameContents (xs.foldl pushBack r) where
  items := (r.toList_append xs).trans (toList_foldl_pushBack xs r).symm
  capacity := (r.capacity_append xs).trans (pushes_pushBack.capacity_foldl hfits xs).symm

theorem sameContents_prepend (hfits : r.length ≤ r.capacity) (xs : List α) :
    (r.prepend xs).SameContents (xs.reverse.foldl pushFront r) where
  items := by rw [toList_prepend, toList_foldl_pushFront, List.reverse_reverse]
  capacity := by rw [capacity_prepend, pushes_pushFront.capacity_foldl hfits, List.length_reverse]

theorem eq_of_popFront_eq_none {rest : Ring α} (h : r.popFront = (none, rest)) : rest = r := by
  unfold popFront at h
  split at h
  · exact (congrArg Prod.snd h).symm
  · cases h

variable [BEq α]

/-- Operations of one kind in a row are a fold of what one of them does. -/
theorem run_map {push : Ring α → α → Ring α} {op : α → RingOperation α}
    (hstep : ∀ r x, (step r (op x)).2 = push r x) (r : Ring α) (xs : List α) :
    (r.run (xs.map op)).2 = xs.foldl push r := by
  induction xs generalizing r with
  | nil => rfl
  | cons x rest ih =>
    rw [List.map_cons, run, List.foldl_cons, ← hstep]
    exact ih _

/-- The items of a batch are what that many single operations take, and the next one finds none if
there are fewer than asked for. -/
theorem run_dequeue_take (r : Ring α) (n : Nat) :
    r.run (List.replicate (r.take n).1.length .dequeue) =
        ((r.take n).1.map fun x => .taken (.ok x), (r.take n).2) ∧
      ((r.take n).1.length = n ∨ (r.take n).1.length < n ∧
        (r.take n).2.step .dequeue = (.taken (.error .underflow), (r.take n).2)) := by
  induction n generalizing r with
  | zero => exact ⟨rfl, .inl rfl⟩
  | succ n ih =>
    rw [take]
    rcases hpop : r.popFront with ⟨_ | x, rest⟩
    · obtain rfl := eq_of_popFront_eq_none hpop
      refine ⟨rfl, .inr ⟨Nat.succ_pos n, ?_⟩⟩
      rw [step_dequeue, hpop]
      rfl
    · obtain ⟨hrun, hcount⟩ := ih rest
      constructor
      · change r.run (.dequeue :: List.replicate (rest.take n).1.length .dequeue) = _
        rw [run, step_dequeue, hpop]
        simp only [hrun]
        rfl
      · rcases hcount with hall | ⟨hfewer, hunderflow⟩
        · exact .inl (congrArg (· + 1) hall)
        · exact .inr ⟨Nat.succ_lt_succ hfewer, hunderflow⟩

theorem Tidy.takesBatches (h : r.Tidy) : r.TakesBatches where
  addRange xs := by
    rw [run_map fun _ _ => rfl]
    exact sameContents_append h.fits xs
  addRangeFront xs := by
    rw [run_map fun _ _ => rfl]
    exact sameContents_prepend h.fits xs
  dequeueRange n := ⟨_, _, rfl, r.run_dequeue_take n⟩

end Ring

/-- At any time of a run a ring takes batches as it takes single items, there is a slot for every
item, and the next operation changes the capacity only by doubling it for items that are added or by
trimming it to the items. -/
theorem RingOrigin.run_capacity [BEq α] (origin : RingOrigin α) (ops : List (RingOperation α)) :
    let r := (origin.ring.run ops).2
    r.TakesBatches ∧ r.length ≤ r.capacity ∧ ∀ op, r.Resizes op (r.step op).2 := by
  intro r
  obtain ⟨-, htidy, -⟩ := origin.tidy_ring.run ops
  exact ⟨htidy.takesBatches, htidy.fits, htidy.resizes⟩

-- three slots grow from four on; trimmed to the five items they grow from five
example :
    let r := ((RingOrigin.withCapacity 3).ring.run
      [.addRange [1, 2, 3], .dequeue, .addRangeFront [4, 5, 6]]).2
    (r.capacity, r.trim.capacity, (r.trim.pushBack 7).capacity) = (8, 5, 10) := by decide +kernel

end SensorRouter
