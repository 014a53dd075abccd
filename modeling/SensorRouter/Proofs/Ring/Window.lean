import SensorRouter.Proofs.Ring.Removal

/-!
The window of a ring: the slots of its items, in a row from the head on and around the end of the
buffer. Every operation keeps the items inside the window and the slots outside it empty, and does
to the contents what it would do to a list.
-/

namespace SensorRouter

namespace Ring

universe u

variable {α : Type u} {r : Ring α}

/-! ### Contents by position -/

theorem get?_of_lt {i : Nat} (h : i < r.length) : r.get? i = (r.slots[r.slotOf i]?).join :=
  if_pos h

theorem get?_of_le {i : Nat} (h : r.length ≤ i) : r.get? i = none :=
  if_neg (Nat.not_lt_of_le h)

/-- The item at a position of the ring is the one at this position of its contents. -/
theorem Packed.getElem?_toList (h : r.Packed) (i : Nat) : r.toList[i]? = r.get? i := by
  induction i generalizing r with
  | zero =>
    cases hx : r.get? 0 with
    | none =>
      rw [toList_of_length_eq_zero (Nat.le_zero.1 (h.length_le_of_get? hx))]
      rfl
    | some x =>
      rw [toList_eq_cons h hx]
      rfl
  | succ i ih =>
    have hdropped : r.dropFront.get? i = r.get? (i + 1) := by
      by_cases hi : i + 1 < r.length
      · exact get?_dropFront h.fits hi
      · have hnone : r.dropFront.length ≤ i := Nat.sub_le_of_le_add (Nat.le_of_not_lt hi)
        rw [get?_of_le hnone, get?_of_le (Nat.le_of_not_lt hi)]
    rw [← hdropped, ← ih h.dropFront, h.toList_dropFront, List.getElem?_tail]

/-- In the slot of a position in the window stands the item of this position. -/
theorem Packed.slots_slotOf (h : r.Packed) {i : Nat} (hi : i < r.length) :
    r.slots[r.slotOf i]? = some (r.get? i) := by
  obtain ⟨x, hx⟩ := Option.isSome_iff_exists.1 (h.filled i hi)
  rw [hx]
  rw [get?_of_lt hi, Option.join_eq_some_iff] at hx
  exact hx

/-! ### Adding in front -/

/-- Moves the head back by one slot and writes an item there. -/
def placeFront (r : Ring α) (x : α) : Ring α where
  slots := r.slots.setIfInBounds ((r.head + r.capacity - 1) % r.capacity) (some x)
  head := (r.head + r.capacity - 1) % r.capacity
  length := r.length + 1

theorem capacity_placeFront (r : Ring α) (x : α) : (r.placeFront x).capacity = r.capacity := by
  simp [Ring.capacity, placeFront]

/-- What was in front has moved down by one position. -/
theorem slotOf_placeFront_succ (hcapacity : 0 < r.capacity) (x : α) (i : Nat) :
    (r.placeFront x).slotOf (i + 1) = r.slotOf i := by
  rw [slotOf, capacity_placeFront]
  change ((r.head + r.capacity - 1) % r.capacity + (i + 1)) % r.capacity = _
  have hturn : r.head + r.capacity - 1 + (i + 1) = r.head + i + r.capacity := by omega
  rw [Nat.mod_add_mod, slotOf, hturn, Nat.add_mod_right]

theorem slotOf_placeFront_zero (x : α) :
    (r.placeFront x).slotOf 0 = (r.head + r.capacity - 1) % r.capacity := by
  rw [slotOf, capacity_placeFront]
  exact Nat.mod_mod _ _

theorem get?_placeFront_zero (hcapacity : 0 < r.capacity) (x : α) :
    (r.placeFront x).get? 0 = some x := by
  have hslot : (r.head + r.capacity - 1) % r.capacity < r.slots.size := Nat.mod_lt _ hcapacity
  rw [get?_of_lt (Nat.succ_pos _), slotOf_placeFront_zero]
  simp [placeFront, hslot]

theorem get?_placeFront_succ (x : α) (hroom : r.length < r.capacity) {i : Nat} (hi : i < r.length) :
    (r.placeFront x).get? (i + 1) = r.get? i := by
  have hne : (r.placeFront x).slotOf 0 ≠ (r.placeFront x).slotOf (i + 1) := by
    apply slotOf_ne
    · exact Nat.succ_pos i
    · rw [capacity_placeFront]
      omega
  rw [slotOf_placeFront_succ (Nat.zero_lt_of_lt hroom), slotOf_placeFront_zero] at hne
  rw [get?_of_lt (Nat.succ_lt_succ hi), slotOf_placeFront_succ (Nat.zero_lt_of_lt hroom),
    get?_of_lt hi]
  simp only [placeFront, Array.getElem?_setIfInBounds, if_neg hne]

theorem toList_placeFront (x : α) (hroom : r.length < r.capacity) :
    (r.placeFront x).toList = x :: r.toList := by
  have hrest : (List.range r.length).filterMap (fun i => (r.placeFront x).get? (i + 1)) =
      r.toList :=
    List.filterMap_congr fun i hi => get?_placeFront_succ x hroom (List.mem_range.1 hi)
  calc (r.placeFront x).toList
      = (List.range (r.length + 1)).filterMap (r.placeFront x).get? := rfl
    _ = x :: (List.range r.length).filterMap (fun i => (r.placeFront x).get? (i + 1)) := by
        rw [List.range_succ_eq_map,
          List.filterMap_cons_some (get?_placeFront_zero (Nat.zero_lt_of_lt hroom) x),
          List.filterMap_map]
        rfl
    _ = x :: r.toList := by rw [hrest]

/-- An item added in front comes first. -/
theorem toList_pushFront (r : Ring α) (x : α) : (r.pushFront x).toList = x :: r.toList := by
  calc (r.pushFront x).toList = ((r.reserve 1).placeFront x).toList := rfl
    _ = x :: (r.reserve 1).toList := toList_placeFront x r.reserve_one_room
    _ = x :: r.toList := by rw [toList_reserve]

theorem toList_foldl_pushBack (xs : List α) (r : Ring α) :
    (xs.foldl pushBack r).toList = r.toList ++ xs := by
  induction xs generalizing r with
  | nil => exact (List.append_nil _).symm
  | cons x rest ih =>
    rw [List.foldl_cons, ih, toList_pushBack, List.append_assoc]
    rfl

theorem toList_append (r : Ring α) (xs : List α) : (r.append xs).toList = r.toList ++ xs := by
  rw [append, toList_foldl_pushBack, toList_reserve]

theorem toList_foldl_pushFront (xs : List α) (r : Ring α) :
    (xs.foldl pushFront r).toList = xs.reverse ++ r.toList := by
  induction xs generalizing r with
  | nil => rfl
  | cons x rest ih =>
    rw [List.foldl_cons, ih, toList_pushFront, List.reverse_cons, List.append_assoc]
    rfl

/-- Items added in front keep their order. -/
theorem toList_prepend (r : Ring α) (xs : List α) : (r.prepend xs).toList = xs ++ r.toList := by
  rw [prepend, toList_foldl_pushFront, List.reverse_reverse, toList_reserve]

/-! ### Taking from the back -/

/-- Empties the slot of the last item. -/
def dropBack (r : Ring α) : Ring α :=
  { r with
    slots := r.slots.setIfInBounds (r.slotOf (r.length - 1)) none
    length := r.length - 1 }

theorem capacity_dropBack (r : Ring α) : r.dropBack.capacity = r.capacity := by
  simp [Ring.capacity, dropBack]

theorem slotOf_dropBack (r : Ring α) (i : Nat) : r.dropBack.slotOf i = r.slotOf i := by
  rw [slotOf, capacity_dropBack]
  rfl

theorem get?_dropBack (hfits : r.length ≤ r.capacity) {i : Nat} (hi : i < r.length - 1) :
    r.dropBack.get? i = r.get? i := by
  have hne : r.slotOf i ≠ r.slotOf (r.length - 1) := r.slotOf_ne hi (by omega)
  have hold : i < r.length := by omega
  rw [get?_of_lt hi, slotOf_dropBack, get?_of_lt hold]
  simp only [dropBack, Array.getElem?_setIfInBounds, if_neg hne.symm]

theorem Packed.dropBack (h : r.Packed) : r.dropBack.Packed where
  fits := by
    rw [capacity_dropBack]
    exact (Nat.sub_le _ _).trans h.fits
  filled i hi := by
    rw [get?_dropBack h.fits hi]
    exact h.filled i (Nat.lt_of_lt_of_le hi (Nat.sub_le _ _))

theorem Packed.toList_dropBack (h : r.Packed) : r.dropBack.toList = r.toList.dropLast := by
  refine List.ext_getElem? fun i => ?_
  rw [h.dropBack.getElem?_toList, List.getElem?_dropLast, h.length_toList, h.getElem?_toList]
  split
  · rename_i hi
    exact get?_dropBack h.fits hi
  · rename_i hi
    exact get?_of_le (Nat.le_of_not_lt hi)

/-- The back item leaves, if there is one. -/
theorem Packed.popBack_cases (h : r.Packed) :
    (r.toList = [] ∧ r.popBack = (none, r)) ∨
      ∃ x, r.toList.getLast? = some x ∧ r.popBack = (some x, r.dropBack) := by
  have hlast : r.toList.getLast? = r.get? (r.length - 1) := by
    rw [List.getLast?_eq_getElem?, h.length_toList, h.getElem?_toList]
  cases hx : r.get? (r.length - 1) with
  | none => exact .inl ⟨List.getLast?_eq_none_iff.1 (hlast.trans hx), by rw [popBack, hx]⟩
  | some x => exact .inr ⟨x, hlast.trans hx, by rw [popBack, hx]; rfl⟩

/-! ### The slots outside the window -/

/-- A slot is in the window. -/
def Occupied (r : Ring α) (j : Nat) : Prop :=
  ∃ i < r.length, r.slotOf i = j

/-- The head is a slot, and all slots outside the window are empty. -/
structure Tidy (r : Ring α) : Prop extends r.Packed where
  head : r.head < max r.capacity 1
  vacant : ∀ j < r.capacity, ¬ r.Occupied j → r.slots[j]? = some none

theorem slotOf_lt (hcapacity : 0 < r.capacity) (i : Nat) : r.slotOf i < r.capacity :=
  Nat.mod_lt _ hcapacity

theorem Tidy.head_lt (h : r.Tidy) (hcapacity : 0 < r.capacity) : r.head < r.capacity := by
  have hhead := h.head
  omega

theorem Tidy.slotOf_zero (h : r.Tidy) (hcapacity : 0 < r.capacity) : r.slotOf 0 = r.head :=
  Nat.mod_eq_of_lt (h.head_lt hcapacity)

theorem tidy_withCapacity (capacity : Nat) : (withCapacity capacity : Ring α).Tidy where
  toPacked := packed_withCapacity capacity
  head := Nat.lt_of_lt_of_le Nat.zero_lt_one (Nat.le_max_right _ _)
  vacant j hj _ := by
    have hj : j < capacity := by simpa [Ring.capacity, withCapacity] using hj
    simp [withCapacity, hj]

theorem Tidy.reallocate (h : r.Tidy) (capacity : Nat) : (r.reallocate capacity).Tidy where
  toPacked := h.toPacked.reallocate capacity
  head := Nat.lt_of_lt_of_le Nat.zero_lt_one (Nat.le_max_right _ _)
  vacant j hj hfree := by
    -- the window of the new buffer starts with it
    have hbehind : r.length ≤ j := by
      by_contra hlt
      refine hfree ⟨j, Nat.lt_of_not_le hlt, ?_⟩
      exact (congrArg (· % _) (Nat.zero_add j)).trans (Nat.mod_eq_of_lt hj)
    rw [capacity_reallocate] at hj
    have hrest : j - r.length < capacity - r.length := by omega
    simp [Ring.reallocate, Array.getElem?_append, Nat.not_lt_of_le hbehind, hrest]

theorem Tidy.reserve (h : r.Tidy) (additional : Nat) : (r.reserve additional).Tidy := by
  by_cases hroom : r.length + additional ≤ r.capacity
  · rw [Ring.reserve, if_pos hroom]
    exact h
  · rw [Ring.reserve, if_neg hroom]
    exact h.reallocate _

/-- One slot is written. Unless it is emptied it must be in the window afterwards, and no other slot
leaves the window. -/
theorem vacant_of_write {r' : Ring α} {slot : Nat} {cell : Option α}
    (hslots : r'.slots = r.slots.setIfInBounds slot cell)
    (hcell : cell = none ∨ r'.Occupied slot)
    (hwindow : ∀ j, r.Occupied j → j = slot ∨ r'.Occupied j)
    (hvacant : ∀ j < r.capacity, ¬ r.Occupied j → r.slots[j]? = some none) :
    ∀ j < r'.capacity, ¬ r'.Occupied j → r'.slots[j]? = some none := by
  intro j hj hfree
  have hbound : j < r.slots.size := by simpa [Ring.capacity, hslots] using hj
  by_cases hwritten : slot = j
  · -- the slot written is outside the window now, so it was emptied
    have hnone : cell = none := hcell.resolve_right (hwritten ▸ hfree)
    rw [hslots, Array.getElem?_setIfInBounds, if_pos hwritten, if_pos (hwritten ▸ hbound), hnone]
  · rw [hslots, Array.getElem?_setIfInBounds, if_neg hwritten]
    refine hvacant j hbound fun hold => ?_
    rcases hwindow j hold with heq | hnew
    · exact hwritten heq.symm
    · exact hfree hnew

theorem Tidy.place (h : r.Tidy) (x : α) (hroom : r.length < r.capacity) : (r.place x).Tidy where
  toPacked := h.toPacked.place x hroom
  head := by
    rw [capacity_place]
    exact h.head
  vacant := by
    refine vacant_of_write rfl (.inr ?_) ?_ h.vacant
    · exact ⟨r.length, Nat.lt_succ_self _, slotOf_place r x _⟩
    · rintro j ⟨i, hi, rfl⟩
      exact .inr ⟨i, Nat.lt_succ_of_lt hi, slotOf_place r x i⟩

theorem Packed.placeFront (h : r.Packed) (x : α) (hroom : r.length < r.capacity) :
    (r.placeFront x).Packed where
  fits := by
    rw [capacity_placeFront]
    exact hroom
  filled i hi := by
    rcases i with _ | i
    · rw [get?_placeFront_zero (Nat.zero_lt_of_lt hroom)]
      rfl
    · rw [get?_placeFront_succ x hroom (Nat.lt_of_succ_lt_succ hi)]
      exact h.filled i (Nat.lt_of_succ_lt_succ hi)

theorem Tidy.placeFront (h : r.Tidy) (x : α) (hroom : r.length < r.capacity) :
    (r.placeFront x).Tidy where
  toPacked := h.toPacked.placeFront x hroom
  head := by
    rw [capacity_placeFront]
    exact Nat.lt_of_lt_of_le (Nat.mod_lt _ (Nat.zero_lt_of_lt hroom)) (Nat.le_max_left _ _)
  vacant := by
    refine vacant_of_write rfl (.inr ?_) ?_ h.vacant
    · exact ⟨0, Nat.succ_pos _, slotOf_placeFront_zero x⟩
    · rintro j ⟨i, hi, rfl⟩
      exact .inr ⟨i + 1, Nat.succ_lt_succ hi, slotOf_placeFront_succ (Nat.zero_lt_of_lt hroom) x i⟩

theorem Tidy.dropFront (h : r.Tidy) (hsome : 0 < r.length) : r.dropFront.Tidy where
  toPacked := h.toPacked.dropFront
  head := by
    rw [capacity_dropFront]
    have hcapacity := Nat.lt_of_lt_of_le hsome h.fits
    exact Nat.lt_of_lt_of_le (Nat.mod_lt _ hcapacity) (Nat.le_max_left _ _)
  vacant := by
    refine vacant_of_write rfl (.inl rfl) ?_ h.vacant
    rintro j ⟨i, hi, rfl⟩
    rcases i with _ | i
    · exact .inl (h.slotOf_zero (Nat.lt_of_lt_of_le hi h.fits))
    · exact .inr ⟨i, Nat.lt_sub_of_add_lt hi, slotOf_dropFront r i⟩

theorem Tidy.dropBack (h : r.Tidy) : r.dropBack.Tidy where
  toPacked := h.toPacked.dropBack
  head := by
    rw [capacity_dropBack]
    exact h.head
  vacant := by
    refine vacant_of_write rfl (.inl rfl) ?_ h.vacant
    rintro j ⟨i, hi, rfl⟩
    by_cases hlast : i = r.length - 1
    · exact .inl (congrArg r.slotOf hlast)
    · have hstays : i < r.length - 1 := by omega
      exact .inr ⟨i, hstays, slotOf_dropBack r i⟩

/-! ### Operations -/

theorem Tidy.pushBack (h : r.Tidy) (x : α) : (r.pushBack x).Tidy :=
  (h.reserve 1).place x r.reserve_one_room

theorem Tidy.pushFront (h : r.Tidy) (x : α) : (r.pushFront x).Tidy :=
  (h.reserve 1).placeFront x r.reserve_one_room

theorem Tidy.foldl {push : Ring α → α → Ring α} (hpush : ∀ r x, r.Tidy → (push r x).Tidy)
    (h : r.Tidy) (xs : List α) : (xs.foldl push r).Tidy := by
  induction xs generalizing r with
  | nil => exact h
  | cons x rest ih => exact ih (hpush r x h)

theorem Tidy.append (h : r.Tidy) (xs : List α) : (r.append xs).Tidy :=
  .foldl (fun _ x hr => hr.pushBack x) (h.reserve xs.length) xs

theorem Tidy.prepend (h : r.Tidy) (xs : List α) : (r.prepend xs).Tidy :=
  .foldl (fun _ x hr => hr.pushFront x) (h.reserve xs.length) xs.reverse

theorem Tidy.popFront (h : r.Tidy) : r.popFront.2.Tidy := by
  rcases h.popFront_cases with ⟨-, hpop⟩ | ⟨x, hcons, hpop⟩
  · rw [hpop]
    exact h
  · rw [hpop]
    apply h.dropFront
    rw [← h.length_toList, hcons]
    exact Nat.succ_pos _

theorem Tidy.popBack (h : r.Tidy) : r.popBack.2.Tidy := by
  rcases h.popBack_cases with ⟨-, hpop⟩ | ⟨x, -, hpop⟩
  · rw [hpop]
    exact h
  · rw [hpop]
    exact h.dropBack

theorem Tidy.take (h : r.Tidy) (n : Nat) : (r.take n).2.Tidy := by
  induction n generalizing r with
  | zero => exact h
  | succ n ih =>
    have hrest := h.popFront
    rcases h.popFront_cases with ⟨-, hpop⟩ | ⟨x, -, hpop⟩
    · rw [Ring.take, hpop]
      exact h
    · rw [hpop] at hrest
      rw [Ring.take, hpop]
      exact ih hrest

theorem Tidy.trim (h : r.Tidy) : r.trim.Tidy := by
  by_cases hlarge : r.length < r.capacity
  · rw [Ring.trim, if_pos hlarge]
    exact h.reallocate _
  · rw [Ring.trim, if_neg hlarge]
    exact h

theorem toList_trim (r : Ring α) : r.trim.toList = r.toList := by
  by_cases hlarge : r.length < r.capacity
  · rw [trim, if_pos hlarge, toList_reallocate]
  · rw [trim, if_neg hlarge]

theorem toList_withCapacity (capacity : Nat) : (withCapacity capacity : Ring α).toList = [] := rfl

theorem tidy_ofList (xs : List α) : (ofList xs).Tidy :=
  (tidy_withCapacity _).append xs

theorem toList_ofList (xs : List α) : (ofList xs).toList = xs := by
  rw [ofList, toList_append, toList_withCapacity, List.nil_append]

end Ring

end SensorRouter
