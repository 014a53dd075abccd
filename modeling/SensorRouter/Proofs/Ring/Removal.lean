import SensorRouter.Proofs.Ring.Contents

/-!
Taking items from a ring whose positions all hold one: items leave at the front in order, and what
stays is the rest of the contents.
-/

namespace SensorRouter

namespace Ring

universe u

variable {α : Type u} {r : Ring α}

/-- The items fit into the buffer, and there is one at each position. -/
structure Packed (r : Ring α) : Prop where
  fits : r.length ≤ r.capacity
  filled : ∀ i < r.length, (r.get? i).isSome

theorem packed_withCapacity (capacity : Nat) : (withCapacity capacity : Ring α).Packed where
  fits := Nat.zero_le _
  filled i hi := absurd hi (Nat.not_lt_zero i)

theorem packed_empty : (empty : Ring α).Packed :=
  packed_withCapacity _

/-! ### Adding at the back -/

theorem Packed.reallocate (h : r.Packed) (capacity : Nat) : (r.reallocate capacity).Packed where
  fits := by
    rw [capacity_reallocate]
    exact Nat.le_add_right _ _
  filled i hi := by
    rw [get?_reallocate]
    exact h.filled i hi

theorem Packed.reserve (h : r.Packed) (additional : Nat) : (r.reserve additional).Packed := by
  unfold Ring.reserve
  split
  · exact h
  · exact h.reallocate _

theorem Packed.place (h : r.Packed) (x : α) (hroom : r.length < r.capacity) :
    (r.place x).Packed where
  fits := by
    rw [capacity_place]
    exact hroom
  filled i hi := by
    rw [length_place] at hi
    rcases Nat.lt_succ_iff_lt_or_eq.1 hi with hold | rfl
    · rw [r.get?_place_old x hroom hold]
      exact h.filled i hold
    · rw [r.get?_place_new x hroom]
      rfl

theorem Packed.pushBack (h : r.Packed) (x : α) : (r.pushBack x).Packed :=
  (h.reserve 1).place x r.reserve_one_room

/-! ### Taking from the front -/

theorem Packed.length_toList (h : r.Packed) : r.toList.length = r.length := by
  have hall : ∀ i ∈ List.range r.length, (r.get? i).isSome := fun i hi =>
    h.filled i (List.mem_range.1 hi)
  rw [toList, List.length_filterMap_eq_countP, List.countP_eq_length.2 hall, List.length_range]

theorem toList_of_length_eq_zero (h : r.length = 0) : r.toList = [] := by
  rw [toList, h]
  rfl

/-- Empties the front slot and moves the front on by one. -/
def dropFront (r : Ring α) : Ring α :=
  { slots := r.slots.setIfInBounds r.head none
    head := (r.head + 1) % r.capacity
    length := r.length - 1 }

theorem capacity_dropFront (r : Ring α) : r.dropFront.capacity = r.capacity := by
  simp [Ring.capacity, dropFront]

theorem slotOf_dropFront (r : Ring α) (i : Nat) : r.dropFront.slotOf i = r.slotOf (i + 1) := by
  rw [slotOf, capacity_dropFront, slotOf]
  change ((r.head + 1) % r.capacity + i) % r.capacity = _
  rw [Nat.mod_add_mod, Nat.add_assoc, Nat.add_comm 1 i]

/-- What was behind the front item has moved up by one position. -/
theorem get?_dropFront (hfits : r.length ≤ r.capacity) {i : Nat} (hi : i + 1 < r.length) :
    r.dropFront.get? i = r.get? (i + 1) := by
  have hcapacity : 0 < r.capacity := by omega
  have hother : r.head ≠ r.slotOf (i + 1) := by
    intro heq
    have hfront : r.slotOf 0 = r.head := by
      rw [slotOf, Nat.add_zero, Nat.mod_eq_of_lt]
      rw [heq]
      exact Nat.mod_lt _ hcapacity
    exact r.slotOf_ne (Nat.zero_lt_succ i) (by omega) (hfront.trans heq)
  have hlength : i < r.dropFront.length := Nat.lt_sub_of_add_lt hi
  rw [get?, if_pos hlength, slotOf_dropFront, get?, if_pos hi]
  simp only [dropFront, Array.getElem?_setIfInBounds, if_neg hother]

theorem Packed.dropFront (h : r.Packed) : r.dropFront.Packed where
  fits := by
    rw [capacity_dropFront]
    exact (Nat.sub_le _ _).trans h.fits
  filled i hi := by
    have hi : i + 1 < r.length := Nat.add_lt_of_lt_sub hi
    rw [get?_dropFront h.fits hi]
    exact h.filled _ hi

theorem toList_eq_cons (h : r.Packed) {x : α} (hx : r.get? 0 = some x) :
    r.toList = x :: r.dropFront.toList := by
  have hlength : r.length = r.dropFront.length + 1 :=
    (Nat.sub_add_cancel (length_pos_of_get? hx)).symm
  have hrest : (List.range r.dropFront.length).filterMap (fun i => r.get? (i + 1)) =
      (List.range r.dropFront.length).filterMap r.dropFront.get? :=
    List.filterMap_congr fun i hi => by
      rw [List.mem_range] at hi
      exact (get?_dropFront h.fits (by omega)).symm
  calc r.toList = (List.range (r.dropFront.length + 1)).filterMap r.get? := by
        rw [toList, hlength]
    _ = x :: (List.range r.dropFront.length).filterMap (fun i => r.get? (i + 1)) := by
        rw [List.range_succ_eq_map, List.filterMap_cons_some hx, List.filterMap_map]
        rfl
    _ = x :: r.dropFront.toList := by rw [hrest, toList]

theorem Packed.length_le_of_get? (h : r.Packed) {i : Nat} (hi : r.get? i = none) :
    r.length ≤ i := by
  by_contra hlt
  have hfilled := h.filled i (Nat.lt_of_not_le hlt)
  rw [hi] at hfilled
  exact nomatch hfilled

/-- The front item leaves, if there is one. -/
theorem Packed.popFront_cases (h : r.Packed) :
    (r.toList = [] ∧ r.popFront = (none, r)) ∨
      ∃ x, r.toList = x :: r.dropFront.toList ∧ r.popFront = (some x, r.dropFront) := by
  cases hx : r.get? 0 with
  | none =>
    have hempty : r.length = 0 := Nat.le_zero.1 (h.length_le_of_get? hx)
    exact .inl ⟨toList_of_length_eq_zero hempty, by rw [popFront, hx]⟩
  | some x => exact .inr ⟨x, toList_eq_cons h hx, by rw [popFront, hx]; rfl⟩

theorem Packed.toList_dropFront (h : r.Packed) : r.dropFront.toList = r.toList.tail := by
  rcases h.popFront_cases with ⟨hnil, -⟩ | ⟨x, hcons, -⟩
  · have hempty : r.length = 0 := by rw [← h.length_toList, hnil, List.length_nil]
    rw [hnil, toList_of_length_eq_zero (congrArg (· - 1) hempty)]
    rfl
  · rw [hcons]
    rfl

/-- Several items leave in order. -/
theorem Packed.take_spec (h : r.Packed) (n : Nat) :
    (r.take n).1 = r.toList.take n ∧ (r.take n).2.toList = r.toList.drop n ∧
      (r.take n).2.Packed := by
  induction n generalizing r with
  | zero => exact ⟨rfl, rfl, h⟩
  | succ n ih =>
    rcases h.popFront_cases with ⟨hnil, hpop⟩ | ⟨x, hcons, hpop⟩
    · rw [take, hpop, hnil]
      exact ⟨rfl, List.drop_nil.symm, h⟩
    · obtain ⟨htaken, hrest, hpacked⟩ := ih h.dropFront
      rw [take, hpop, hcons]
      simp only [htaken]
      exact ⟨rfl, hrest, hpacked⟩

/-- All items leave in order, and none stays. -/
theorem Packed.drain_spec (h : r.Packed) :
    r.drain.1 = r.toList ∧ r.drain.2.toList = [] ∧ r.drain.2.Packed := by
  obtain ⟨htaken, hrest, hpacked⟩ := h.take_spec r.length
  refine ⟨?_, ?_, hpacked⟩
  · rw [drain, htaken, ← h.length_toList, List.take_length]
  · rw [drain, hrest, ← h.length_toList, List.drop_length]

end Ring

end SensorRouter
