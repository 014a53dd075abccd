import Mathlib
import SensorRouter.Ring

/-!
The contents of a ring: its items from front to back. Making room leaves them as they are, and adding
an item at the back appends it, whatever the state of the buffer.
-/

namespace SensorRouter

namespace Ring

universe u

variable {α : Type u}

/-- Distinct positions within one turn of the buffer have distinct slots. -/
theorem slotOf_ne (r : Ring α) {i j : Nat} (hij : i < j) (hj : j < r.capacity) :
    r.slotOf i ≠ r.slotOf j := by
  intro heq
  have hmod : i % r.capacity = j % r.capacity :=
    Nat.ModEq.add_left_cancel' r.head heq
  rw [Nat.mod_eq_of_lt (hij.trans hj), Nat.mod_eq_of_lt hj] at hmod
  omega

/-! ### Making room -/

theorem le_doubled (capacity needed : Nat) (hpos : 0 < capacity) :
    needed ≤ doubled capacity needed := by
  fun_induction doubled capacity needed with
  | case1 capacity h ih => exact ih (by omega)
  | case2 capacity h => omega

@[simp]
theorem length_reallocate (r : Ring α) (capacity : Nat) :
    (r.reallocate capacity).length = r.length := rfl

theorem capacity_reallocate (r : Ring α) (capacity : Nat) :
    (r.reallocate capacity).capacity = r.length + (capacity - r.length) := by
  simp [Ring.capacity, reallocate]

theorem get?_reallocate (r : Ring α) (capacity i : Nat) :
    (r.reallocate capacity).get? i = r.get? i := by
  by_cases hi : i < r.length
  · have hslot : (r.reallocate capacity).slotOf i = i := by
      rw [slotOf, capacity_reallocate]
      change (0 + i) % _ = i
      rw [Nat.zero_add, Nat.mod_eq_of_lt (by omega)]
    have hcell : (r.reallocate capacity).slots[i]? = some (r.get? i) := by
      simp [reallocate, Array.getElem?_append, hi]
    rw [get?, if_pos (by simpa using hi), hslot, hcell]
    rfl
  · rw [get?, get?, if_neg (by simpa using hi), if_neg hi]

theorem toList_reallocate (r : Ring α) (capacity : Nat) :
    (r.reallocate capacity).toList = r.toList := by
  rw [toList, toList, length_reallocate]
  exact congrArg (List.filterMap · _) (funext (r.get?_reallocate capacity))

@[simp]
theorem length_reserve (r : Ring α) (additional : Nat) :
    (r.reserve additional).length = r.length := by
  unfold reserve
  split <;> rfl

theorem toList_reserve (r : Ring α) (additional : Nat) :
    (r.reserve additional).toList = r.toList := by
  unfold reserve
  split
  · rfl
  · exact r.toList_reallocate _

theorem room_reserve (r : Ring α) (additional : Nat) :
    r.length + additional ≤ (r.reserve additional).capacity := by
  unfold reserve
  split
  · assumption
  · have hdoubled := le_doubled (max r.capacity leastGrowth) (r.length + additional)
      (Nat.lt_of_lt_of_le (by decide) (Nat.le_max_right _ _))
    rw [capacity_reallocate]
    omega

theorem reserve_one_room (r : Ring α) : (r.reserve 1).length < (r.reserve 1).capacity := by
  have hroom := r.room_reserve 1
  rw [length_reserve]
  omega

/-! ### Adding at the back -/

/-- Writes an item into the slot behind the last one. -/
def place (r : Ring α) (x : α) : Ring α :=
  { r with slots := r.slots.setIfInBounds (r.slotOf r.length) (some x), length := r.length + 1 }

@[simp]
theorem length_place (r : Ring α) (x : α) : (r.place x).length = r.length + 1 := rfl

theorem capacity_place (r : Ring α) (x : α) : (r.place x).capacity = r.capacity := by
  simp [Ring.capacity, place]

theorem slotOf_place (r : Ring α) (x : α) (i : Nat) : (r.place x).slotOf i = r.slotOf i := by
  rw [slotOf, slotOf, capacity_place]
  rfl

theorem get?_place_old (r : Ring α) (x : α) (hroom : r.length < r.capacity) {i : Nat}
    (hi : i < r.length) : (r.place x).get? i = r.get? i := by
  have hne := r.slotOf_ne hi hroom
  rw [get?, get?, slotOf_place, length_place, if_pos (by omega), if_pos hi]
  simp only [place, Array.getElem?_setIfInBounds, if_neg hne.symm]

theorem get?_place_new (r : Ring α) (x : α) (hroom : r.length < r.capacity) :
    (r.place x).get? r.length = some x := by
  have hslot : r.slotOf r.length < r.slots.size := Nat.mod_lt _ (Nat.zero_lt_of_lt hroom)
  rw [get?, slotOf_place, length_place, if_pos (by omega)]
  simp [place, hslot]

theorem toList_place (r : Ring α) (x : α) (hroom : r.length < r.capacity) :
    (r.place x).toList = r.toList ++ [x] := by
  have hold : (List.range r.length).filterMap (r.place x).get? =
      (List.range r.length).filterMap r.get? :=
    List.filterMap_congr fun i hi => r.get?_place_old x hroom (List.mem_range.1 hi)
  calc (r.place x).toList
      = (List.range (r.length + 1)).filterMap (r.place x).get? := rfl
    _ = (List.range r.length).filterMap (r.place x).get? ++
          [r.length].filterMap (r.place x).get? := by
        rw [List.range_succ, List.filterMap_append]
    _ = r.toList ++ [x] := by
        rw [hold]
        simp [toList, r.get?_place_new x hroom]

/-- An item added at the back comes last. -/
theorem toList_pushBack (r : Ring α) (x : α) : (r.pushBack x).toList = r.toList ++ [x] := by
  calc (r.pushBack x).toList = ((r.reserve 1).place x).toList := rfl
    _ = (r.reserve 1).toList ++ [x] := toList_place _ x r.reserve_one_room
    _ = r.toList ++ [x] := by rw [toList_reserve]

end Ring

end SensorRouter
