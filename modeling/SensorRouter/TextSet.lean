import SensorRouter.Dict

/-!
Finite sets of texts, as the keys of a dictionary: the members are listed in ascending order.
-/

namespace SensorRouter

structure TextSet where
  members : Dict Unit := ∅
  deriving DecidableEq

namespace TextSet

def empty : TextSet := {}

instance : EmptyCollection TextSet := ⟨empty⟩

instance : Inhabited TextSet := ⟨empty⟩

instance : Membership String TextSet := ⟨fun s a => s.members.contains a = true⟩

instance (a : String) (s : TextSet) : Decidable (a ∈ s) :=
  inferInstanceAs (Decidable (s.members.contains a = true))

/-- Adds a text. The result says whether it is new. -/
def insert (s : TextSet) (a : String) : Bool × TextSet :=
  (a ∉ s, ⟨s.members.insert a ()⟩)

/-- Takes a text out. The result says whether it was there. -/
def remove (s : TextSet) (a : String) : Bool × TextSet :=
  (a ∈ s, ⟨s.members.erase a⟩)

def isEmpty (s : TextSet) : Bool :=
  s.members.isEmpty

def size (s : TextSet) : Nat :=
  s.members.size

/-- The members, ascending. -/
def toList (s : TextSet) : List String :=
  s.members.keys

@[simp]
theorem insert_fst (s : TextSet) (a : String) : (s.insert a).1 = decide (a ∉ s) := rfl

@[simp]
theorem remove_fst (s : TextSet) (a : String) : (s.remove a).1 = decide (a ∈ s) := rfl

@[simp]
theorem notMem_empty (a : String) : a ∉ (∅ : TextSet) :=
  nofun

theorem mem_iff_get? {s : TextSet} {a : String} : a ∈ s ↔ s.members.get? a = some () := by
  change (s.members.get? a).isSome = true ↔ _
  cases s.members.get? a <;> simp

@[simp]
theorem mem_insert {s : TextSet} {a x : String} : x ∈ (s.insert a).2 ↔ x = a ∨ x ∈ s := by
  rw [mem_iff_get?, insert, Dict.get?_insert, mem_iff_get?]
  by_cases h : x = a <;> simp [h]

@[simp]
theorem mem_remove {s : TextSet} {a x : String} : x ∈ (s.remove a).2 ↔ x ∈ s ∧ x ≠ a := by
  rw [mem_iff_get?, remove, Dict.get?_erase, mem_iff_get?]
  by_cases h : x = a <;> simp [h]

@[simp]
theorem mem_toList {s : TextSet} {a : String} : a ∈ s.toList ↔ a ∈ s := by
  rw [mem_iff_get?, Dict.get?_eq_some_iff, toList, Dict.keys, List.mem_map]
  constructor
  · rintro ⟨⟨_, _⟩, h, rfl⟩
    exact h
  · exact fun h => ⟨_, h, rfl⟩

theorem length_toList (s : TextSet) : s.toList.length = s.size :=
  List.length_map _

/-- The members are listed in strictly ascending order. -/
theorem pairwise_toList (s : TextSet) : s.toList.Pairwise (· < ·) :=
  List.pairwise_map.2 s.members.ascending

theorem isEmpty_iff {s : TextSet} : s.isEmpty = true ↔ ∀ a, a ∉ s := by
  have hempty : s.isEmpty = true ↔ s.toList = [] := by
    rw [isEmpty, Dict.isEmpty, List.isEmpty_iff, toList, Dict.keys, List.map_eq_nil_iff]
  rw [hempty, List.eq_nil_iff_forall_not_mem]
  simp

theorem isEmpty_eq_false_iff {s : TextSet} : s.isEmpty = false ↔ ∃ a, a ∈ s := by
  rw [← Bool.not_eq_true, isEmpty_iff]
  simp

end TextSet

end SensorRouter
