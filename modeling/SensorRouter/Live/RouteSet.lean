import SensorRouter.Entity.Basic
import SensorRouter.TextSet

/-!
The live data routes as a table: for each sensor the set of its targets. A sensor that loses its last
target loses its entry, so a table of routes has no empty set.
-/

namespace SensorRouter

/-- The targets of sensors. -/
abbrev RouteTable := Dict TextSet

namespace RouteTable

/-- The targets of a sensor, none where it has no entry. -/
def ofSensor (t : RouteTable) (sensorId : String) : TextSet :=
  (t.get? sensorId).getD ∅

instance : Membership LiveRoute RouteTable := ⟨fun t r => r.target ∈ t.ofSensor r.sensorId⟩

instance (r : LiveRoute) (t : RouteTable) : Decidable (r ∈ t) :=
  inferInstanceAs (Decidable (r.target ∈ t.ofSensor r.sensorId))

/-- Adds a route, with an entry for its sensor if there is none. The result says whether the route
is new. -/
def add (t : RouteTable) (r : LiveRoute) : Bool × RouteTable :=
  let (isNew, targets) := (t.ofSensor r.sensorId).insert r.target
  (isNew, Dict.insert t r.sensorId targets)

/-- Removes a route, and the entry of its sensor with the last target. The result says whether the
route was there. -/
def remove (t : RouteTable) (r : LiveRoute) : Bool × RouteTable :=
  match t.get? r.sensorId with
  | none => (false, t)
  | some targets =>
    let (found, rest) := targets.remove r.target
    (found, if rest.isEmpty then t.erase r.sensorId else Dict.insert t r.sensorId rest)

/-- The targets that are left without one of them, if any are. -/
def without (target : String) (targets : TextSet) : Option TextSet :=
  let rest := (targets.remove target).2
  if rest.isEmpty then none else some rest

/-- Removes the routes to a target, and the entries of the sensors that have no other. -/
def dropTarget (t : RouteTable) (target : String) : RouteTable :=
  t.filterMap (without target)

/-- The targets of a sensor, ascending. -/
def targets (t : RouteTable) (sensorId : String) : List String :=
  match t.get? sensorId with
  | some targets => targets.toList
  | none => []

/-- The number of routes, summed over the sensors. -/
def size (t : RouteTable) : Nat :=
  t.values.foldl (fun n targets => n + targets.size) 0

/-- No sensor has an entry without a target. -/
def Pruned (t : RouteTable) : Prop :=
  ∀ sensorId targets, t.get? sensorId = some targets → targets.isEmpty = false

variable {t : RouteTable}

theorem pruned_empty : Pruned ∅ :=
  fun _ _ h => nomatch h

theorem Pruned.add (h : t.Pruned) (r : LiveRoute) : (t.add r).2.Pruned := by
  intro sensorId targets htargets
  change (Dict.insert t _ _).get? sensorId = some targets at htargets
  rw [Dict.get?_insert] at htargets
  split at htargets
  · cases htargets
    exact TextSet.isEmpty_eq_false_iff.2 ⟨r.target, TextSet.mem_insert.2 (.inl rfl)⟩
  · exact h sensorId targets htargets

theorem Pruned.remove (h : t.Pruned) (r : LiveRoute) : (t.remove r).2.Pruned := by
  intro sensorId targets htargets
  unfold RouteTable.remove at htargets
  cases hentry : t.get? r.sensorId with
  | none =>
    rw [hentry] at htargets
    exact h sensorId targets htargets
  | some before =>
    simp only [hentry] at htargets
    split at htargets
    · rw [Dict.get?_erase] at htargets
      split at htargets
      · exact nomatch htargets
      · exact h sensorId targets htargets
    · rename_i hleft
      rw [Dict.get?_insert] at htargets
      split at htargets
      · cases htargets
        exact Bool.eq_false_iff.2 hleft
      · exact h sensorId targets htargets

/-- What is left by the removal of a target has no empty set, whatever was there before. -/
theorem pruned_dropTarget (t : RouteTable) (target : String) : (t.dropTarget target).Pruned := by
  intro sensorId targets htargets
  rw [dropTarget, Dict.get?_filterMap] at htargets
  obtain ⟨before, -, hleft⟩ := Option.bind_eq_some_iff.1 htargets
  simp only [without] at hleft
  split at hleft
  · exact nomatch hleft
  · rename_i hsome
    cases hleft
    exact Bool.eq_false_iff.2 hsome

/-! ### Members -/

theorem mem_iff {r : LiveRoute} : r ∈ t ↔ r.target ∈ t.ofSensor r.sensorId := .rfl

/-- A route is there if its sensor has an entry with its target. -/
theorem mem_iff_exists {r : LiveRoute} :
    r ∈ t ↔ ∃ targets, t.get? r.sensorId = some targets ∧ r.target ∈ targets := by
  rw [mem_iff, ofSensor]
  cases t.get? r.sensorId <;> simp

@[simp]
theorem add_fst (t : RouteTable) (r : LiveRoute) : (t.add r).1 = decide (r ∉ t) := rfl

@[simp]
theorem mem_add {r x : LiveRoute} : x ∈ (t.add r).2 ↔ x = r ∨ x ∈ t := by
  obtain ⟨sensorId, target⟩ := r
  obtain ⟨s, a⟩ := x
  rw [mem_iff, ofSensor, add, Dict.get?_insert, mem_iff]
  by_cases hs : s = sensorId
  · simp [hs]
  · simp [hs, ofSensor]

@[simp]
theorem remove_fst (t : RouteTable) (r : LiveRoute) : (t.remove r).1 = decide (r ∈ t) := by
  unfold remove
  cases hentry : t.get? r.sensorId with
  | none => simp [mem_iff, ofSensor, hentry]
  | some targets => simp [mem_iff, ofSensor, hentry]

@[simp]
theorem mem_remove {r x : LiveRoute} : x ∈ (t.remove r).2 ↔ x ∈ t ∧ x ≠ r := by
  obtain ⟨sensorId, target⟩ := r
  obtain ⟨s, a⟩ := x
  unfold remove
  cases hentry : t.get? sensorId with
  | none =>
    have hgone : (⟨sensorId, target⟩ : LiveRoute) ∉ t := by simp [mem_iff_exists, hentry]
    exact ⟨fun hx => ⟨hx, fun heq => hgone (heq ▸ hx)⟩, And.left⟩
  | some targets =>
    by_cases hs : s = sensorId
    · subst hs
      by_cases hleft : (targets.remove target).2.isEmpty
      · have hnone := TextSet.isEmpty_iff.1 hleft a
        simpa [mem_iff_exists, hentry, hleft] using hnone
      · simp [mem_iff_exists, hentry, hleft]
    · have hother : (⟨s, a⟩ : LiveRoute) ≠ ⟨sensorId, target⟩ := fun heq => hs (by cases heq; rfl)
      by_cases hleft : (targets.remove target).2.isEmpty <;>
        simp [mem_iff_exists, hleft, hs, hother]

theorem exists_without_iff {target a : String} {targets : TextSet} :
    (∃ rest, without target targets = some rest ∧ a ∈ rest) ↔ a ∈ targets ∧ a ≠ target := by
  rw [← TextSet.mem_remove, without]
  by_cases hleft : (targets.remove target).2.isEmpty
  · simpa [hleft] using TextSet.isEmpty_iff.1 hleft a
  · simp [hleft]

@[simp]
theorem mem_dropTarget {target : String} {x : LiveRoute} :
    x ∈ t.dropTarget target ↔ x ∈ t ∧ x.target ≠ target := by
  rw [mem_iff_exists, mem_iff_exists, dropTarget, Dict.get?_filterMap]
  cases t.get? x.sensorId with
  | none => simp
  | some targets => simpa using exists_without_iff

theorem mem_targets {sensorId target : String} :
    target ∈ t.targets sensorId ↔ ⟨sensorId, target⟩ ∈ t := by
  rw [mem_iff_exists, targets]
  cases t.get? sensorId <;> simp

theorem pairwise_targets (t : RouteTable) (sensorId : String) :
    (t.targets sensorId).Pairwise (· < ·) := by
  unfold targets
  split
  · exact TextSet.pairwise_toList _
  · exact .nil

end RouteTable

/-- Live data routes: a table without empty sets. -/
structure RouteSet where
  table : RouteTable := ∅
  pruned : table.Pruned := by exact RouteTable.pruned_empty
  deriving DecidableEq

namespace RouteSet

def empty : RouteSet := {}

instance : EmptyCollection RouteSet := ⟨empty⟩

instance : Inhabited RouteSet := ⟨empty⟩

instance : Membership LiveRoute RouteSet := ⟨fun s r => r ∈ s.table⟩

instance (r : LiveRoute) (s : RouteSet) : Decidable (r ∈ s) :=
  inferInstanceAs (Decidable (r ∈ s.table))

def add (s : RouteSet) (r : LiveRoute) : Bool × RouteSet :=
  ((s.table.add r).1, ⟨(s.table.add r).2, s.pruned.add r⟩)

def remove (s : RouteSet) (r : LiveRoute) : Bool × RouteSet :=
  ((s.table.remove r).1, ⟨(s.table.remove r).2, s.pruned.remove r⟩)

/-- Adds routes in order and counts the new ones. -/
def addAll (s : RouteSet) : List LiveRoute → Nat × RouteSet
  | [] => (0, s)
  | r :: rest =>
    let (isNew, s) := s.add r
    let (count, s) := addAll s rest
    ((if isNew then 1 else 0) + count, s)

/-- The routes to other targets. -/
def dropTarget (s : RouteSet) (target : String) : RouteSet :=
  ⟨s.table.dropTarget target, s.table.pruned_dropTarget target⟩

def targets (s : RouteSet) (sensorId : String) : List String :=
  s.table.targets sensorId

def size (s : RouteSet) : Nat :=
  s.table.size

end RouteSet

end SensorRouter
