import Mathlib
import SensorRouter.Dict

/-!
Dictionaries are determined by their lookups, and so equations between them are proved key by key.
An insert changes a sum over the values by the difference between the new value and the old one.
-/

namespace SensorRouter

namespace Dict

variable {α β : Type}

/-- Dictionaries with the same lookups are the same. -/
theorem ext_get? {d d' : Dict α} (h : ∀ key, d'.get? key = d.get? key) : d' = d := by
  have hnodup : ∀ d : Dict α, d.entries.Nodup := fun d => d.nodup_keys.of_map _
  have hperm : d'.entries.Perm d.entries := by
    rw [List.perm_ext_iff_of_nodup (hnodup d') (hnodup d)]
    rintro ⟨key, value⟩
    rw [← get?_eq_some_iff, ← get?_eq_some_iff, h]
  have hentries : d'.entries = d.entries := by
    refine hperm.eq_of_pairwise (fun a b _ _ hab hba => ?_) d'.ascending d.ascending
    exact absurd (String.lt_trans hab hba) (String.lt_irrefl _)
  obtain ⟨_, _⟩ := d
  obtain ⟨_, _⟩ := d'
  cases hentries
  rfl

@[simp]
theorem get?_map (d : Dict α) (f : α → β) (key : String) :
    (d.map f).get? key = (d.get? key).map f := by
  apply Option.ext
  intro value
  rw [get?_eq_some_iff, map, List.mem_map, Option.map_eq_some_iff]
  constructor
  · rintro ⟨⟨k, a⟩, hmem, heq⟩
    cases heq
    exact ⟨a, get?_eq_some_iff.2 hmem, rfl⟩
  · rintro ⟨a, ha, rfl⟩
    exact ⟨(key, a), get?_eq_some_iff.1 ha, rfl⟩

theorem map_insert (d : Dict α) (f : α → β) (key : String) (value : α) :
    (d.insert key value).map f = (d.map f).insert key (f value) := by
  apply ext_get?
  intro k
  rw [get?_map, get?_insert, get?_insert, get?_map]
  split <;> rfl

/-! ### Keys -/

theorem mem_keys_iff {d : Dict α} {key : String} : key ∈ d.keys ↔ (d.get? key).isSome := by
  rw [Option.isSome_iff_exists, keys, List.mem_map]
  constructor
  · rintro ⟨⟨k, value⟩, hmem, rfl⟩
    exact ⟨value, get?_eq_some_iff.2 hmem⟩
  · rintro ⟨value, hvalue⟩
    exact ⟨(key, value), get?_eq_some_iff.1 hvalue, rfl⟩

@[simp]
theorem keys_empty : (∅ : Dict α).keys = [] := rfl

@[simp]
theorem mem_keys_insert {d : Dict α} {key k : String} {value : α} :
    k ∈ (d.insert key value).keys ↔ k = key ∨ k ∈ d.keys := by
  rw [mem_keys_iff, mem_keys_iff, get?_insert]
  by_cases h : k = key <;> simp [h]

theorem mem_keys_foldl_insert (f : Dict α → String × α → α) (entries : List (String × α))
    (d : Dict α) (k : String) :
    k ∈ (entries.foldl (fun d e => d.insert e.1 (f d e)) d).keys ↔
      k ∈ d.keys ∨ k ∈ entries.map (·.1) := by
  induction entries generalizing d with
  | nil => simp
  | cons e rest ih =>
    rw [List.foldl_cons, ih, mem_keys_insert, List.map_cons, List.mem_cons, or_assoc,
      or_left_comm]

/-! ### Sums -/

theorem sum_insertEntry {entries : List (String × Nat)} (h : Ascending entries) (key : String)
    (count : Nat) :
    ((insertEntry key count entries).map (·.2)).sum + (entries.lookup key).getD 0 =
      (entries.map (·.2)).sum + count := by
  induction entries with
  | nil => simp [insertEntry]
  | cons e rest ih =>
    have he := List.pairwise_cons.1 h
    unfold insertEntry
    rw [lookup_cons_eq]
    split
    · rename_i hlt
      -- all keys are greater
      have hnone : rest.lookup key = none := by
        rw [Option.eq_none_iff_forall_not_mem]
        intro value hvalue
        have hgt := he.1 _ ((lookup_eq_some_iff he.2).1 hvalue)
        exact String.lt_irrefl _ (String.lt_trans hlt hgt)
      have hne : key ≠ e.1 := fun heq => String.lt_irrefl _ (heq ▸ hlt)
      rw [if_neg hne, hnone]
      simp only [List.map_cons, List.sum_cons, Option.getD_none]
      omega
    · split
      · rename_i _ heq
        simp only [List.map_cons, List.sum_cons, Option.getD_some]
        omega
      · rename_i _ hne
        have hrest := ih he.2
        simp only [List.map_cons, List.sum_cons]
        omega

theorem sum_insert (d : Dict Nat) (key : String) (count : Nat) :
    (d.insert key count).values.sum + (d.get? key).getD 0 = d.values.sum + count :=
  sum_insertEntry d.ascending key count

/-- Adding counts up under their keys adds up the sums. -/
theorem sum_foldl_add (entries : List (String × Nat)) (d : Dict Nat) :
    (entries.foldl (fun d e => d.insert e.1 ((d.get? e.1).getD 0 + e.2)) d).values.sum =
      d.values.sum + (entries.map (·.2)).sum := by
  induction entries generalizing d with
  | nil => rfl
  | cons e rest ih =>
    have hfirst := sum_insert d e.1 ((d.get? e.1).getD 0 + e.2)
    rw [List.foldl_cons, ih, List.map_cons, List.sum_cons]
    omega

theorem values_map (d : Dict α) (f : α → β) : (d.map f).values = d.values.map f := by
  rw [values, values, map, List.map_map, List.map_map]
  rfl

/-- An insert adds the new value to a sum over the values and takes the old one away. -/
theorem sum_values_insert (f : α → Nat) (d : Dict α) (key : String) (value : α) :
    ((d.insert key value).values.map f).sum + ((d.get? key).map f).getD 0 =
      (d.values.map f).sum + f value := by
  rw [← values_map, ← values_map, ← get?_map, map_insert, sum_insert]

/-- One of the values is at most their sum. -/
theorem le_sum_values (f : α → Nat) (d : Dict α) (key : String) :
    ((d.get? key).map f).getD 0 ≤ (d.values.map f).sum := by
  cases hvalue : d.get? key with
  | none => exact Nat.zero_le _
  | some value =>
    apply List.single_le_sum (fun _ _ => Nat.zero_le _)
    exact List.mem_map_of_mem (mem_values_iff.2 ⟨key, hvalue⟩)

theorem values_filterMap (d : Dict α) (g : α → Option β) :
    (d.filterMap g).values = d.values.filterMap g := by
  rw [values, values, filterMap, List.map_filterMap, List.filterMap_map]
  congr 1
  funext e
  cases hvalue : g e.2 <;> simp [hvalue]

/-- What is dropped counts nothing. -/
theorem sum_values_filterMap (f : β → Nat) (g : α → Option β) (d : Dict α) :
    ((d.filterMap g).values.map f).sum = (d.values.map fun a => ((g a).map f).getD 0).sum := by
  rw [values_filterMap]
  induction d.values with
  | nil => rfl
  | cons a rest ih =>
    rw [List.filterMap_cons]
    cases hvalue : g a with
    | none => simpa [hvalue] using ih
    | some b => simpa [hvalue] using ih

end Dict

end SensorRouter
