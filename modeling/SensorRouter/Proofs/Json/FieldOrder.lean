import SensorRouter.Json.Record
import SensorRouter.Proofs.Dict
import SensorRouter.Proofs.Json.Integers

/-!
The order of the fields of an object. A value may be written with its fields in any order; its sorted
form, with ascending names, is what the reader of values makes of it. A reader of records that looks its
fields up by name reads both alike.
-/

namespace SensorRouter.Json

namespace Value

/-! ### Induction -/

/-- A property of values holds if an array and an object have it whenever all values in them do. -/
@[elab_as_elim]
theorem induct {motive : Value → Prop} (null : motive .null) (bool : ∀ b, motive (.bool b))
    (number : ∀ n, motive (.number n)) (string : ∀ s, motive (.string s))
    (array : ∀ items, (∀ v ∈ items, motive v) → motive (.array items))
    (object : ∀ fields, (∀ f ∈ fields, motive f.2) → motive (.object fields)) (v : Value) :
    motive v :=
  @Value.rec motive (fun items => ∀ v ∈ items, motive v) (fun fields => ∀ f ∈ fields, motive f.2)
    (fun f => motive f.2) null bool number string array object nofun
    (fun _ _ hv hrest => List.forall_mem_cons.2 ⟨hv, hrest⟩) nofun
    (fun _ _ hf hrest => List.forall_mem_cons.2 ⟨hf, hrest⟩) (fun _ _ hv => hv) v

/-! ### Depth, tests, sorted form -/

mutual

/-- How deep arrays and objects are nested in a value. -/
def depth : Value → Nat
  | .null | .bool _ | .number _ | .string _ => 0
  | .array items => depthOfItems items + 1
  | .object fields => depthOfFields fields + 1
termination_by structural v => v

def depthOfItems : List Value → Nat
  | [] => 0
  | v :: rest => max v.depth (depthOfItems rest)
termination_by structural items => items

def depthOfFields : List (String × Value) → Nat
  | [] => 0
  | (_, v) :: rest => max v.depth (depthOfFields rest)
termination_by structural fields => fields

end

mutual

/-- The value and all values in it pass a test. -/
def Everywhere (p : Value → Prop) : Value → Prop
  | .array items => p (.array items) ∧ EverywhereInItems p items
  | .object fields => p (.object fields) ∧ EverywhereInFields p fields
  | .null => p .null
  | .bool b => p (.bool b)
  | .number n => p (.number n)
  | .string s => p (.string s)
termination_by structural v => v

def EverywhereInItems (p : Value → Prop) : List Value → Prop
  | [] => True
  | v :: rest => v.Everywhere p ∧ EverywhereInItems p rest
termination_by structural items => items

def EverywhereInFields (p : Value → Prop) : List (String × Value) → Prop
  | [] => True
  | (_, v) :: rest => v.Everywhere p ∧ EverywhereInFields p rest
termination_by structural fields => fields

end

/-- A number only if it is an integer of 64 bits. -/
def WholeNumber : Value → Prop
  | .number n => n.Whole
  | _ => True

/-- An object only if no name is repeated. -/
def DistinctNames : Value → Prop
  | .object fields => (fields.map Prod.fst).Nodup
  | _ => True

/-- An object only if its fields stand by ascending names. -/
def AscendingNames : Value → Prop
  | .object fields => Dict.Ascending fields
  | _ => True

mutual

/-- The value with the fields of all objects by ascending names. -/
def sorted : Value → Value
  | .array items => .array (sortedItems items)
  | .object fields => .ofFields (sortedFields fields)
  | .null => .null
  | .bool b => .bool b
  | .number n => .number n
  | .string s => .string s
termination_by structural v => v

def sortedItems : List Value → List Value
  | [] => []
  | v :: rest => v.sorted :: sortedItems rest
termination_by structural items => items

def sortedFields : List (String × Value) → List (String × Value)
  | [] => []
  | (name, v) :: rest => (name, v.sorted) :: sortedFields rest
termination_by structural fields => fields

end

theorem depthOfItems_le_iff {items : List Value} {n : Nat} :
    depthOfItems items ≤ n ↔ ∀ v ∈ items, v.depth ≤ n := by
  induction items with
  | nil => simp [depthOfItems]
  | cons v rest ih => rw [depthOfItems, Nat.max_le, ih, List.forall_mem_cons]

theorem depthOfFields_le_iff {fields : List (String × Value)} {n : Nat} :
    depthOfFields fields ≤ n ↔ ∀ f ∈ fields, f.2.depth ≤ n := by
  induction fields with
  | nil => simp [depthOfFields]
  | cons f rest ih => rw [depthOfFields, Nat.max_le, ih, List.forall_mem_cons]

variable {p : Value → Prop}

theorem everywhere_array_iff {items : List Value} :
    (array items).Everywhere p ↔ p (.array items) ∧ ∀ v ∈ items, v.Everywhere p := by
  have hitems : EverywhereInItems p items ↔ ∀ v ∈ items, v.Everywhere p := by
    induction items with
    | nil => simp [EverywhereInItems]
    | cons v rest ih => rw [EverywhereInItems, ih, List.forall_mem_cons]
  rw [Everywhere, hitems]

theorem everywhere_object_iff {fields : List (String × Value)} :
    (object fields).Everywhere p ↔ p (.object fields) ∧ ∀ f ∈ fields, f.2.Everywhere p := by
  have hfields : EverywhereInFields p fields ↔ ∀ f ∈ fields, f.2.Everywhere p := by
    induction fields with
    | nil => simp [EverywhereInFields]
    | cons f rest ih => rw [EverywhereInFields, ih, List.forall_mem_cons]
  rw [Everywhere, hfields]

theorem sorted_array (items : List Value) : (array items).sorted = .array (items.map sorted) := by
  have hitems : sortedItems items = items.map sorted := by
    induction items with
    | nil => rfl
    | cons v rest ih => rw [sortedItems, ih, List.map_cons]
  rw [sorted, hitems]

theorem sortedFields_eq_map (fields : List (String × Value)) :
    sortedFields fields = fields.map fun f => (f.1, f.2.sorted) := by
  induction fields with
  | nil => rfl
  | cons f rest ih => rw [sortedFields, ih, List.map_cons]

/-! ### Fields in order -/

/-- Fields in any order, brought into ascending order; of a repeated name the last stays. -/
def inOrder (fields : List (String × Value)) : List (String × Value) :=
  fields.foldl (fun done f => Dict.insertEntry f.1 f.2 done) []

theorem ofFields_pair {a b : String} (h : a < b) (v w : Value) :
    ofFields [(a, v), (b, w)] = .object [(a, v), (b, w)] := by
  have hbefore : ¬ b < a := fun hlt => String.lt_irrefl a (String.lt_trans h hlt)
  have hne : b ≠ a := by
    rintro rfl
    exact String.lt_irrefl b h
  simp only [ofFields, List.foldl_cons, List.foldl_nil, Dict.insertEntry, if_neg hbefore,
    if_neg hne]

theorem ofFields_swapped {a b : String} (h : a < b) (v w : Value) :
    ofFields [(b, w), (a, v)] = .object [(a, v), (b, w)] := by
  simp only [ofFields, List.foldl_cons, List.foldl_nil, Dict.insertEntry, if_pos h]

theorem sorted_object (fields : List (String × Value)) :
    (object fields).sorted = .object (inOrder (fields.map fun f => (f.1, f.2.sorted))) := by
  rw [sorted, sortedFields_eq_map]
  rfl

theorem perm_insertEntry {entries : List (String × Value)} {name : String} (v : Value)
    (h : name ∉ entries.map Prod.fst) :
    (Dict.insertEntry name v entries).Perm ((name, v) :: entries) := by
  induction entries with
  | nil => exact .refl _
  | cons e rest ih =>
    obtain ⟨hne, hrest⟩ := not_or.1 fun hmem => h (List.mem_cons.2 hmem)
    rw [Dict.insertEntry, if_neg (show ¬ name = e.1 from hne)]
    split
    · exact .refl _
    · exact ((ih hrest).cons e).trans (.swap _ _ _)

/-- Where no name is repeated, no field is lost. -/
theorem perm_inOrder {fields : List (String × Value)} (h : (fields.map Prod.fst).Nodup) :
    (inOrder fields).Perm fields := by
  have hfold : ∀ done : List (String × Value), ((done ++ fields).map Prod.fst).Nodup →
      (fields.foldl (fun done f => Dict.insertEntry f.1 f.2 done) done).Perm (done ++ fields) := by
    clear h
    induction fields with
    | nil => exact fun done _ => by rw [List.append_nil]; exact .refl _
    | cons f rest ih =>
      intro done hdone
      have hmiddle : (done ++ f :: rest).Perm (f :: done ++ rest) := List.perm_middle
      have hnodup : ((f :: done ++ rest).map Prod.fst).Nodup :=
        ((hmiddle.map _).nodup_iff).1 hdone
      have hfresh : f.1 ∉ done.map Prod.fst := by
        rw [List.cons_append, List.map_cons, List.map_append, List.nodup_cons] at hnodup
        exact fun hmem => hnodup.1 (List.mem_append_left _ hmem)
      have hinsert := perm_insertEntry f.2 hfresh
      have hall := (hinsert.append_right rest)
      exact (ih _ (((hall.map _).nodup_iff).2 hnodup)).trans (hall.trans hmiddle.symm)
  exact hfold [] h

theorem insertEntry_of_greater {entries : List (String × Value)} {name : String} (v : Value)
    (h : ∀ e ∈ entries, e.1 < name) :
    Dict.insertEntry name v entries = entries ++ [(name, v)] := by
  induction entries with
  | nil => rfl
  | cons e rest ih =>
    obtain ⟨he, hrest⟩ := List.forall_mem_cons.1 h
    have hne : name ≠ e.1 := fun heq => String.lt_irrefl _ (heq ▸ he)
    have hnot : ¬ name < e.1 := fun hlt => String.lt_irrefl _ (String.lt_trans hlt he)
    rw [Dict.insertEntry, if_neg hnot, if_neg hne, ih hrest, List.cons_append]

theorem inOrder_of_ascending {fields : List (String × Value)} (h : Dict.Ascending fields) :
    inOrder fields = fields := by
  induction fields using List.reverseRecOn with
  | nil => rfl
  | append_singleton fields f ih =>
    obtain ⟨hfields, -, hgreater⟩ := List.pairwise_append.1 h
    have hfront := ih hfields
    rw [inOrder] at hfront
    rw [inOrder, List.foldl_append, hfront]
    exact insertEntry_of_greater f.2 fun e he => hgreater e he f List.mem_cons_self

theorem sorted_eq_self {v : Value} (h : v.Everywhere AscendingNames) : v.sorted = v := by
  induction v using induct with
  | null | bool | number | string => rfl
  | array items ih =>
    have hitems := (everywhere_array_iff.1 h).2
    rw [sorted_array, List.map_congr_left fun v hv => ih v hv (hitems v hv), List.map_id']
  | object fields ih =>
    obtain ⟨hascending, hfields⟩ := everywhere_object_iff.1 h
    have hsame : (fields.map fun f => (f.1, f.2.sorted)) = fields := by
      rw [List.map_congr_left fun f hf => congrArg (f.1, ·) (ih f hf (hfields f hf)), List.map_id']
    rw [sorted_object, hsame, inOrder_of_ascending hascending]

/-- The fields of the sorted form of an object without repeated names. -/
theorem perm_sorted {fields : List (String × Value)} (h : (object fields).DistinctNames) :
    (inOrder (fields.map fun f => (f.1, f.2.sorted))).Perm
      (fields.map fun f => (f.1, f.2.sorted)) := by
  refine perm_inOrder ?_
  rw [List.map_map]
  exact h

theorem depth_sorted_le_iff {v : Value} (h : v.Everywhere DistinctNames) (n : Nat) :
    v.sorted.depth ≤ n ↔ v.depth ≤ n := by
  induction v using induct generalizing n with
  | null | bool | number | string => rfl
  | array items ih =>
    have hitems := (everywhere_array_iff.1 h).2
    cases n with
    | zero => simp [sorted_array, depth]
    | succ n =>
      rw [sorted_array, depth, depth, Nat.succ_le_succ_iff, Nat.succ_le_succ_iff,
        depthOfItems_le_iff, depthOfItems_le_iff, List.forall_mem_map]
      exact forall₂_congr fun v hv => ih v hv (hitems v hv) n
  | object fields ih =>
    obtain ⟨hdistinct, hfields⟩ := everywhere_object_iff.1 h
    cases n with
    | zero => simp [sorted_object, depth]
    | succ n =>
      rw [sorted_object, depth, depth, Nat.succ_le_succ_iff, Nat.succ_le_succ_iff,
        depthOfFields_le_iff, depthOfFields_le_iff]
      simp only [(perm_sorted hdistinct).mem_iff, List.forall_mem_map]
      exact forall₂_congr fun f hf => ih f hf (hfields f hf) n

/-! ### Numbers -/

theorem readsBack_array_iff {items : List Value} :
    (array items).ReadsBack ↔ ∀ v ∈ items, v.ReadsBack :=
  Document.itemsReadBack_iff items

theorem readsBack_object_iff {fields : List (String × Value)} :
    (object fields).ReadsBack ↔ ∀ f ∈ fields, f.2.ReadsBack := by
  rw [ReadsBack]
  induction fields with
  | nil => simp [FieldsReadBack]
  | cons f rest ih => rw [FieldsReadBack, ih, List.forall_mem_cons]

theorem readsBack_of_whole {v : Value} (h : v.Everywhere WholeNumber) : v.ReadsBack := by
  induction v using induct with
  | null | bool | string => trivial
  | number n => exact Number.Whole.readsBack h
  | array items ih =>
    exact readsBack_array_iff.2 fun v hv => ih v hv ((everywhere_array_iff.1 h).2 v hv)
  | object fields ih =>
    exact readsBack_object_iff.2 fun f hf => ih f hf ((everywhere_object_iff.1 h).2 f hf)

theorem readsBack_sorted_iff {v : Value} (h : v.Everywhere DistinctNames) :
    v.sorted.ReadsBack ↔ v.ReadsBack := by
  induction v using induct with
  | null | bool | number | string => rfl
  | array items ih =>
    have hitems := (everywhere_array_iff.1 h).2
    rw [sorted_array, readsBack_array_iff, readsBack_array_iff, List.forall_mem_map]
    exact forall₂_congr fun v hv => ih v hv (hitems v hv)
  | object fields ih =>
    obtain ⟨hdistinct, hfields⟩ := everywhere_object_iff.1 h
    rw [sorted_object, readsBack_object_iff, readsBack_object_iff]
    simp only [(perm_sorted hdistinct).mem_iff, List.forall_mem_map]
    exact forall₂_congr fun f hf => ih f hf (hfields f hf)

end Value

namespace Document

open Value (sorted sortedItems sortedFields DistinctNames WholeNumber Everywhere)

mutual

/-- The value of a document that is a value is its sorted form. -/
theorem valueWithin_ofValue (v : Value) {depth : Nat} (h : v.depth ≤ depth) :
    (ofValue v).valueWithin depth = some v.sorted := by
  match v with
  | .null | .bool _ | .number _ | .string _ => rfl
  | .array items =>
    obtain ⟨n, rfl⟩ : ∃ n, depth = n + 1 :=
      Nat.exists_eq_add_of_le' (Nat.le_trans (Nat.succ_pos _) h)
    have hitems := itemValues_ofItems items (Nat.le_of_succ_le_succ h)
    rw [ofValue, valueWithin, if_neg (Nat.succ_ne_zero n), Nat.succ_sub_one, hitems, sorted]
    rfl
  | .object fields =>
    obtain ⟨n, rfl⟩ : ∃ n, depth = n + 1 :=
      Nat.exists_eq_add_of_le' (Nat.le_trans (Nat.succ_pos _) h)
    have hfields := fieldValues_ofFields fields (Nat.le_of_succ_le_succ h)
    rw [ofValue, valueWithin, if_neg (Nat.succ_ne_zero n), Nat.succ_sub_one, hfields, sorted]
    rfl
termination_by structural v

theorem itemValues_ofItems (items : List Value) {depth : Nat}
    (h : Value.depthOfItems items ≤ depth) :
    itemValues depth (ofItems items) = some (sortedItems items) := by
  match items with
  | [] => rfl
  | v :: rest =>
    obtain ⟨hv, hrest⟩ := Nat.max_le.1 h
    have hvalue := valueWithin_ofValue v hv
    have hvalues := itemValues_ofItems rest hrest
    simp only [ofItems, itemValues, hvalue, hvalues]
    rfl
termination_by structural items

theorem fieldValues_ofFields (fields : List (String × Value)) {depth : Nat}
    (h : Value.depthOfFields fields ≤ depth) :
    fieldValues depth (ofFields fields) = some (sortedFields fields) := by
  match fields with
  | [] => rfl
  | (name, v) :: rest =>
    obtain ⟨hv, hrest⟩ := Nat.max_le.1 h
    have hvalue := valueWithin_ofValue v hv
    have hvalues := fieldValues_ofFields rest hrest
    simp only [ofFields, fieldValues, hvalue, hvalues]
    rfl
termination_by structural fields

end

end Document

end SensorRouter.Json
