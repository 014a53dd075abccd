import SensorRouter.Proofs.Json.FieldOrder

/-!
Readers that do not see the order of fields. A record is read by the names of its fields: it is readable
if no declared field is given twice, and then a lookup finds what is given. So a value in which no name
is repeated and its sorted form are read alike, also where they hold records of records.
-/

namespace SensorRouter.Json

open Document (ofValue)
open Value (DistinctNames Everywhere)

/-! ### Lookups -/

section Lookups

variable {α β : Type}

theorem lookup_of_perm {entries entries' : List (String × α)} (h : entries.Perm entries')
    (hdistinct : (entries.map Prod.fst).Nodup) (key : String) :
    entries.lookup key = entries'.lookup key := by
  induction h with
  | nil => rfl
  | cons e _ ih => rw [Dict.lookup_cons_eq, Dict.lookup_cons_eq, ih (List.nodup_cons.1 hdistinct).2]
  | swap a b rest =>
    have hne : b.1 ≠ a.1 := fun heq => (List.nodup_cons.1 hdistinct).1 (heq ▸ List.mem_cons_self)
    simp only [Dict.lookup_cons_eq]
    by_cases ha : key = a.1
    · rw [if_neg (fun hb => hne (hb.symm.trans ha)), if_pos ha, if_pos ha]
    · rw [if_neg ha, if_neg ha]
  | trans hfront _ ih ih' => exact (ih hdistinct).trans (ih' (((hfront.map _).nodup_iff).1 hdistinct))

theorem lookup_map_snd (f : α → β) (entries : List (String × α)) (key : String) :
    (entries.map fun e => (e.1, f e.2)).lookup key = (entries.lookup key).map f := by
  induction entries with
  | nil => rfl
  | cons e rest ih =>
    rw [List.map_cons, Dict.lookup_cons_eq, Dict.lookup_cons_eq, ih]
    split <;> rfl

theorem mem_of_lookup {entries : List (String × α)} {key : String} {a : α}
    (h : entries.lookup key = some a) : (key, a) ∈ entries := by
  obtain ⟨front, back, rfl, -⟩ := List.lookup_eq_some_iff.1 h
  exact List.mem_append_right _ List.mem_cons_self

theorem lookup_of_fresh {entries : List (String × α)} {key : String}
    (h : key ∉ entries.map Prod.fst) : entries.lookup key = none := by
  rw [Option.eq_none_iff_forall_ne_some]
  intro a ha
  exact h (List.mem_map_of_mem (mem_of_lookup ha))

end Lookups

namespace Record

/-! ### Fields that are given -/

/-- The declared fields among those of an object, under their declared names. -/
def given (declared : List FieldName) (fields : List (String × Value)) : List (String × Value) :=
  fields.filterMap fun f => (declared.find? fun d => d.Matches f.1).map fun d => (d.name, f.2)

theorem given_map (declared : List FieldName) (g : Value → Value) (fields : List (String × Value)) :
    given declared (fields.map fun f => (f.1, g f.2)) =
      (given declared fields).map fun f => (f.1, g f.2) := by
  rw [given, given, List.filterMap_map, List.map_filterMap]
  congr 1
  funext f
  rw [Function.comp_apply, Option.map_map]
  rfl

/-- A given field is a field of the object, by its name or by another name for it. -/
theorem mem_of_mem_given {declared : List FieldName} {fields : List (String × Value)}
    {name : String} {v : Value} (h : (name, v) ∈ given declared fields) :
    ∃ spelled, (spelled, v) ∈ fields := by
  obtain ⟨⟨spelled, w⟩, hmem, hw⟩ := List.mem_filterMap.1 h
  obtain ⟨d, -, heq⟩ := Option.map_eq_some_iff.1 hw
  cases heq
  exact ⟨spelled, hmem⟩

/-- Fields are collected unless one is given twice. -/
theorem collect_ofFields (declared : List FieldName) (fields : List (String × Value))
    {found : List (String × Document)} (hfound : (found.map Prod.fst).Nodup) :
    collect declared found (Document.ofFields fields) =
      if ((given declared fields).map Prod.fst ++ found.map Prod.fst).Nodup then
        some (((given declared fields).map fun f => (f.1, ofValue f.2)).reverse ++ found)
      else none := by
  induction fields generalizing found with
  | nil => exact (if_pos hfound).symm
  | cons f rest ih =>
    rw [Document.ofFields, collect]
    cases hdeclared : declared.find? fun d => d.Matches f.1 with
    | none =>
      have hskip : given declared (f :: rest) = given declared rest :=
        List.filterMap_cons_none (by rw [hdeclared]; rfl)
      simp only [hskip, ih hfound]
    | some d =>
      have hgiven : given declared (f :: rest) = (d.name, f.2) :: given declared rest :=
        List.filterMap_cons_some (by rw [hdeclared]; rfl)
      have htwice : (found.lookup d.name).isSome = true ↔ d.name ∈ found.map Prod.fst := by
        rw [List.lookup_isSome_iff, List.mem_map]
        exact exists_congr fun e => and_congr_right fun _ => beq_iff_eq.trans eq_comm
      rw [hgiven]
      by_cases hmem : d.name ∈ found.map Prod.fst
      · have hrepeated : ¬ (((d.name, f.2) :: given declared rest).map Prod.fst ++
            found.map Prod.fst).Nodup := by
          rw [List.map_cons, List.cons_append, List.nodup_cons]
          exact fun h => h.1 (List.mem_append_right _ hmem)
        simp only [htwice.2 hmem, if_true, if_neg hrepeated]
      · have hnext : (((d.name, ofValue f.2) :: found).map Prod.fst).Nodup :=
          List.nodup_cons.2 ⟨hmem, hfound⟩
        have hmiddle : ((given declared rest).map Prod.fst ++
            ((d.name, ofValue f.2) :: found).map Prod.fst).Nodup ↔
            (((d.name, f.2) :: given declared rest).map Prod.fst ++ found.map Prod.fst).Nodup :=
          List.perm_middle.nodup_iff
        simp only [if_neg (fun h => hmem (htwice.1 h)), ih hnext, if_congr hmiddle rfl rfl]
        rw [List.map_cons (f := fun f : String × Value => (f.1, ofValue f.2)), List.reverse_cons,
          List.append_assoc, List.singleton_append]

/-- An object is a record unless a declared field is given twice. -/
theorem read_object (declared : List FieldName) (fields : List (String × Value)) (surplus : Bool) :
    read declared (ofValue (.object fields)) surplus =
      if ((given declared fields).map Prod.fst).Nodup then
        some ⟨((given declared fields).map fun f => (f.1, ofValue f.2)).reverse, false⟩
      else none := by
  have hnone : (([] : List (String × Document)).map Prod.fst).Nodup := List.nodup_nil
  rw [ofValue, read, collect_ofFields declared fields hnone]
  simp only [List.map_nil, List.append_nil]
  split <;> rfl

theorem lookup_given {declared : List FieldName} {fields : List (String × Value)}
    (h : ((given declared fields).map Prod.fst).Nodup) (name : String) :
    ((given declared fields).map fun f => (f.1, ofValue f.2)).reverse.lookup name =
      ((given declared fields).lookup name).map ofValue := by
  rw [← lookup_map_snd]
  refine lookup_of_perm (List.reverse_perm _) ?_ name
  rw [List.map_reverse, List.nodup_reverse, List.map_map]
  exact h

/-! ### Records of a value and of its sorted form -/

/-- Two records whose fields are the same values, those of the second sorted. -/
def Alike (r r' : Record) : Prop :=
  ∀ name, ∃ field : Option Value, (∀ v ∈ field, v.Everywhere DistinctNames) ∧
    r.get? name = field.map ofValue ∧ r'.get? name = field.map fun v => ofValue v.sorted

theorem alike_objects {declared : List FieldName} {fields : List (String × Value)}
    (hdistinct : (Value.object fields).DistinctNames)
    (hfields : ∀ f ∈ fields, f.2.Everywhere DistinctNames) (surplus : Bool) :
    Option.Rel Alike (read declared (ofValue (.object fields)) surplus)
      (read declared (ofValue (Value.object fields).sorted) surplus) := by
  have hperm : (given declared (Value.inOrder (fields.map fun f => (f.1, f.2.sorted)))).Perm
      ((given declared fields).map fun f => (f.1, f.2.sorted)) := by
    rw [← given_map]
    exact (Value.perm_sorted hdistinct).filterMap _
  have hnames : ((given declared fields).map fun f => (f.1, f.2.sorted)).map Prod.fst =
      (given declared fields).map Prod.fst := by
    rw [List.map_map]
    rfl
  have htwice : ((given declared (Value.inOrder (fields.map fun f => (f.1, f.2.sorted)))).map
      Prod.fst).Nodup ↔ ((given declared fields).map Prod.fst).Nodup := by
    rw [(hperm.map _).nodup_iff, hnames]
  rw [Value.sorted_object, read_object, read_object]
  by_cases honce : ((given declared fields).map Prod.fst).Nodup
  · rw [if_pos honce, if_pos (htwice.2 honce)]
    refine .some fun name => ⟨(given declared fields).lookup name, fun v hv => ?_, ?_, ?_⟩
    · obtain ⟨spelled, hmem⟩ := mem_of_mem_given (mem_of_lookup hv)
      exact hfields _ hmem
    · exact lookup_given honce name
    · have hlookup := lookup_of_perm hperm (htwice.2 honce) name
      rw [lookup_map_snd] at hlookup
      exact (lookup_given (htwice.2 honce) name).trans (by rw [hlookup, Option.map_map]; rfl)
  · rw [if_neg honce, if_neg (mt htwice.1 honce)]
    exact .none

theorem alike_arrays {declared : List FieldName} {items : List Value}
    (hitems : ∀ v ∈ items, v.Everywhere DistinctNames) (surplus : Bool) :
    Option.Rel Alike (read declared (ofValue (.array items)) surplus)
      (read declared (ofValue (Value.array items).sorted) surplus) := by
  have hlookup : ∀ (f : Value → Document) (name : String),
      ((declared.map FieldName.name).zip (items.map f)).lookup name =
        (((declared.map FieldName.name).zip items).lookup name).map f := by
    intro f name
    rw [List.zip_map_right, ← lookup_map_snd]
    rfl
  rw [Value.sorted_array, ofValue, ofValue, Document.ofItems_eq_map, Document.ofItems_eq_map,
    List.map_map, read, read, List.length_map, List.length_map]
  split
  · refine .some fun name =>
      ⟨((declared.map FieldName.name).zip items).lookup name, fun v hv => ?_, ?_, ?_⟩
    · exact hitems v (List.of_mem_zip (mem_of_lookup hv)).2
    · exact hlookup ofValue name
    · exact hlookup _ name
  · exact .none

theorem alike_sorted (declared : List FieldName) {v : Value} (h : v.Everywhere DistinctNames)
    (surplus : Bool) :
    Option.Rel Alike (read declared (ofValue v) surplus)
      (read declared (ofValue v.sorted) surplus) := by
  cases v with
  | null | bool | number | string => exact .none
  | array items => exact alike_arrays (Value.everywhere_array_iff.1 h).2 surplus
  | object fields =>
    obtain ⟨hdistinct, hfields⟩ := Value.everywhere_object_iff.1 h
    exact alike_objects hdistinct hfields surplus

end Record

/-! ### Readers -/

namespace Document

variable {α : Type}

theorem mapM_congr_of_mem {read read' : Value → Option α} {items : List Value}
    (h : ∀ v ∈ items, read v = read' v) : items.mapM read = items.mapM read' := by
  induction items with
  | nil => rfl
  | cons v rest ih =>
    obtain ⟨hv, hrest⟩ := List.forall_mem_cons.1 h
    rw [List.mapM_cons, List.mapM_cons, hv, ih hrest]

/-- The reader reads a value and its sorted form alike. -/
def Unordered (read : Document → Option α) : Prop :=
  ∀ v : Value, v.Everywhere DistinctNames → read (ofValue v.sorted) = read (ofValue v)

theorem unordered_string? : Unordered string? := by
  intro v h
  cases v with
  | null | bool | number | string => rfl
  | array items => rw [Value.sorted_array]; rfl
  | object fields => rw [Value.sorted_object]; rfl

theorem Unordered.list? {read : Document → Option α} (hread : Unordered read) :
    Unordered (list? read) := by
  intro v h
  cases v with
  | null | bool | number | string => rfl
  | object fields => rw [Value.sorted_object]; rfl
  | array items =>
    have hitems := (Value.everywhere_array_iff.1 h).2
    rw [Value.sorted_array, ofValue, ofValue, ofItems_eq_map, ofItems_eq_map, List.map_map,
      Document.list?, Document.list?, List.mapM_map, List.mapM_map]
    exact mapM_congr_of_mem fun v hv => hread v (hitems v hv)

end Document

namespace Record

variable {α : Type} {read : Document → Option α} {r r' : Record}

theorem Alike.required (h : Alike r r') (hread : Document.Unordered read) (name : String) :
    r'.required name read = r.required name read := by
  obtain ⟨field, hfield, hr, hr'⟩ := h name
  rw [Record.required, Record.required, hr, hr']
  cases field with
  | none => rfl
  | some v => exact hread v (hfield v rfl)

theorem Alike.withDefault (h : Alike r r') (hread : Document.Unordered read) (name : String)
    (default : α) : r'.withDefault name default read = r.withDefault name default read := by
  obtain ⟨field, hfield, hr, hr'⟩ := h name
  rw [Record.withDefault, Record.withDefault, hr, hr']
  cases field with
  | none => rfl
  | some v => exact hread v (hfield v rfl)

/-- What is made of the fields of a record alone does not depend on their order. -/
theorem unordered_read (declared : List FieldName) (surplus : Bool) {make : Record → Option α}
    (hmake : ∀ r r', Alike r r' → make r' = make r) :
    Document.Unordered fun d => (Record.read declared d surplus).bind make := by
  intro v h
  have halike := alike_sorted declared h surplus
  change (Record.read declared (ofValue v.sorted) surplus).bind make =
    (Record.read declared (ofValue v) surplus).bind make
  revert halike
  generalize Record.read declared (ofValue v) surplus = r?
  generalize Record.read declared (ofValue v.sorted) surplus = r'?
  rintro (halike | _)
  · exact hmake _ _ halike
  · rfl

end Record

end SensorRouter.Json
