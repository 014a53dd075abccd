import SensorRouter.Proofs.Json.Readers

/-!
Readers that give back what was written. A value may be written with the fields of its objects in any
order; a reader decodes it if it reads every such writing as the same thing. Records are decoded field
by field, and a field that was left out is read as its default.
-/

namespace SensorRouter.Json

open Document (ofValue)
open Value (DistinctNames Everywhere inOrder)

/-! ### Lookups -/

section Lookups

variable {α : Type} {entries : List (String × α)}

theorem lookup_filter_fst (keep : String → Bool) (entries : List (String × α)) (key : String) :
    (entries.filter fun e => keep e.1).lookup key = if keep key then entries.lookup key else none := by
  induction entries with
  | nil => simp
  | cons e rest ih =>
    rw [List.filter_cons, Dict.lookup_cons_eq]
    split
    · next hkeep =>
      rw [Dict.lookup_cons_eq, ih]
      by_cases hkey : key = e.1
      · rw [if_pos hkey, if_pos hkey, hkey, if_pos hkeep]
      · rw [if_neg hkey, if_neg hkey]
    · next hkeep =>
      rw [ih]
      by_cases hkey : key = e.1
      · rw [hkey, if_neg hkeep, if_neg hkeep]
      · rw [if_neg hkey]

/-- Where no key is repeated, one entry at most has the key. -/
theorem filter_eq_of_lookup (hdistinct : (entries.map Prod.fst).Nodup) {key : String} {a : α}
    (h : entries.lookup key = some a) : entries.filter (fun e => e.1 = key) = [(key, a)] := by
  induction entries with
  | nil => exact nomatch h
  | cons e rest ih =>
    obtain ⟨hfresh, hrest⟩ := List.nodup_cons.1 hdistinct
    rw [Dict.lookup_cons_eq] at h
    by_cases hkey : key = e.1
    · rw [if_pos hkey] at h
      cases h
      subst hkey
      have hnone : rest.filter (fun f => f.1 = e.1) = [] := by
        apply List.filter_eq_nil_iff.2
        intro f hf heq
        exact hfresh (of_decide_eq_true heq ▸ List.mem_map_of_mem hf)
      rw [List.filter_cons_of_pos (by simp), hnone]
    · rw [if_neg hkey] at h
      rw [List.filter_cons_of_neg (by simpa using Ne.symm hkey)]
      exact ih hrest h

/-- The entries of a dictionary, listed in any order, make it again. -/
theorem ofList_of_perm {d : Dict α} (h : entries.Perm d.entries) : Dict.ofList entries = d := by
  have hdistinct : (entries.map Prod.fst).Nodup := (h.map _).nodup_iff.2 d.nodup_keys
  have hfold : ∀ (entries : List (String × α)) (d : Dict α) (key : String),
      (entries.map Prod.fst).Nodup →
        (entries.foldl (fun d e => d.insert e.1 e.2) d).get? key =
          (entries.lookup key).or (d.get? key) := by
    intro entries
    induction entries with
    | nil => exact fun _ _ _ => rfl
    | cons e rest ih =>
      intro d key hnodup
      obtain ⟨hfresh, hrest⟩ := List.nodup_cons.1 hnodup
      rw [List.foldl_cons, ih _ _ hrest, Dict.get?_insert, Dict.lookup_cons_eq]
      by_cases hkey : key = e.1
      · rw [hkey, lookup_of_fresh hfresh, if_pos rfl, if_pos rfl]
        rfl
      · rw [if_neg hkey, if_neg hkey]
  apply Dict.ext_get?
  intro key
  rw [Dict.ofList, hfold _ _ _ hdistinct, Dict.get?_empty, Option.or_none]
  exact lookup_of_perm h hdistinct key

end Lookups

/-! ### Fields of values -/

namespace Value

theorem get?_sorted {v : Value} (h : v.DistinctNames) (name : String) :
    v.sorted.get? name = (v.get? name).map sorted := by
  cases v with
  | null | bool | number | string => rfl
  | array items => rw [sorted_array]; rfl
  | object fields =>
    have hperm := perm_sorted h
    have hnodup : ((inOrder (fields.map fun f => (f.1, f.2.sorted))).map Prod.fst).Nodup := by
      rw [(hperm.map _).nodup_iff, List.map_map]
      exact h
    rw [sorted_object]
    exact (lookup_of_perm hperm hnodup name).trans (lookup_map_snd ..)

/-- Writings of one value have the same under each name, but for the order of fields in it. -/
theorem get?_of_sorted_eq {v w : Value} (hv : v.DistinctNames) (hw : w.DistinctNames)
    (h : w.sorted = v.sorted) (name : String) :
    (w.get? name).map sorted = (v.get? name).map sorted := by
  rw [← get?_sorted hw, h, get?_sorted hv]

theorem exists_object_of_sorted {v : Value} {fields : List (String × Value)}
    (h : v.sorted = .object fields) : ∃ fields', v = .object fields' := by
  cases v with
  | object fields' => exact ⟨fields', rfl⟩
  | array items => rw [sorted_array] at h; exact nomatch h
  | _ => exact nomatch h

/-- The entries of a dictionary stand by ascending keys already. -/
theorem sorted_ofDict {α : Type} (d : Dict α) (write : α → Value) :
    (ofDict (d.map write)).sorted = ofDict (d.map fun a => (write a).sorted) := by
  have hentries : (d.map write).entries.map (fun f => (f.1, f.2.sorted)) =
      (d.map fun a => (write a).sorted).entries := by
    simp [Dict.map]
  rw [ofDict, sorted_object, hentries, inOrder_of_ascending (Dict.ascending _)]
  rfl

theorem everywhere_sorted {v : Value} (h : v.Everywhere DistinctNames) :
    v.sorted.Everywhere DistinctNames := by
  induction v using induct with
  | null | bool | number | string => exact h
  | array items ih =>
    obtain ⟨-, hitems⟩ := everywhere_array_iff.1 h
    rw [sorted_array]
    exact everywhere_array_iff.2 ⟨trivial, List.forall_mem_map.2 fun v hv => ih v hv (hitems v hv)⟩
  | object fields ih =>
    obtain ⟨hdistinct, hfields⟩ := everywhere_object_iff.1 h
    have hperm := perm_sorted hdistinct
    rw [sorted_object]
    apply everywhere_object_iff.2
    constructor
    · apply (hperm.map _).nodup_iff.2
      rw [List.map_map]
      exact hdistinct
    · intro f hf
      obtain ⟨g, hg, rfl⟩ := List.mem_map.1 (hperm.subset hf)
      exact ih g hg (hfields g hg)

theorem ascending_inOrder (fields : List (String × Value)) : Dict.Ascending (inOrder fields) :=
  List.foldlRecOn fields _ .nil fun _ h f _ => h.insertEntry f.1 f.2

/-- The sorted form is sorted. -/
theorem sorted_sorted {v : Value} (h : v.Everywhere DistinctNames) : v.sorted.sorted = v.sorted := by
  induction v using induct with
  | null | bool | number | string => rfl
  | array items ih =>
    obtain ⟨-, hitems⟩ := everywhere_array_iff.1 h
    rw [sorted_array, sorted_array, List.map_map]
    exact congrArg array (List.map_congr_left fun v hv => ih v hv (hitems v hv))
  | object fields ih =>
    obtain ⟨hdistinct, hfields⟩ := everywhere_object_iff.1 h
    have hsame : ∀ f ∈ inOrder (fields.map fun f => (f.1, f.2.sorted)), (f.1, f.2.sorted) = f := by
      intro f hf
      obtain ⟨g, hg, rfl⟩ := List.mem_map.1 ((perm_sorted hdistinct).subset hf)
      exact congrArg (g.1, ·) (ih g hg (hfields g hg))
    rw [sorted_object, sorted_object, List.map_congr_left hsame, List.map_id',
      inOrder_of_ascending (ascending_inOrder _)]

/-- A value without fields is its only writing. -/
theorem eq_of_sorted {v w : Value} (h : w.sorted = v) (hobject : ∀ fields, v ≠ .object fields)
    (harray : ∀ items, v ≠ .array items) : w = v := by
  cases w with
  | object fields => exact absurd (h.symm.trans (sorted_object fields)) (hobject _)
  | array items => exact absurd (h.symm.trans (sorted_array items)) (harray _)
  | _ => exact h

theorem names_present (fields : List (String × Option Value)) :
    ((present fields).map Prod.fst).Sublist (fields.map Prod.fst) := by
  induction fields with
  | nil => exact .slnil
  | cons f rest ih =>
    obtain ⟨name, v⟩ := f
    cases v with
    | none => exact ih.cons name
    | some v => exact ih.cons_cons name

theorem lookup_present (fields : List (String × Option Value))
    (h : (fields.map Prod.fst).Nodup) (name : String) :
    (present fields).lookup name = (fields.lookup name).join := by
  induction fields with
  | nil => rfl
  | cons f rest ih =>
    obtain ⟨hfresh, hrest⟩ := List.nodup_cons.1 h
    obtain ⟨first, v⟩ := f
    have hlater := ih hrest
    rw [Dict.lookup_cons_eq]
    cases v with
    | some v =>
      change ((first, v) :: present rest).lookup name = _
      rw [Dict.lookup_cons_eq, hlater]
      split <;> rfl
    | none =>
      change (present rest).lookup name = _
      by_cases hname : name = first
      · have hnone := lookup_of_fresh fun hmem => hfresh ((names_present rest).subset hmem)
        rw [hname, if_pos rfl, hnone]
        rfl
      · rw [if_neg hname, hlater]

variable {fields : List (String × Option Value)}

theorem get?_ofPresent (h : (fields.map Prod.fst).Nodup) (name : String) :
    (ofPresent fields).get? name = (fields.lookup name).join :=
  lookup_present fields h name

/-- What holds of every field that is listed holds of every field of the object. -/
theorem forall_present {p : Value → Prop} (h : ∀ f ∈ fields, ∀ v ∈ f.2, p v) :
    ∀ f ∈ present fields, p f.2 := by
  intro f hf
  obtain ⟨g, hg, hgf⟩ := List.mem_filterMap.1 hf
  obtain ⟨v, hv, rfl⟩ := Option.map_eq_some_iff.1 hgf
  exact h g hg v hv

theorem distinctNames_ofPresent (h : (fields.map Prod.fst).Nodup) :
    (ofPresent fields).DistinctNames :=
  (names_present fields).nodup h

theorem everywhere_ofPresent (h : (fields.map Prod.fst).Nodup)
    (hfields : ∀ f ∈ fields, ∀ v ∈ f.2, v.Everywhere DistinctNames) :
    (ofPresent fields).Everywhere DistinctNames :=
  everywhere_object_iff.2 ⟨distinctNames_ofPresent h, forall_present hfields⟩

theorem depth_ofPresent_le {n : Nat} (h : ∀ f ∈ fields, ∀ v ∈ f.2, v.depth ≤ n) :
    (ofPresent fields).depth ≤ n + 1 :=
  Nat.succ_le_succ (depthOfFields_le_iff.2 (forall_present h))

theorem readsBack_ofPresent (h : ∀ f ∈ fields, ∀ v ∈ f.2, v.ReadsBack) :
    (ofPresent fields).ReadsBack :=
  readsBack_object_iff.2 (forall_present h)

end Value

/-! ### Readers -/

/-- In whatever order the fields of the value are written, it is read as `a`. -/
def Decodes {α : Type} (read : Document → Option α) (v : Value) (a : α) : Prop :=
  ∀ w : Value, w.Everywhere DistinctNames → w.sorted = v.sorted → read (ofValue w) = some a

section Readers

variable {α : Type} {read : Document → Option α} {v : Value} {a : α}

theorem decodes_string (s : String) (h : read (.string (some s)) = some a) :
    Decodes read (.string s) a := by
  intro w _ hw
  rw [Value.eq_of_sorted (v := .string s) hw nofun nofun]
  exact h

theorem decodes_text (s : String) : Decodes Document.string? (.string s) s :=
  decodes_string s rfl

theorem decodes_double (x : Double) : Decodes Document.double? (.double x) x := by
  intro w _ hw
  rw [Value.eq_of_sorted (v := .double x) hw nofun nofun]
  rfl

theorem Decodes.optional (h : Decodes read v a) (hnull : v ≠ .null) :
    Decodes (Document.optional read) v (some a) := by
  intro w hdistinct hw
  have hread := h w hdistinct hw
  cases w with
  | null => exact absurd (Value.eq_of_sorted hw.symm nofun nofun) hnull
  | _ => exact congrArg (Option.map some) hread

theorem Document.ofFields_eq_map (fields : List (String × Value)) :
    Document.ofFields fields = fields.map fun f => (some f.1, ofValue f.2) := by
  induction fields with
  | nil => rfl
  | cons f rest ih => rw [Document.ofFields, ih, List.map_cons]

/-- Fields whose values are read as what is kept under their names. -/
theorem mapM_ofFields {get : String → Option α} {fields : List (String × Value)}
    (h : ∀ f ∈ fields, ∃ a, get f.1 = some a ∧ read (ofValue f.2) = some a) :
    (Document.ofFields fields).mapM (fun f => do return (← f.1, ← read f.2)) =
      some ((fields.map Prod.fst).filterMap fun key => (get key).map (key, ·)) := by
  induction fields with
  | nil => rfl
  | cons f rest ih =>
    obtain ⟨⟨a, hget, hread⟩, hrest⟩ := List.forall_mem_cons.1 h
    rw [Document.ofFields, List.mapM_cons, ih hrest, List.map_cons, List.filterMap_cons, hget]
    simp [hread]

theorem filterMap_keys (d : Dict α) :
    (d.entries.map Prod.fst).filterMap (fun key => (d.get? key).map (key, ·)) = d.entries := by
  rw [List.filterMap_map]
  refine (List.filterMap_congr fun e he => ?_).trans List.filterMap_some
  rw [Function.comp_apply, Dict.get?_eq_some_iff.2 he]
  rfl

/-- An object of values that are decoded is decoded as the dictionary of them. -/
theorem decodes_dict {write : α → Value} (d : Dict α)
    (h : ∀ key a, d.get? key = some a → Decodes read (write a) a) :
    Decodes (Document.dict? read) (.ofDict (d.map write)) d := by
  intro w hdistinct hw
  obtain ⟨fields, rfl⟩ := Value.exists_object_of_sorted hw
  obtain ⟨hnames, hfields⟩ := Value.everywhere_object_iff.1 hdistinct
  have hperm : (fields.map fun f => (f.1, f.2.sorted)).Perm
      (d.entries.map fun e => (e.1, (write e.2).sorted)) := by
    rw [Value.sorted_ofDict] at hw
    have hentries := (Value.sorted_object fields).symm.trans hw
    have hlisted := Value.perm_sorted hnames
    rw [Value.object.inj hentries] at hlisted
    exact hlisted.symm
  have hread : ∀ f ∈ fields, ∃ a, d.get? f.1 = some a ∧ read (ofValue f.2) = some a := by
    intro f hf
    have hmem := hperm.subset (List.mem_map_of_mem hf)
    obtain ⟨e, he, heq⟩ := List.mem_map.1 hmem
    obtain ⟨hkey, hvalue⟩ := Prod.mk.inj heq
    have hget : d.get? f.1 = some e.2 := hkey ▸ Dict.get?_eq_some_iff.2 he
    exact ⟨e.2, hget, h f.1 e.2 hget f.2 (hfields f hf) hvalue.symm⟩
  have hkeys : (fields.map Prod.fst).Perm (d.entries.map Prod.fst) := by
    have hfirst := hperm.map Prod.fst
    rwa [List.map_map, List.map_map] at hfirst
  have hentries := hkeys.filterMap fun key => (d.get? key).map (key, ·)
  rw [filterMap_keys] at hentries
  rw [ofValue, Document.dict?, mapM_ofFields hread]
  exact congrArg some (ofList_of_perm hentries)

end Readers

/-! ### Records -/

namespace Record

variable {α : Type} {read : Document → Option α} {r : Record} {name : String}

/-- The record has a field of that value, in whatever order it is written, or does not have the field. -/
def Gives (r : Record) (name : String) (v : Option Value) : Prop :=
  ∃ found : Option Value, (∀ w ∈ found, w.Everywhere DistinctNames) ∧
    r.get? name = found.map ofValue ∧ found.map Value.sorted = v.map Value.sorted

theorem Gives.of_sorted_eq {v v' : Option Value} (h : r.Gives name v)
    (heq : v.map Value.sorted = v'.map Value.sorted) : r.Gives name v' := by
  obtain ⟨found, hdistinct, hget, hsorted⟩ := h
  exact ⟨found, hdistinct, hget, hsorted.trans heq⟩

theorem Gives.required {v : Value} {a : α} (h : r.Gives name (some v)) (hread : Decodes read v a) :
    r.required name read = some a := by
  obtain ⟨found, hdistinct, hget, hsorted⟩ := h
  obtain ⟨w, rfl, hw⟩ := Option.map_eq_some_iff.1 hsorted
  rw [Record.required, hget]
  exact hread w (hdistinct w rfl) hw

theorem Gives.withDefault {v : Value} {a : α} (h : r.Gives name (some v)) (hread : Decodes read v a)
    (default : α) : r.withDefault name default read = some a := by
  obtain ⟨found, hdistinct, hget, hsorted⟩ := h
  obtain ⟨w, rfl, hw⟩ := Option.map_eq_some_iff.1 hsorted
  rw [Record.withDefault, hget]
  exact hread w (hdistinct w rfl) hw

theorem Gives.withDefault_none (h : r.Gives name none) (default : α)
    (read : Document → Option α) : r.withDefault name default read = some default := by
  obtain ⟨found, -, hget, hsorted⟩ := h
  cases Option.map_eq_none_iff.1 hsorted
  rw [Record.withDefault, hget]
  rfl

/-- A field that is written where there is something, and else left out. -/
theorem Gives.withDefault_optional {write : α → Value} {a? : Option α}
    (h : r.Gives name (a?.map write)) (hread : ∀ a ∈ a?, Decodes read (write a) a)
    (hnull : ∀ a, write a ≠ .null) :
    r.withDefault name none (Document.optional read) = some a? := by
  cases a? with
  | none => exact h.withDefault_none none _
  | some a => exact h.withDefault ((hread a rfl).optional (hnull a)) none

/-- Without other names for the fields, the given fields are those with a declared name. -/
theorem given_of_plain {declared : List FieldName} (hplain : ∀ d ∈ declared, d.aliases = [])
    (fields : List (String × Value)) :
    given declared fields = fields.filter fun f => declared.any fun d => d.name = f.1 := by
  have hmatches : ∀ d ∈ declared, ∀ name, d.Matches name ↔ d.name = name := by
    intro d hd name
    simp [FieldName.Matches, hplain d hd, eq_comm]
  rw [given, ← List.filterMap_eq_filter]
  apply List.filterMap_congr
  intro f _
  cases hfind : declared.find? fun d => d.Matches f.1 with
  | none =>
    have hany : (declared.any fun d => d.name = f.1) = false := by
      rw [List.any_eq_false]
      intro d hd hname
      have hnot := List.find?_eq_none.1 hfind d hd
      exact hnot (decide_eq_true ((hmatches d hd f.1).2 (of_decide_eq_true hname)))
    simp [Option.guard, hany]
  | some d =>
    have hd := List.mem_of_find?_eq_some hfind
    have hfound : decide (d.Matches f.1) = true := by
      simpa using List.find?_some (p := fun d => decide (FieldName.Matches d f.1)) hfind
    have hname := (hmatches d hd f.1).1 (of_decide_eq_true hfound)
    have hany : (declared.any fun d => d.name = f.1) = true :=
      List.any_eq_true.2 ⟨d, hd, decide_eq_true hname⟩
    simp [Option.guard, hany, hname]

/-- An object is read as a record that gives each declared field as the object has it. -/
theorem exists_read {declared : List FieldName} (hplain : ∀ d ∈ declared, d.aliases = [])
    {fields : List (String × Value)} (hdistinct : (Value.object fields).Everywhere DistinctNames) :
    ∃ r, Record.read declared (ofValue (.object fields)) = some r ∧
      ∀ d ∈ declared, r.Gives d.name (fields.lookup d.name) := by
  obtain ⟨hnames, hfields⟩ := Value.everywhere_object_iff.1 hdistinct
  have hgiven := given_of_plain hplain fields
  have honce : ((given declared fields).map Prod.fst).Nodup := by
    rw [hgiven]
    exact (List.filter_sublist.map _).nodup hnames
  refine ⟨_, (read_object declared fields false).trans (if_pos honce), ?_⟩
  intro d hd
  have hdeclared : (declared.any fun d' => d'.name = d.name) = true :=
    List.any_eq_true.2 ⟨d, hd, decide_eq_true rfl⟩
  refine ⟨fields.lookup d.name, fun w hw => hfields _ (mem_of_lookup hw), ?_, rfl⟩
  refine (lookup_given honce d.name).trans (congrArg (Option.map ofValue) ?_)
  rw [hgiven]
  exact (lookup_filter_fst (fun name => declared.any fun d' => d'.name = name) fields d.name).trans
    (if_pos hdeclared)

/-- A reader of records decodes an object if it makes something of the fields that the object has. -/
theorem decodes_ofPresent {declared : List FieldName} (hplain : ∀ d ∈ declared, d.aliases = [])
    {make : Record → Option α} {fields : List (String × Option Value)}
    (hnames : (fields.map Prod.fst).Nodup) {a : α}
    (hmake : ∀ r : Record, (∀ d ∈ declared, r.Gives d.name (fields.lookup d.name).join) →
      make r = some a) :
    Decodes (fun d => (Record.read declared d).bind make) (.ofPresent fields) a := by
  intro w hdistinct hw
  obtain ⟨written, rfl⟩ := Value.exists_object_of_sorted (hw.trans (Value.sorted_object _))
  obtain ⟨r, hread, hgives⟩ := exists_read hplain hdistinct
  change (Record.read declared (ofValue (.object written))).bind make = some a
  rw [hread]
  apply hmake r
  intro d hd
  have hsame := Value.get?_of_sorted_eq (Value.distinctNames_ofPresent hnames)
    (Value.everywhere_object_iff.1 hdistinct).1 hw d.name
  rw [Value.get?_ofPresent hnames] at hsame
  exact (hgives d hd).of_sorted_eq hsame

end Record

end SensorRouter.Json
