/-!
Dictionaries with text keys. The entries are kept by ascending key, each key once, so two
dictionaries with the same contents are equal and a listing has one order.
-/

namespace SensorRouter

universe u v

variable {α : Type u} {β : Type v}

namespace Dict

/-- Entries by strictly ascending key. -/
def Ascending (entries : List (String × α)) : Prop :=
  entries.Pairwise fun a b => a.1 < b.1

/-- Sets a key among ascending entries. -/
def insertEntry (key : String) (value : α) : List (String × α) → List (String × α)
  | [] => [(key, value)]
  | (k, v) :: rest =>
    if key < k then (key, value) :: (k, v) :: rest
    else if key = k then (key, value) :: rest
    else (k, v) :: insertEntry key value rest

theorem mem_insertEntry {key : String} {value : α} {entries : List (String × α)}
    {e : String × α} (h : e ∈ insertEntry key value entries) : e = (key, value) ∨ e ∈ entries := by
  induction entries with
  | nil => simpa [insertEntry] using h
  | cons a rest ih =>
    unfold insertEntry at h
    split at h
    · simpa using h
    · split at h
      · rcases List.mem_cons.1 h with h | h <;> simp [h]
      · rcases List.mem_cons.1 h with h | h
        · simp [h]
        · rcases ih h with h | h <;> simp [h]

theorem Ascending.insertEntry {entries : List (String × α)} (h : Ascending entries) (key : String)
    (value : α) : Ascending (insertEntry key value entries) := by
  induction entries with
  | nil => simp [Dict.insertEntry, Ascending]
  | cons a rest ih =>
    have ha := List.pairwise_cons.1 h
    unfold Dict.insertEntry
    split
    · rename_i hlt
      refine List.pairwise_cons.2 ⟨fun e he => ?_, h⟩
      rcases List.mem_cons.1 he with rfl | he
      · exact hlt
      · exact String.lt_trans hlt (ha.1 e he)
    · split
      · rename_i _ heq
        exact List.pairwise_cons.2 ⟨fun e he => heq ▸ ha.1 e he, ha.2⟩
      · rename_i hlt hne
        refine List.pairwise_cons.2 ⟨fun e he => ?_, ih ha.2⟩
        rcases mem_insertEntry he with rfl | he
        · exact Std.lt_of_le_of_ne (String.not_lt.1 hlt) (Ne.symm hne)
        · exact ha.1 e he

end Dict

/-- A finite map from texts. -/
structure Dict (α : Type u) where
  entries : List (String × α)
  ascending : Dict.Ascending entries
  deriving DecidableEq

namespace Dict

def empty : Dict α := ⟨[], .nil⟩

instance : EmptyCollection (Dict α) := ⟨empty⟩

instance : Inhabited (Dict α) := ⟨empty⟩

def get? (d : Dict α) (key : String) : Option α :=
  d.entries.lookup key

def contains (d : Dict α) (key : String) : Bool :=
  (d.get? key).isSome

def insert (d : Dict α) (key : String) (value : α) : Dict α :=
  ⟨insertEntry key value d.entries, d.ascending.insertEntry key value⟩

/-- The entries of which the test holds. -/
def filter (d : Dict α) (keep : String → α → Bool) : Dict α :=
  ⟨d.entries.filter fun e => keep e.1 e.2, d.ascending.filter _⟩

def erase (d : Dict α) (key : String) : Dict α :=
  d.filter fun k _ => k ≠ key

/-- Changes every value. -/
def map (d : Dict α) (f : α → β) : Dict β :=
  ⟨d.entries.map fun e => (e.1, f e.2), List.pairwise_map.2 (d.ascending.imp id)⟩

/-- Changes or drops every value. -/
def filterMap (d : Dict α) (f : α → Option β) : Dict β :=
  ⟨d.entries.filterMap fun e => (f e.2).map (e.1, ·), by
    refine d.ascending.filterMap _ fun a b hab x hx y hy => ?_
    obtain ⟨_, _, rfl⟩ := Option.map_eq_some_iff.1 hx
    obtain ⟨_, _, rfl⟩ := Option.map_eq_some_iff.1 hy
    exact hab⟩

/-- The dictionary of a listing; of a repeated key the last value stays. -/
def ofList (entries : List (String × α)) : Dict α :=
  entries.foldl (fun d e => d.insert e.1 e.2) empty

def toList (d : Dict α) : List (String × α) :=
  d.entries

def keys (d : Dict α) : List String :=
  d.entries.map (·.1)

def values (d : Dict α) : List α :=
  d.entries.map (·.2)

def size (d : Dict α) : Nat :=
  d.entries.length

def isEmpty (d : Dict α) : Bool :=
  d.entries.isEmpty

theorem lookup_cons_eq (k : String) (e : String × α) (entries : List (String × α)) :
    (e :: entries).lookup k = if k = e.1 then some e.2 else entries.lookup k := by
  rw [List.lookup_cons]
  by_cases h : k = e.1
  · simp [h]
  · simp [h, beq_false_of_ne h]

theorem lookup_insertEntry (key k : String) (value : α) (entries : List (String × α)) :
    (insertEntry key value entries).lookup k =
      if k = key then some value else entries.lookup k := by
  induction entries with
  | nil => simp [insertEntry, lookup_cons_eq]
  | cons a rest ih =>
    unfold insertEntry
    split
    · rw [lookup_cons_eq]
    · split
      · rename_i _ heq
        subst heq
        simp only [lookup_cons_eq]
        split <;> rfl
      · rename_i _ hne
        simp only [lookup_cons_eq, ih]
        by_cases h : k = a.1
        · subst h
          simp [Ne.symm hne]
        · simp [h]

@[simp]
theorem get?_empty (key : String) : (empty : Dict α).get? key = none := rfl

@[simp]
theorem get?_insert (d : Dict α) (key k : String) (value : α) :
    (d.insert key value).get? k = if k = key then some value else d.get? k :=
  lookup_insertEntry key k value d.entries

theorem lookup_eq_some_iff {entries : List (String × α)} (h : Ascending entries) {key : String}
    {value : α} : entries.lookup key = some value ↔ (key, value) ∈ entries := by
  induction entries with
  | nil => simp
  | cons a rest ih =>
    have ha := List.pairwise_cons.1 h
    rw [lookup_cons_eq, List.mem_cons]
    by_cases hkey : key = a.1
    · rw [if_pos hkey]
      constructor
      · intro hvalue
        exact .inl (Prod.ext hkey (Option.some.inj hvalue).symm)
      · rintro (heq | hmem)
        · rw [← heq]
        · exact absurd (hkey ▸ ha.1 _ hmem) (String.lt_irrefl _)
    · rw [if_neg hkey, ih ha.2]
      constructor
      · exact .inr
      · rintro (heq | hmem)
        · exact absurd (congrArg Prod.fst heq) hkey
        · exact hmem

/-- A lookup finds exactly the entries listed. -/
theorem get?_eq_some_iff {d : Dict α} {key : String} {value : α} :
    d.get? key = some value ↔ (key, value) ∈ d.entries :=
  lookup_eq_some_iff d.ascending

@[simp]
theorem get?_filter (d : Dict α) (keep : String → α → Bool) (key : String) :
    (d.filter keep).get? key = (d.get? key).filter (keep key) := by
  apply Option.ext
  intro value
  rw [get?_eq_some_iff, filter, List.mem_filter, ← get?_eq_some_iff, Option.filter_eq_some_iff]

@[simp]
theorem get?_erase (d : Dict α) (key k : String) :
    (d.erase key).get? k = if k = key then none else d.get? k := by
  rw [erase, get?_filter]
  by_cases h : k = key
  · simp [h]
  · cases hvalue : d.get? k <;> simp [h]

@[simp]
theorem get?_filterMap (d : Dict α) (f : α → Option β) (key : String) :
    (d.filterMap f).get? key = (d.get? key).bind f := by
  apply Option.ext
  intro value
  rw [get?_eq_some_iff, filterMap, List.mem_filterMap, Option.bind_eq_some_iff]
  constructor
  · rintro ⟨⟨k, a⟩, hmem, hf⟩
    obtain ⟨b, hb, heq⟩ := Option.map_eq_some_iff.1 hf
    cases heq
    exact ⟨a, get?_eq_some_iff.2 hmem, hb⟩
  · rintro ⟨a, ha, hf⟩
    exact ⟨(key, a), get?_eq_some_iff.1 ha, by simp [hf]⟩

theorem mem_values_iff {d : Dict α} {a : α} : a ∈ d.values ↔ ∃ key, d.get? key = some a := by
  simp only [values, List.mem_map, get?_eq_some_iff]
  constructor
  · rintro ⟨⟨key, b⟩, hmem, rfl⟩
    exact ⟨key, hmem⟩
  · rintro ⟨key, hmem⟩
    exact ⟨(key, a), hmem, rfl⟩

theorem nodup_keys (d : Dict α) : d.keys.Nodup := by
  refine List.pairwise_map.2 (d.ascending.imp fun hlt heq => ?_)
  rw [heq] at hlt
  exact String.lt_irrefl _ hlt

theorem filter_ascending {entries : List (String × α)} (h : Ascending entries) (key : String) :
    entries.filter (fun e => e.1 = key) = (entries.lookup key).toList.map (key, ·) := by
  induction entries with
  | nil => rfl
  | cons a rest ih =>
    have ha := List.pairwise_cons.1 h
    rw [lookup_cons_eq]
    by_cases hkey : key = a.1
    · -- the keys that follow are greater
      have hrest : rest.filter (fun e => e.1 = key) = [] := by
        refine List.filter_eq_nil_iff.2 fun e he heq => ?_
        have hlt := ha.1 e he
        rw [of_decide_eq_true heq, hkey] at hlt
        exact String.lt_irrefl _ hlt
      rw [List.filter_cons_of_pos (by simp [hkey]), hrest, if_pos hkey]
      simp [hkey]
    · rw [List.filter_cons_of_neg (by simp [Ne.symm hkey]), if_neg hkey, ih ha.2]

/-- The entries under a key: one if a lookup finds it, or none. -/
theorem filter_toList (d : Dict α) (key : String) :
    d.toList.filter (fun e => e.1 = key) = (d.get? key).toList.map (key, ·) :=
  filter_ascending d.ascending key

/-- Every value is kept under the key that it names itself. -/
def Keyed (d : Dict α) (key : α → String) : Prop :=
  ∀ k a, d.get? k = some a → key a = k

theorem Keyed.map_values {d : Dict α} {key : α → String} (h : d.Keyed key) :
    d.values.map key = d.keys := by
  simp only [values, keys, List.map_map]
  exact List.map_congr_left fun e he => h e.1 e.2 (get?_eq_some_iff.2 he)

theorem keyed_empty (key : α → String) : (∅ : Dict α).Keyed key :=
  fun _ _ h => nomatch h

theorem Keyed.insert {d : Dict α} {key : α → String} (h : d.Keyed key) (a : α) :
    (d.insert (key a) a).Keyed key := by
  intro k b hb
  rw [get?_insert] at hb
  split at hb
  · rename_i hk
    cases hb
    exact hk.symm
  · exact h k b hb

theorem Keyed.erase {d : Dict α} {key : α → String} (h : d.Keyed key) (k : String) :
    (d.erase k).Keyed key := by
  intro k' a ha
  rw [get?_erase] at ha
  split at ha
  · exact nomatch ha
  · exact h k' a ha

theorem keyed_ofList (key : α → String) (values : List α) :
    (ofList (values.map fun a => (key a, a))).Keyed key := by
  have step : ∀ d : Dict α, d.Keyed key →
      ((values.map fun a => (key a, a)).foldl (fun d e => d.insert e.1 e.2) d).Keyed key := by
    induction values with
    | nil => exact fun _ h => h
    | cons a rest ih => exact fun d h => ih _ (h.insert a)
  exact step _ (keyed_empty key)

end Dict

end SensorRouter
