import SensorRouter.Proofs.Expiry.Lookup

/-!
Runs of a cache on a clock that never goes back, in which operations and moves of the clock come in
any order. `step_change` lists all that a step can do to the entry of a key; what runs do is derived
from it.
-/

namespace SensorRouter

/-- Operations on a cache, and moves of its clock. -/
inductive CacheOperation (α : Type) where
  | put (key : String) (value : α) (options : EntryOptions)
  | add (key : String) (value : α) (options : EntryOptions)
  | putRange (items : List (String × α × EntryOptions))
  | get (key : String)
  | contains (key : String)
  | state (key : String)
  | length
  | isEmpty
  | size
  | remove (key : String)
  | sweep
  | clear
  | wait (duration : Nat)

/-- A cache and the time on its clock. -/
structure TimedCache (α : Type) where
  cache : Cache α
  now : Nat

variable {α : Type}

namespace Cache

/-- A range puts a key: an item before the first refused one is put under it. -/
def Puts (c : Cache α) (now : Nat) (key : String) : List (String × α × EntryOptions) → Prop
  | [] => False
  | (k, value, options) :: rest =>
    ∃ c', c.put now k value options = .ok c' ∧ (k = key ∨ c'.Puts now key rest)

/-- An insert that succeeds sets the entry of its key to a new one. -/
theorem insert_eq_withEntry {c c' : Cache α} {now : Nat} {key : String} {value : α}
    {options : EntryOptions} {overwrite : Bool}
    (h : c.insert now key value options overwrite = .ok c') :
    ∃ timeout size total, c' = c.withEntry key (.new value timeout size now) total :=
  ⟨_, _, _, (insert_of_ok h).1⟩

@[simp]
theorem get?_withEntry (c : Cache α) (key k : String) (e : Entry α) (total : Nat) :
    (c.withEntry key e total).entries.get? k = if k = key then some e else c.entries.get? k :=
  Dict.get?_insert ..

/-- A range leaves a new entry under each key that it puts, and the other entries as they are. -/
theorem get?_putRange (c : Cache α) (now : Nat) (key : String)
    (items : List (String × α × EntryOptions)) :
    (c.Puts now key items ∧ ∃ value timeout size,
        (c.putRange now items).1.entries.get? key = some (.new value timeout size now)) ∨
      (¬ c.Puts now key items ∧
        (c.putRange now items).1.entries.get? key = c.entries.get? key) := by
  induction items generalizing c with
  | nil => exact .inr ⟨id, rfl⟩
  | cons item rest ih =>
    obtain ⟨k, value, options⟩ := item
    rw [putRange, Puts]
    cases hput : c.put now k value options with
    | error e =>
      refine .inr ⟨?_, rfl⟩
      rintro ⟨_, hok, -⟩
      cases hok
    | ok c' =>
      simp only [Except.ok.injEq, exists_eq_left']
      obtain ⟨timeout, size, total, hc'⟩ := insert_eq_withEntry hput
      rcases ih c' with ⟨hputs, hnew⟩ | ⟨hnot, hsame⟩
      · exact .inl ⟨.inr hputs, hnew⟩
      · rw [hsame, hc', get?_withEntry]
        by_cases hkey : key = k
        · rw [if_pos hkey]
          exact .inl ⟨.inl hkey.symm, value, timeout, size, rfl⟩
        · rw [if_neg hkey, ← hc']
          exact .inr ⟨not_or.2 ⟨Ne.symm hkey, hnot⟩, rfl⟩

/-- With sliding expiration a lookup that finds an entry touches it. -/
theorem get?_noteUse (c : Cache α) (now : Nat) (key k : String) :
    (c.noteUse now key).entries.get? k =
      if k = key ∧ c.options.sliding = true ∧ (c.peek? key).isSome then
        (c.entries.get? k).map (·.touch now)
      else c.entries.get? k := by
  unfold noteUse peek?
  cases hentry : c.entries.get? key with
  | none => simp
  | some e =>
    simp only
    by_cases hseen : c.options.sliding = true ∧ e.isRemoved = false
    · rw [if_pos (by simp [hseen]), Dict.get?_insert]
      by_cases hk : k = key
      · simp [hk, hseen, hentry]
      · simp [hk]
    · rw [if_neg (by simpa using hseen), if_neg]
      rintro ⟨-, hsliding, hvisible⟩
      cases hremoved : e.isRemoved
      · exact hseen ⟨hsliding, hremoved⟩
      · simp [hremoved] at hvisible

/-- A removal marks the entry of its key, if there is one. -/
theorem get?_remove (c : Cache α) (key k : String) :
    (c.remove key).2.entries.get? k =
      if k = key then (c.entries.get? k).map (·.advance .removed) else c.entries.get? k := by
  unfold remove
  cases hentry : c.entries.get? key with
  | none =>
    by_cases hk : k = key
    · simp [hk, hentry]
    · simp [hk]
  | some e =>
    by_cases hremoved : e.isRemoved
    · have hsame : e.advance .removed = e := by
        have hstate : e.state = .removed := of_decide_eq_true hremoved
        simp [Entry.advance, EntryState.later, EntryState.rank, ← hstate]
      by_cases hk : k = key
      · simp [hk, hremoved, hentry, hsame]
      · simp [hk, hremoved]
    · by_cases hk : k = key
      · simp [hk, hremoved, hentry]
      · simp [hk, hremoved]

theorem get?_sweep (c : Cache α) (now : Nat) (key : String) :
    (c.sweep now).2.entries.get? key = (c.entries.get? key).bind (·.swept now) :=
  Dict.get?_filterMap ..

end Cache

namespace TimedCache

def empty (options : CacheOptions) (now : Nat) : TimedCache α :=
  ⟨.empty options, now⟩

/-- The entry of a key, also one that is removed. -/
def held? (x : TimedCache α) (key : String) : Option (Entry α) :=
  x.cache.entries.get? key

/-- The cache after an operation. One that fails, or only looks, leaves it as it is. -/
def step (x : TimedCache α) : CacheOperation α → TimedCache α
  | .put key value options =>
    { x with cache := (x.cache.put x.now key value options).toOption.getD x.cache }
  | .add key value options =>
    { x with cache := (x.cache.add x.now key value options).toOption.getD x.cache }
  | .putRange items => { x with cache := (x.cache.putRange x.now items).1 }
  | .get key => { x with cache := ((x.cache.get x.now key).map (·.2)).toOption.getD x.cache }
  | .remove key => { x with cache := (x.cache.remove key).2 }
  | .sweep => { x with cache := (x.cache.sweep x.now).2 }
  | .clear => { x with cache := x.cache.clear }
  | .wait duration => { x with now := x.now + duration }
  | .contains _ | .state _ | .length | .isEmpty | .size => x

/-- The cache after operations in order. -/
def run (x : TimedCache α) (ops : List (CacheOperation α)) : TimedCache α :=
  ops.foldl step x

theorem run_append (x : TimedCache α) (ops later : List (CacheOperation α)) :
    x.run (ops ++ later) = (x.run ops).run later :=
  List.foldl_append

theorem run_snoc (x : TimedCache α) (ops : List (CacheOperation α)) (op : CacheOperation α) :
    x.run (ops ++ [op]) = (x.run ops).step op := by
  simp [run]

/-- The operation inserts under a key, and is not refused. -/
def Inserts (x : TimedCache α) (op : CacheOperation α) (key : String) : Prop :=
  match op with
  | .put k value options => k = key ∧ ∃ c, x.cache.put x.now k value options = .ok c
  | .add k value options => k = key ∧ ∃ c, x.cache.add x.now k value options = .ok c
  | .putRange items => x.cache.Puts x.now key items
  | _ => False

/-- The operation is a lookup of a key that counts as a use: expiration slides, and the lookup finds
an entry. -/
def Uses (x : TimedCache α) (op : CacheOperation α) (key : String) : Prop :=
  match op with
  | .get k => k = key ∧ x.cache.options.sliding = true ∧ (x.cache.peek? k).isSome
  | _ => False

/-- What an operation can do to the entry of a key: the entry afterwards. -/
inductive Change (x : TimedCache α) (op : CacheOperation α) (key : String) :
    Option (Entry α) → Prop
  | inserted (h : x.Inserts op key) (value : α) (timeout : Option Nat) (size : Nat) :
      Change x op key (some (.new value timeout size x.now))
  | used (h : x.Uses op key) {e : Entry α} (he : x.held? key = some e) (hseen : e.state ≠ .removed) :
      Change x op key (some (e.touch x.now))
  | removed (h : op = .remove key) : Change x op key ((x.held? key).map (·.advance .removed))
  | swept (h : op = .sweep) : Change x op key ((x.held? key).bind (·.swept x.now))
  | cleared (h : op = .clear) : Change x op key none
  | kept (hinserts : ¬ x.Inserts op key) (huses : ¬ x.Uses op key) (hremove : op ≠ .remove key)
      (hsweep : op ≠ .sweep) (hclear : op ≠ .clear) : Change x op key (x.held? key)

theorem change_insert {x : TimedCache α} {k key : String} {value : α} {options : EntryOptions}
    {overwrite : Bool} {op : CacheOperation α}
    (hinserts : x.Inserts op key ↔
      k = key ∧ ∃ c, x.cache.insert x.now k value options overwrite = .ok c)
    (huses : ¬ x.Uses op key) (hremove : op ≠ .remove key) (hsweep : op ≠ .sweep)
    (hclear : op ≠ .clear) :
    x.Change op key
      (((x.cache.insert x.now k value options overwrite).toOption.getD x.cache).entries.get?
        key) := by
  cases hinsert : x.cache.insert x.now k value options overwrite with
  | error e =>
    rw [hinsert] at hinserts
    refine .kept (fun h => ?_) huses hremove hsweep hclear
    obtain ⟨-, _, hok⟩ := hinserts.1 h
    exact nomatch hok
  | ok c =>
    obtain ⟨timeout, size, total, rfl⟩ := Cache.insert_eq_withEntry hinsert
    simp only [Except.toOption, Option.getD_some, Cache.get?_withEntry]
    by_cases hkey : key = k
    · rw [if_pos hkey]
      exact .inserted (hinserts.2 ⟨hkey.symm, _, hinsert⟩) value timeout size
    · rw [if_neg hkey]
      exact .kept (fun h => hkey (hinserts.1 h).1.symm) huses hremove hsweep hclear

theorem change_get (x : TimedCache α) (k key : String) :
    x.Change (.get k) key ((x.step (.get k)).held? key) := by
  have hentries : (x.step (.get k)).held? key = (x.cache.noteUse x.now k).entries.get? key := by
    simp only [step, Cache.get, held?]
    cases hpeek : x.cache.peek? k with
    | some v => rfl
    | none => simp [Cache.get?_noteUse, hpeek, Except.map, Except.toOption]
  rw [hentries, Cache.get?_noteUse]
  by_cases huses : key = k ∧ x.cache.options.sliding = true ∧ (x.cache.peek? k).isSome
  · rw [if_pos huses]
    obtain ⟨rfl, hsliding, hvisible⟩ := huses
    have hused : x.Uses (.get key) key := ⟨rfl, hsliding, hvisible⟩
    cases hentry : x.cache.entries.get? key with
    | none => simp [Cache.peek?, hentry] at hvisible
    | some e =>
      refine .used hused hentry fun hremoved => ?_
      simp [Cache.peek?, hentry, Entry.isRemoved, hremoved] at hvisible
  · rw [if_neg huses]
    refine .kept id ?_ (by simp) (by simp) (by simp)
    rintro ⟨hk, h⟩
    exact huses ⟨hk.symm, h⟩

theorem held?_sweep (x : TimedCache α) (key : String) :
    (x.step .sweep).held? key = (x.held? key).bind (·.swept x.now) :=
  x.cache.get?_sweep x.now key

/-- A step does to the entry of a key one of the things listed. -/
theorem step_change (x : TimedCache α) (op : CacheOperation α) (key : String) :
    x.Change op key ((x.step op).held? key) := by
  cases op with
  | put k value options => exact change_insert Iff.rfl id nofun nofun nofun
  | add k value options => exact change_insert Iff.rfl id nofun nofun nofun
  | putRange items =>
    change x.Change _ key ((x.cache.putRange x.now items).1.entries.get? key)
    rcases x.cache.get?_putRange x.now key items with ⟨hputs, value, timeout, size, hnew⟩ | hsame
    · have hinserts : x.Inserts (.putRange items) key := hputs
      rw [hnew]
      exact .inserted hinserts value timeout size
    · rw [hsame.2]
      exact .kept hsame.1 id nofun nofun nofun
  | get k => exact x.change_get k key
  | remove k =>
    change x.Change _ key ((x.cache.remove k).2.entries.get? key)
    rw [Cache.get?_remove]
    by_cases hkey : key = k
    · rw [if_pos hkey, hkey]
      exact .removed rfl
    · rw [if_neg hkey]
      refine .kept id id ?_ nofun nofun
      rintro ⟨⟩
      exact hkey rfl
  | sweep => exact x.held?_sweep key ▸ .swept rfl
  | clear => exact .cleared rfl
  | contains | state | length | isEmpty | size | wait => exact .kept id id nofun nofun nofun

theorem le_now_step (x : TimedCache α) (op : CacheOperation α) : x.now ≤ (x.step op).now := by
  cases op with
  | wait duration => exact Nat.le_add_right ..
  | _ => exact Nat.le_refl _

/-! ### Steps that do not occur -/

/-- No step of a run is one of the given ones. -/
def Never (x : TimedCache α) (excluded : TimedCache α → CacheOperation α → Prop) :
    List (CacheOperation α) → Prop
  | [] => True
  | op :: rest => ¬ excluded x op ∧ (x.step op).Never excluded rest

end TimedCache

namespace CacheOperation

def isSweep : CacheOperation α → Bool
  | .sweep => true
  | _ => false

/-- The number of sweeps among operations. -/
def sweeps (ops : List (CacheOperation α)) : Nat :=
  ops.countP isSweep

theorem isSweep_eq_false {op : CacheOperation α} (h : op ≠ .sweep) : op.isSweep = false := by
  cases op with
  | sweep => exact absurd rfl h
  | _ => rfl

end CacheOperation

end SensorRouter
