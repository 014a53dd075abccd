import SensorRouter.Dict
import SensorRouter.Expiry.Entry

/-!
A cache of entries that expire. Lookups do not look at the time; only a sweep moves entries towards
removal. With a capacity, every entry has a positive size and the sizes of the entries that are not
removed sum up to at most the capacity.
-/

namespace SensorRouter

/-- Why a lookup or an insert fails. -/
inductive CacheError where
  | notFound
  | keyExists
  | capacityExceeded (capacity requested : Nat)
  | sizeRequired
  deriving DecidableEq, Repr

def CacheError.message : CacheError → String
  | .notFound => "key not found"
  | .keyExists => "key already exists"
  | .capacityExceeded capacity requested =>
    "cache capacity exceeded: " ++ toString requested ++ " requested, capacity " ++
      toString capacity
  | .sizeRequired => "entry size is required when a capacity is configured"

/-- Settings of one insert, over the settings of the cache. -/
structure EntryOptions where
  timeout : Option Nat := none
  size : Option Nat := none
  deriving Inhabited

structure CacheOptions where
  /-- The timeout of entries without their own; `none` is for ever. -/
  timeout : Option Nat := none
  /-- Whether a lookup counts as a use. -/
  sliding : Bool := false
  /-- The greatest sum of sizes. -/
  capacity : Option Nat := none
  /-- The number of entries expected. -/
  presize : Nat := 0
  deriving DecidableEq, Repr, Inhabited

structure Cache (α : Type) where
  options : CacheOptions
  entries : Dict (Entry α)
  /-- The running total of sizes. -/
  size : Nat

namespace Cache

variable {α : Type}

/-- The greatest size total. -/
def greatestSize : Nat := 0xFFFFFFFFFFFFFFFF

def empty (options : CacheOptions) : Cache α where
  options
  entries := ∅
  size := 0

/-- The size of an entry to be inserted. A capacity demands a positive one. -/
def entrySize (c : Cache α) (size : Option Nat) : Except CacheError Nat :=
  if c.options.capacity.isSome && size.getD 0 = 0 then .error .sizeRequired
  else .ok (size.getD 0)

/-- The greatest total that the cache admits. -/
def limit (c : Cache α) : Nat :=
  c.options.capacity.getD greatestSize

/-- The total after `old` gives way to `new`, in 64 bits. -/
def totalAfter (c : Cache α) (old new : Nat) : Nat :=
  min (c.size - old + new) greatestSize

/-- The size that the entry of a key counts in the total. -/
def liveSize (c : Cache α) (key : String) : Nat :=
  match c.entries.get? key with
  | some e => if e.isRemoved then 0 else e.size
  | none => 0

/-- Whether lookups see the key. -/
def contains (c : Cache α) (key : String) : Bool :=
  match c.entries.get? key with
  | some e => !e.isRemoved
  | none => false

/-- Inserts an entry. Without `overwrite` the key must not be visible to lookups. -/
def insert (c : Cache α) (now : Nat) (key : String) (value : α) (options : EntryOptions)
    (overwrite : Bool) : Except CacheError (Cache α) := do
  let size ← c.entrySize options.size
  if !overwrite && c.contains key then throw .keyExists
  let total := c.totalAfter (c.liveSize key) size
  if c.limit < total then throw (.capacityExceeded c.limit total)
  let entry := Entry.new value (options.timeout <|> c.options.timeout) size now
  return { c with entries := c.entries.insert key entry, size := total }

/-- Inserts or overwrites. -/
def put (c : Cache α) (now : Nat) (key : String) (value : α) (options : EntryOptions := {}) :
    Except CacheError (Cache α) :=
  c.insert now key value options true

/-- Inserts a key that lookups do not see. -/
def add (c : Cache α) (now : Nat) (key : String) (value : α) (options : EntryOptions := {}) :
    Except CacheError (Cache α) :=
  c.insert now key value options false

/-- Puts items in order up to the first that fails. Returns the cache with those before it, and the
number of items or the error. -/
def putRange (c : Cache α) (now : Nat) :
    List (String × α × EntryOptions) → Cache α × Except CacheError Nat
  | [] => (c, .ok 0)
  | (key, value, options) :: rest =>
    match c.put now key value options with
    | .error e => (c, .error e)
    | .ok c =>
      let (c, result) := putRange c now rest
      (c, result.map (· + 1))

/-- The value that a lookup of the key sees. -/
def peek? (c : Cache α) (key : String) : Option α :=
  match c.entries.get? key with
  | some e => if e.isRemoved then none else some e.value
  | none => none

/-- The cache after a lookup of the key: with sliding expiration the entry found has been used. -/
def noteUse (c : Cache α) (now : Nat) (key : String) : Cache α :=
  match c.entries.get? key with
  | some e =>
    if c.options.sliding && !e.isRemoved then
      { c with entries := c.entries.insert key (e.touch now) }
    else c
  | none => c

def get (c : Cache α) (now : Nat) (key : String) : Except CacheError (α × Cache α) :=
  match c.peek? key with
  | some v => .ok (v, c.noteUse now key)
  | none => .error .notFound

/-- The state of a key's entry, also of a removed one that no sweep has met yet. -/
def state? (c : Cache α) (key : String) : Option EntryState :=
  (c.entries.get? key).map (·.state)

/-- Marks the entry of a key as removed. The result says whether lookups saw it before. -/
def remove (c : Cache α) (key : String) : Bool × Cache α :=
  match c.entries.get? key with
  | some e =>
    if e.isRemoved then (false, c)
    else
      (true, { c with
               entries := c.entries.insert key (e.advance .removed)
               size := c.size - e.size })
  | none => (false, c)

/-- Moves every entry one step through its lifecycle. -/
def sweep (c : Cache α) (now : Nat) : SweepCounts × Cache α :=
  let freed := (c.entries.values.map fun e => e.freed now).foldr (· + ·) 0 % (greatestSize + 1)
  (.ofFates (c.entries.values.map fun e => e.fate now),
    { c with entries := c.entries.filterMap fun e => e.swept now, size := c.size - freed })

/-- Drops every entry. -/
def clear (c : Cache α) : Cache α :=
  .empty c.options

/-- The number of entries that lookups see. -/
def length (c : Cache α) : Nat :=
  c.entries.values.countP fun e => !e.isRemoved

def isEmpty (c : Cache α) : Bool :=
  c.length = 0

end Cache

end SensorRouter
