/-!
Entries of a cache and their lifecycle. A sweep moves an idle entry one step forward, from active to
expired to scheduled and then out; a use before that makes it active again. An entry that was removed
on request stays removed until it is dropped. Times are nanoseconds on one clock.
-/

namespace SensorRouter

/-- Lifecycle of an entry, in order. -/
inductive EntryState where
  | active
  | expired
  | scheduled
  | removed
  deriving DecidableEq, Repr, Inhabited

namespace EntryState

def rank : EntryState → Nat
  | active => 0
  | expired => 1
  | scheduled => 2
  | removed => 3

/-- The state's name in reports. -/
def name : EntryState → String
  | active => "None"
  | expired => "Expired"
  | scheduled => "ScheduledForRemoval"
  | removed => "Removed"

def all : List EntryState :=
  [active, expired, scheduled, removed]

def ofName? (s : String) : Option EntryState :=
  all.find? fun state => state.name = s

/-- The later of two states. -/
def later (a b : EntryState) : EntryState :=
  if a.rank < b.rank then b else a

end EntryState

structure Entry (α : Type) where
  value : α
  /-- How long the entry may be idle; `none` is for ever. -/
  timeout : Option Nat
  createdAt : Nat
  lastSeen : Nat
  state : EntryState
  size : Nat

namespace Entry

variable {α : Type}

def new (value : α) (timeout : Option Nat) (size now : Nat) : Entry α where
  value
  timeout
  createdAt := now
  lastSeen := now
  state := .active
  size

/-- Whether the entry has been idle for strictly longer than its timeout. -/
def Idle (e : Entry α) (now : Nat) : Prop :=
  ∃ t ∈ e.timeout, t < now - e.lastSeen

instance (e : Entry α) (now : Nat) : Decidable (e.Idle now) :=
  match h : e.timeout with
  | none => isFalse (by simp [Idle, h])
  | some t => decidable_of_iff (t < now - e.lastSeen) (by simp [Idle, h])

def isRemoved (e : Entry α) : Bool :=
  e.state = .removed

/-- Moves forward to a state, never back. -/
def advance (e : Entry α) (next : EntryState) : Entry α :=
  { e with state := e.state.later next }

/-- Records a use: an entry on its way out is active again, a removed one stays removed. -/
def touch (e : Entry α) (now : Nat) : Entry α :=
  { e with
    lastSeen := now
    state := if e.state = .removed then .removed else .active }

/-- What a sweep does to an entry. -/
inductive Fate where
  | kept
  | revived
  | expired
  | scheduled
  | dropped
  deriving DecidableEq, Repr

def fate (e : Entry α) (now : Nat) : Fate :=
  match e.state with
  | .active => if e.Idle now then .expired else .kept
  | .expired => if e.Idle now then .scheduled else .revived
  | .scheduled => if e.Idle now then .dropped else .revived
  | .removed => .dropped

/-- The entry after a sweep, unless it is dropped. -/
def swept (e : Entry α) (now : Nat) : Option (Entry α) :=
  match e.fate now with
  | .kept => some e
  | .revived => some { e with state := .active }
  | .expired => some { e with state := .expired }
  | .scheduled => some { e with state := .scheduled }
  | .dropped => none

/-- The part of the size total that a sweep gives back: nothing for an entry removed before. -/
def freed (e : Entry α) (now : Nat) : Nat :=
  if e.fate now = .dropped ∧ e.state ≠ .removed then e.size else 0

end Entry

/-- What a sweep did to the entries it met. -/
structure SweepCounts where
  expired : Nat := 0
  scheduled : Nat := 0
  removed : Nat := 0
  deriving DecidableEq, Repr, Inhabited

namespace SweepCounts

def add (a b : SweepCounts) : SweepCounts :=
  ⟨a.expired + b.expired, a.scheduled + b.scheduled, a.removed + b.removed⟩

instance : Add SweepCounts := ⟨add⟩

def ofFates (fates : List Entry.Fate) : SweepCounts where
  expired := fates.count .expired
  scheduled := fates.count .scheduled
  removed := fates.count .dropped

end SweepCounts

end SensorRouter
