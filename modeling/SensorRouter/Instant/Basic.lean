/-!
Instants of universal time and the proleptic Gregorian calendar. The second after `:59` that a minute
may have is kept: its nanoseconds count on from one second.
-/

namespace SensorRouter

/-- Seconds since the first moment of 1970, and nanoseconds; in a leap second they are at least
`10 ^ 9`. -/
structure Instant where
  seconds : Int
  nanos : Nat
  deriving DecidableEq, Repr, Inhabited

structure CalendarDate where
  year : Int
  month : Nat
  day : Nat
  deriving DecidableEq, Repr

namespace CalendarDate

def isLeapYear (year : Int) : Bool :=
  year % 4 = 0 && (year % 100 ≠ 0 || year % 400 = 0)

def daysInMonth (year : Int) (month : Nat) : Nat :=
  match month with
  | 2 => if isLeapYear year then 29 else 28
  | 4 | 6 | 9 | 11 => 30
  | _ => 31

def leastYear : Int := -262143

def greatestYear : Int := 262142

def Valid (d : CalendarDate) : Prop :=
  leastYear ≤ d.year ∧ d.year ≤ greatestYear ∧ 1 ≤ d.month ∧ d.month ≤ 12 ∧ 1 ≤ d.day ∧
    d.day ≤ daysInMonth d.year d.month

instance (d : CalendarDate) : Decidable d.Valid :=
  inferInstanceAs (Decidable (_ ∧ _))

/-- Days from the first of March of year 0 to the first of March of a year. -/
def daysBeforeYear (year : Int) : Int :=
  365 * year + year / 4 - year / 100 + year / 400

/-- Days from the first of March to the first of a month, months counted from March. -/
def daysBeforeMonth (month : Nat) : Nat :=
  (153 * month + 2) / 5

/-- Days from the first of March of year 0 to the first of January of 1970. -/
def epochOffset : Int := 719468

/-- Days since the first of January of 1970. A year is taken to begin in March, so that the leap
day ends it. -/
def toDays (d : CalendarDate) : Int :=
  let year := if d.month ≤ 2 then d.year - 1 else d.year
  let month := (d.month + 9) % 12
  daysBeforeYear year + daysBeforeMonth month + (d.day - 1 : Nat) - epochOffset

def ofDays (days : Int) : CalendarDate :=
  let days := days + epochOffset
  let guess := (400 * days + 799) / 146097
  let year := if days < daysBeforeYear guess then guess - 1 else guess
  let inYear := (days - daysBeforeYear year).toNat
  let month := (5 * inYear + 2) / 153
  { year := if 10 ≤ month then year + 1 else year
    month := (month + 2) % 12 + 1
    day := inYear - daysBeforeMonth month + 1 }

example : toDays ⟨1970, 1, 1⟩ = 0 ∧ toDays ⟨2000, 3, 1⟩ = 11017 := by decide
example : ofDays 11016 = ⟨2000, 2, 29⟩ ∧ ofDays (-1) = ⟨1969, 12, 31⟩ := by decide
example : ofDays (toDays ⟨-262143, 1, 1⟩) = ⟨-262143, 1, 1⟩ := by decide
example : ofDays (toDays ⟨262142, 12, 31⟩) = ⟨262142, 12, 31⟩ := by decide

end CalendarDate

namespace Instant

def date (t : Instant) : CalendarDate :=
  .ofDays (t.seconds / 86400)

/-- The whole microseconds from one instant to another, not below zero. -/
def microsUntil (start finish : Instant) : Nat :=
  ((finish.seconds - start.seconds) * 1000000 +
    (finish.nanos - start.nanos : Int) / 1000).toNat

end Instant

end SensorRouter
