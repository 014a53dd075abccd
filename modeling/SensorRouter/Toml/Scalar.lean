import SensorRouter.Instant.Basic
import SensorRouter.Number.Double

/-!
Bare words of TOML texts that stand for values: integers in four bases, fractions, dates and times.
-/

namespace SensorRouter.Toml

def isDigit (c : Char) : Bool :=
  '0' ≤ c && c ≤ '9'

/-- The value of a digit in a base. -/
def digitIn? (base : Nat) (c : Char) : Option Nat :=
  let d :=
    if isDigit c then c.toNat - '0'.toNat
    else if 'a' ≤ c && c ≤ 'f' then c.toNat - 'a'.toNat + 10
    else if 'A' ≤ c && c ≤ 'F' then c.toNat - 'A'.toNat + 10
    else base
  if d < base then some d else none

/-- The value of digits with single underscores between them, after `n` and at a digit. -/
def digitsValue? (base : Nat) : Nat → List Char → Option Nat
  | _, [] => none
  | n, [c] => (digitIn? base c).map fun d => n * base + d
  | n, c :: '_' :: rest => (digitIn? base c).bind fun d => digitsValue? base (n * base + d) rest
  | n, c :: rest => (digitIn? base c).bind fun d => digitsValue? base (n * base + d) rest

def splitSign : List Char → Bool × List Char
  | '-' :: rest => (true, rest)
  | '+' :: rest => (false, rest)
  | cs => (false, cs)

/-- A decimal whole number without a superfluous leading zero. -/
def decimal? : List Char → Option Nat
  | '0' :: _ :: _ => none
  | cs => digitsValue? 10 0 cs

/-- The bounds of integers. -/
def leastInteger : Int := -0x8000000000000000

def greatestInteger : Int := 0x7FFFFFFFFFFFFFFF

def integer? (cs : List Char) : Option Int := do
  let i : Int ← match cs with
    | '0' :: 'x' :: rest => (digitsValue? 16 0 rest).map Int.ofNat
    | '0' :: 'o' :: rest => (digitsValue? 8 0 rest).map Int.ofNat
    | '0' :: 'b' :: rest => (digitsValue? 2 0 rest).map Int.ofNat
    | cs =>
      let (negative, digits) := splitSign cs
      (decimal? digits).map fun n => if negative then -(n : Int) else n
  if leastInteger ≤ i && i ≤ greatestInteger then return i else none

/-- The number of digits among the characters. -/
def digitCount (cs : List Char) : Nat :=
  cs.countP isDigit

/-- Whether `whole.fraction · 10 ^ power` is a floating point number. -/
def isRepresentable (whole fraction : Nat) (places : Nat) (power : Int) : Bool :=
  let digits := whole * Nat.pow 10 places + fraction
  if digits = 0 then true
  else
    let scale := power - places
    let leading := scale + (Nat.toDigits 10 digits).length
    if leading < -400 then true
    else if 400 < leading then false
    else (Double.ofDecimal false digits scale).isFinite

/-- A decimal number with a fraction, an exponent or both, of a magnitude that a floating point
number can have; also the infinities and the number that is none. -/
def isFraction (cs : List Char) : Bool :=
  let (_, digits) := splitSign cs
  if digits = "inf".toList || digits = "nan".toList then true
  else
    let isMark c := c = 'e' || c = 'E'
    let mantissa := digits.takeWhile fun c => !isMark c
    let exponent := (digits.dropWhile fun c => !isMark c).drop 1
    let hasExponent := digits.any isMark
    let whole := mantissa.takeWhile (· ≠ '.')
    let fraction := (mantissa.dropWhile (· ≠ '.')).drop 1
    let hasFraction := mantissa.any (· == '.')
    let (negative, power) := splitSign exponent
    match decimal? whole, if hasFraction then digitsValue? 10 0 fraction else some 0,
        if hasExponent then digitsValue? 10 0 power else some 0 with
    | some w, some f, some e =>
      (hasExponent || hasFraction) &&
        isRepresentable w f (if hasFraction then digitCount fraction else 0)
          (if negative then -e else e)
    | _, _, _ => false

/-- A number of two digits that is at most `greatest`. -/
def pair? (greatest : Nat) : List Char → Option (Nat × List Char)
  | a :: b :: rest => do
    let n := (← digitIn? 10 a) * 10 + (← digitIn? 10 b)
    if n ≤ greatest then return (n, rest) else none
  | _ => none

def mark? (mark : Char) : List Char → Option (List Char)
  | c :: rest => if c = mark then some rest else none
  | [] => none

/-- A date, and what follows it. -/
def dateRest? (cs : List Char) : Option (List Char) := do
  let (century, cs) ← pair? 99 cs
  let (year, cs) ← pair? 99 cs
  let (month, cs) ← pair? 12 (← mark? '-' cs)
  let (day, cs) ← pair? 31 (← mark? '-' cs)
  let date : CalendarDate := ⟨(century * 100 + year : Nat), month, day⟩
  if date.Valid then return cs else none

/-- A time of day, and what follows it. -/
def timeRest? (cs : List Char) : Option (List Char) := do
  let (_, cs) ← pair? 23 cs
  let (_, cs) ← pair? 59 (← mark? ':' cs)
  let (_, cs) ← pair? 60 (← mark? ':' cs)
  match cs with
  | '.' :: c :: rest => if isDigit c then return rest.dropWhile isDigit else none
  | '.' :: _ => none
  | cs => return cs

/-- Whether nothing or an offset from universal time is left. -/
def isOffset (cs : List Char) : Bool :=
  match cs with
  | [] | ['Z'] | ['z'] => true
  | '+' :: rest | '-' :: rest =>
    match do let (_, rest) ← pair? 23 rest; pair? 59 (← mark? ':' rest) with
    | some (_, []) => true
    | _ => false
  | _ => false

/-- A date, a time of day, or both with an optional offset. -/
def isDate (cs : List Char) : Bool :=
  match dateRest? cs with
  | some [] => true
  | some (c :: rest) =>
    (c = 'T' || c = 't' || c = ' ') &&
      match timeRest? rest with
      | some rest => isOffset rest
      | none => false
  | none => timeRest? cs = some []

example : integer? "0x1_f".toList = some 31 ∧ integer? "+7".toList = some 7 := by decide +kernel
example : integer? "1__0".toList = none ∧ integer? "01".toList = none := by decide +kernel
example : isFraction "1.5e+06".toList ∧ ¬isFraction "1.".toList ∧ ¬isFraction "12".toList := by
  decide +kernel
example : isDate "1979-05-27 07:32:00.5-07:00".toList ∧ ¬isDate "1979-02-29".toList := by
  decide +kernel

end SensorRouter.Toml
