import SensorRouter.Number.Form

/-!
Numbers of JSON texts. A numeral without fraction and exponent that fits 64 bits is an integer; any
other is a binary floating point number, read with a significand of at most 64 bits that is then
scaled by a power of ten.
-/

namespace SensorRouter.Json

inductive Number where
  | integer (i : Int)
  | double (x : Double)
  deriving DecidableEq, Inhabited

namespace Number

/-- The least and the greatest integer that is kept as an integer. -/
def leastInteger : Int := -0x8000000000000000

def greatestInteger : Int := 0xFFFFFFFFFFFFFFFF

/-- Every number as a floating point number. -/
def toDouble : Number → Double
  | .integer i => Double.ofInt i
  | .double x => x

/-- Numeric equality within a kind: zeros of either sign are equal, a number that is not a number
equals nothing. -/
def beq : Number → Number → Bool
  | .integer i, .integer j => i = j
  | .double x, .double y => x ≠ .nan && (x = y || (x.isZero && y.isZero))
  | _, _ => false

instance : BEq Number := ⟨beq⟩

/-- The form of floating point numbers in JSON texts: exponents from the power `-6` down and from
`16` up, and a point in every other number. -/
def form : NumberForm where
  tie := .even
  positional p := -5 ≤ p && p ≤ 15
  wholeSuffix := ".0"

/-- The written form; a number that is not finite has none and is written as `null`. -/
def text : Number → String
  | .integer i => toString i
  | .double x => if x.isFinite then form.text x else "null"

end Number

/-- The parts of a numeral, as digits. -/
structure Numeral where
  negative : Bool
  whole : List Nat
  fraction : Option (List Nat)
  /-- The sign and digits of the exponent. -/
  exponent : Option (Bool × List Nat)
  deriving Repr

namespace Numeral

def digitsOf (cs : List Char) : List Nat :=
  cs.map fun c => c.toNat - '0'.toNat

def isDigit (c : Char) : Bool :=
  '0' ≤ c && c ≤ '9'

/-- A nonempty run of digits that takes the whole list. -/
def allDigits (cs : List Char) : Option (List Nat) :=
  if cs ≠ [] ∧ cs.all isDigit then some (digitsOf cs) else none

/-- A nonempty run of digits without a superfluous leading zero. -/
def wholeDigits (cs : List Char) : Option (List Nat) :=
  match cs with
  | '0' :: _ :: _ => none
  | cs => allDigits cs

/-- The exponent after its mark: an optional sign, then digits. -/
def exponentDigits : List Char → Option (Bool × List Nat)
  | '-' :: cs => (allDigits cs).map (true, ·)
  | '+' :: cs => (allDigits cs).map (false, ·)
  | cs => (allDigits cs).map (false, ·)

/-- Splits at the first character of a kind; the part after it is absent if there is none. -/
def splitAt (mark : Char → Bool) (cs : List Char) : List Char × Option (List Char) :=
  match cs.dropWhile (fun c => !mark c) with
  | [] => (cs, none)
  | _ :: rest => (cs.takeWhile (fun c => !mark c), some rest)

def ofUnsigned (negative : Bool) (cs : List Char) : Option Numeral := do
  let (mantissa, exponent) := splitAt (fun c => c = 'e' || c = 'E') cs
  let (whole, fraction) := splitAt (· == '.') mantissa
  return {
    negative
    whole := ← wholeDigits whole
    fraction := ← fraction.mapM allDigits
    exponent := ← exponent.mapM exponentDigits }

def ofChars : List Char → Option Numeral
  | '-' :: cs => ofUnsigned true cs
  | cs => ofUnsigned false cs

/-- Appends digits to a significand while it fits 64 bits; returns it and the digits left over. -/
def gather : Nat → List Nat → Nat × List Nat
  | n, [] => (n, [])
  | n, d :: ds => if n * 10 + d < 0x10000000000000000 then gather (n * 10 + d) ds else (n, d :: ds)

/-- The greatest power of ten that is a floating point number. -/
def greatestPower : Nat := 308

def powerOfTen (n : Nat) : Double :=
  Double.ofNat (Nat.pow 10 n)

/-- Divides a number that is not zero by the greatest power of ten, `n` times. -/
def divideByGreatest : Nat → Double → Double
  | 0, x => x
  | n + 1, x => if x.isZero then x else divideByGreatest n (x.div (powerOfTen greatestPower))

/-- Multiplies or divides by a power of ten, with one rounding for each step of at most 308
digits; `none` when the result is too large. -/
def scaled (x : Double) (power : Int) : Option Double :=
  if power < 0 then
    let steps := (power.natAbs - 1) / greatestPower
    some ((divideByGreatest steps x).div (powerOfTen (power.natAbs - steps * greatestPower)))
  else if power ≤ greatestPower then
    let y := x.mul (powerOfTen power.natAbs)
    if y.isFinite then some y else none
  else if x.isZero then some x
  else none

/-- The value of a run of digits. -/
def value (ds : List Nat) : Nat :=
  ds.foldl (fun n d => n * 10 + d) 0

/-- A 32 bit integer, at the bound it passed if it does not fit. -/
def saturate (i : Int) : Int :=
  max (-0x80000000) (min 0x7FFFFFFF i)

/-- The number as a floating point number. An exponent beyond 32 bits is decided by its sign alone:
it makes a nonzero number too large or zero. -/
def double? (n : Numeral) : Option Double := do
  let (head, dropped) := gather 0 n.whole
  let fraction := n.fraction.getD []
  let (significand, ignored) := gather head fraction
  let power : Int := dropped.length - (fraction.length - ignored.length : Nat)
  let magnitude ← match n.exponent with
    | none => scaled (Double.ofNat significand) power
    | some (negative, ds) =>
      if value ds < 0x80000000 then
        let e : Int := value ds
        scaled (Double.ofNat significand) (saturate (if negative then power - e else power + e))
      else if negative || significand = 0 then some (Double.zero false)
      else none
  return if n.negative then -magnitude else magnitude

/-- The number of a numeral, `none` when it is too large. A negative zero is not an integer. -/
def number? (n : Numeral) : Option Number :=
  let magnitude : Int := value n.whole
  let i := if n.negative then -magnitude else magnitude
  if n.fraction.isNone && n.exponent.isNone && !(n.negative && magnitude = 0)
      && Number.leastInteger ≤ i && i ≤ Number.greatestInteger then
    some (.integer i)
  else n.double?.map .double

end Numeral

end SensorRouter.Json
