import SensorRouter.Number.Double

/-!
The shortest decimal that reads back as a given number. Among the decimals with the fewest digits it
is the one nearest to the number; the caller says which way an exact tie goes.
-/

namespace SensorRouter.Double

/-- A decimal numeral: `digits · 10 ^ power`. -/
structure Decimal where
  digits : Nat
  power : Int
  deriving DecidableEq, Repr, Inhabited

namespace Decimal

/-- Whether the decimal rounds to the number. -/
def ReadsBack (negative : Bool) (x : Double) (d : Decimal) : Prop :=
  ofDecimal negative d.digits d.power = x

instance (negative : Bool) (x : Double) (d : Decimal) : Decidable (d.ReadsBack negative x) :=
  inferInstanceAs (Decidable (_ = _))

end Decimal

/-- Which of two equally near neighbours is taken. -/
inductive Tie where
  | even
  | up
  deriving DecidableEq, Repr

/-- A ratio times a power of ten, again as a ratio. -/
def scaleTen (num den : Nat) (power : Int) : Nat × Nat :=
  if 0 ≤ power then (num * Nat.pow 10 power.toNat, den)
  else (num, den * Nat.pow 10 (-power).toNat)

/-- The number of decimal digits of a natural number. -/
def digitCount (n : Nat) : Nat :=
  (Nat.toDigits 10 n).length

/-- The power of ten of the leading digit of `num / den`. -/
def leadingPower (num den : Nat) : Int :=
  let guess : Int := digitCount num - digitCount den
  let s := scaleTen num den (-guess)
  if s.2 ≤ s.1 then guess else guess - 1

/-- The decimals with `count` digits on either side of `num / den`, the preferred one first. -/
def neighbours (tie : Tie) (num den : Nat) (count : Nat) : List Decimal :=
  let power := leadingPower num den - (count - 1 : Nat)
  let s := scaleTen num den (-power)
  let below := s.1 / s.2
  let twice := 2 * (s.1 % s.2)
  let down := twice < s.2 || (twice = s.2 && tie = .even && below % 2 = 0)
  let lower : Decimal := ⟨below, power⟩
  let upper : Decimal := ⟨below + 1, power⟩
  if down then [lower, upper] else [upper, lower]

/-- The first decimal that reads back, from one digit to seventeen. -/
def shortest (tie : Tie) (negative : Bool) (significand : Nat) (exponent : Int) (x : Double) :
    Decimal :=
  let r := ratio significand exponent
  let candidates := (List.range 17).flatMap fun n => neighbours tie r.1 r.2 (n + 1)
  (candidates.find? fun d => d.ReadsBack negative x).getD ⟨significand, 0⟩

/-- The digits of a decimal without trailing zeros, and the place of the point counted from the
first digit: the value is `0.d₁d₂… · 10 ^ point`. -/
def Decimal.significant (d : Decimal) : List Char × Int :=
  let cs := Nat.toDigits 10 d.digits
  ((cs.reverse.dropWhile (· == '0')).reverse, cs.length + d.power)

example : shortest .even false 7205759403792794 (-56) (ofDecimal false 1 (-1)) = ⟨1, -1⟩ := by
  decide +kernel
example : (shortest .even false 1 (-1074) (ofDecimal false 5 (-324))).significant =
    (['5'], -323) := by decide +kernel

end SensorRouter.Double
