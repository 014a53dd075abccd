/-!
Binary floating point numbers of 64 bits, as exact values: a finite one is `± significand · 2 ^ exponent`.
Every operation here rounds at most once, from an exact ratio to the nearest number, ties to the
even significand.
-/

namespace SensorRouter

/-- The significands and exponents of the format: 53 bits, all of them used except next to zero. -/
def Double.Canonical (significand : Nat) (exponent : Int) : Prop :=
  significand < 0x20000000000000 ∧ -1074 ≤ exponent ∧ exponent ≤ 971 ∧
    (0x10000000000000 ≤ significand ∨ exponent = -1074)

instance (m : Nat) (e : Int) : Decidable (Double.Canonical m e) :=
  inferInstanceAs (Decidable (_ ∧ _))

inductive Double where
  | finite (negative : Bool) (significand : Nat) (exponent : Int)
      (canonical : Double.Canonical significand exponent)
  | infinite (negative : Bool)
  | nan
  deriving DecidableEq

namespace Double

def zero (negative : Bool) : Double :=
  .finite negative 0 (-1074) (by decide)

instance : Inhabited Double := ⟨zero false⟩

/-- A ratio of natural numbers times a power of two, again as a ratio. -/
def scale (num den : Nat) (power : Int) : Nat × Nat :=
  if 0 ≤ power then (num * Nat.pow 2 power.toNat, den)
  else (num, den * Nat.pow 2 (-power).toNat)

/-- A ratio as a quotient of natural numbers, rounded to the nearest, ties to even. -/
def roundQuotient (num den : Nat) : Nat :=
  let q := num / den
  let twice := 2 * (num % den)
  if den < twice || (den = twice && q % 2 = 1) then q + 1 else q

/-- The exponent at which `num / den` has a significand of 53 bits, or the least one. -/
def exponentFor (num den : Nat) : Int :=
  let guess := max (-1074) ((num.log2 : Int) - den.log2 - 52)
  let s := scale num den (-guess)
  if s.1 / s.2 < 0x10000000000000 then max (-1074) (guess - 1) else guess

/-- The number nearest to `num / den`, infinite when the ratio is too large. -/
def ofRatio (negative : Bool) (num den : Nat) : Double :=
  let e := if num = 0 then -1074 else exponentFor num den
  let s := scale num den (-e)
  let m := roundQuotient s.1 s.2
  let (m, e) := if m = 0x20000000000000 then (0x10000000000000, e + 1) else (m, e)
  if h : Canonical m e then .finite negative m e h else .infinite negative

def ofNat (n : Nat) : Double :=
  ofRatio false n 1

def ofInt (i : Int) : Double :=
  ofRatio (i < 0) i.natAbs 1

/-- The value `digits · 10 ^ power`, rounded once. -/
def ofDecimal (negative : Bool) (digits : Nat) (power : Int) : Double :=
  if 0 ≤ power then ofRatio negative (digits * Nat.pow 10 power.toNat) 1
  else ofRatio negative digits (Nat.pow 10 (-power).toNat)

/-- The magnitude of a finite number as a ratio. -/
def ratio (significand : Nat) (exponent : Int) : Nat × Nat :=
  scale significand 1 exponent

def neg : Double → Double
  | .finite s m e h => .finite (!s) m e h
  | .infinite s => .infinite (!s)
  | .nan => .nan

instance : Neg Double := ⟨neg⟩

def isZero : Double → Bool
  | .finite _ m _ _ => m = 0
  | _ => false

def isFinite : Double → Bool
  | .finite .. => true
  | _ => false

/-- The product of the magnitudes of two finite numbers, with the sign of the first. -/
def mul : Double → Double → Double
  | .finite s m e _, .finite _ m' e' _ =>
    let a := ratio m e
    let b := ratio m' e'
    ofRatio s (a.1 * b.1) (a.2 * b.2)
  | x, _ => x

/-- The quotient of the magnitudes of two finite numbers, with the sign of the first. -/
def div : Double → Double → Double
  | .finite s m e _, .finite _ m' e' _ =>
    let a := ratio m e
    let b := ratio m' e'
    ofRatio s (a.1 * b.2) (a.2 * b.1)
  | x, _ => x

/-- Whether the number lies between `-bound` and `bound`; false of a number that is not finite. -/
def within (bound : Nat) : Double → Bool
  | .finite _ m e _ =>
    let r := ratio m e
    r.1 ≤ bound * r.2
  | _ => false

example : ofDecimal false 1 (-1) = .finite false 7205759403792794 (-56) (by decide) := by
  decide +kernel
example : ofDecimal false 5 (-324) = .finite false 1 (-1074) (by decide) := by decide +kernel
example : ofDecimal false 18 307 = .infinite false := by decide +kernel
example : ofNat 0xFFFFFFFFFFFFFFFF = ofNat 0x10000000000000000 := by decide +kernel

end Double

end SensorRouter
