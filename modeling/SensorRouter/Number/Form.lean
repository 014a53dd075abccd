import SensorRouter.Number.Shortest

/-!
Written forms of a number. A form says where positional writing ends, whether a whole number keeps
its point, and which of two equally near shortest decimals is written.
-/

namespace SensorRouter

structure NumberForm where
  tie : Double.Tie
  /-- Whether a number whose leading digit has this power of ten is written without an exponent. -/
  positional : Int → Bool
  /-- What follows the digits of a whole number. -/
  wholeSuffix : String

namespace NumberForm

/-- `0.00ddd`, `ddd.ddd` or `ddd000` with the suffix of whole numbers. -/
def positionalText (form : NumberForm) (digits : List Char) (point : Int) : List Char :=
  if point ≤ 0 then
    '0' :: '.' :: List.replicate (-point).toNat '0' ++ digits
  else
    let whole := digits.take point.toNat
    let fraction := digits.drop point.toNat
    if fraction.isEmpty then
      whole ++ List.replicate (point.toNat - whole.length) '0' ++ form.wholeSuffix.toList
    else whole ++ '.' :: fraction

/-- `d.ddde+x`: one digit before the point, and the exponent with its sign. -/
def exponentText (digits : List Char) (point : Int) : List Char :=
  let power := point - 1
  let mantissa := match digits with
    | d :: e :: rest => d :: '.' :: e :: rest
    | ds => ds
  mantissa ++ 'e' :: (if power < 0 then '-' else '+') :: (toString power.natAbs).toList

def magnitudeText (form : NumberForm) (significand : Nat) (exponent : Int) (x : Double) (negative : Bool) :
    List Char :=
  if significand = 0 then '0' :: form.wholeSuffix.toList
  else
    let (digits, point) := (Double.shortest form.tie negative significand exponent x).significant
    if form.positional (point - 1) then form.positionalText digits point
    else exponentText digits point

def text (form : NumberForm) (x : Double) : String :=
  match x with
  | .finite negative m e _ =>
    String.ofList ((if negative then ['-'] else []) ++ form.magnitudeText m e x negative)
  | .infinite negative => if negative then "-inf" else "inf"
  | .nan => "NaN"

/-- The form of numbers in sentences: never an exponent, and no point in a whole number. -/
def prose : NumberForm where
  tie := .up
  positional _ := true
  wholeSuffix := ""

example : prose.text (Double.ofNat 200) = "200" := by decide +kernel
example : prose.text (Double.ofDecimal true 905 (-1)) = "-90.5" := by decide +kernel
example : prose.text (Double.zero true) = "-0" := by decide +kernel
example : prose.text (Double.ofDecimal false 1 21) = "1000000000000000000000" := by decide +kernel

end NumberForm

end SensorRouter
