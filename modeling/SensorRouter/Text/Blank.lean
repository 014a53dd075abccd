/-!
Blank characters: the characters with the Unicode property `White_Space`, and trimming a text of
them on either side.
-/

namespace SensorRouter.Text

/-- The code point ranges of the Unicode property `White_Space`. -/
def blankRanges : List (Nat × Nat) :=
  [(0x09, 0x0D), (0x20, 0x20), (0x85, 0x85), (0xA0, 0xA0), (0x1680, 0x1680), (0x2000, 0x200A),
    (0x2028, 0x2029), (0x202F, 0x202F), (0x205F, 0x205F), (0x3000, 0x3000)]

def isBlank (c : Char) : Bool :=
  blankRanges.any fun r => r.1 ≤ c.toNat && c.toNat ≤ r.2

/-- The text from its first character that is not blank on. -/
def dropBlanks (cs : List Char) : List Char :=
  cs.dropWhile isBlank

/-- The text without its leading and trailing blanks. -/
def trim (s : String) : String :=
  String.ofList (dropBlanks (dropBlanks s.toList).reverse).reverse

example : trim " \ta b\u3000" = "a b" := by decide +kernel
example : trim "\u2003" = "" := by decide +kernel

end SensorRouter.Text
