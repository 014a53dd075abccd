import SensorRouter.Json.Document

/-!
The compact written form of JSON values: no spaces, fields in the order of the value, and in strings
only the quote, the backslash and control characters escaped.
-/

namespace SensorRouter.Json

/-- The digits of a code unit below 256 after its mark, in lower case. -/
def hexPair (n : Nat) : List Char :=
  [Nat.digitChar (n / 16 % 16), Nat.digitChar (n % 16)]

def escapeChar (c : Char) : List Char :=
  match c with
  | '"' => ['\\', '"']
  | '\\' => ['\\', '\\']
  | '\x08' => ['\\', 'b']
  | '\x0c' => ['\\', 'f']
  | '\n' => ['\\', 'n']
  | '\r' => ['\\', 'r']
  | '\t' => ['\\', 't']
  | c => if c < ' ' then '\\' :: 'u' :: '0' :: '0' :: hexPair c.toNat else [c]

def quote (s : String) : List Char :=
  '"' :: s.toList.flatMap escapeChar ++ ['"']

namespace Value

mutual

/-- The characters of a value in front of a text. -/
def write : Value → List Char → List Char
  | .null, rest => "null".toList ++ rest
  | .bool b, rest => (if b then "true" else "false").toList ++ rest
  | .number n, rest => n.text.toList ++ rest
  | .string s, rest => quote s ++ rest
  | .array items, rest => '[' :: writeItems items (']' :: rest)
  | .object fields, rest => '\x7b' :: writeFields fields ('\x7d' :: rest)
termination_by structural v => v

def writeItems : List Value → List Char → List Char
  | [], rest => rest
  | v :: vs, rest => write v (writeMoreItems vs rest)
termination_by structural vs => vs

def writeMoreItems : List Value → List Char → List Char
  | [], rest => rest
  | v :: vs, rest => ',' :: write v (writeMoreItems vs rest)
termination_by structural vs => vs

def writeFields : List (String × Value) → List Char → List Char
  | [], rest => rest
  | (name, v) :: fs, rest => quote name ++ ':' :: write v (writeMoreFields fs rest)
termination_by structural fs => fs

def writeMoreFields : List (String × Value) → List Char → List Char
  | [], rest => rest
  | (name, v) :: fs, rest => ',' :: quote name ++ ':' :: write v (writeMoreFields fs rest)
termination_by structural fs => fs

end

def text (v : Value) : String :=
  String.ofList (v.write [])

end Value

end SensorRouter.Json
