import SensorRouter.Dict
import SensorRouter.Json.Number

/-!
JSON values. The value of a text has the fields of an object by ascending name, each name once;
`Value.ofFields` brings fields of any order into this form, and of a repeated name the last field stays.
A record is written with its fields in the order in which they are declared.
-/

namespace SensorRouter.Json

inductive Value where
  | null
  | bool (b : Bool)
  | number (n : Number)
  | string (s : String)
  | array (items : List Value)
  | object (fields : List (String × Value))
  deriving Inhabited

namespace Value

def nat (n : Nat) : Value :=
  .number (.integer n)

def double (x : Double) : Value :=
  .number (.double x)

/-- The object with the given fields, of a repeated name the last one. -/
def ofFields (fields : List (String × Value)) : Value :=
  .object (fields.foldl (fun done f => Dict.insertEntry f.1 f.2 done) [])

/-- The object with the entries of a dictionary. -/
def ofDict (d : Dict Value) : Value :=
  .object d.entries

/-- The fields that are present, as they are listed. -/
def present (fields : List (String × Option Value)) : List (String × Value) :=
  fields.filterMap fun f => f.2.map (f.1, ·)

/-- The object of those fields that are present, as they are listed. -/
def ofPresent (fields : List (String × Option Value)) : Value :=
  .object (present fields)

def get? (v : Value) (name : String) : Option Value :=
  match v with
  | .object fields => fields.lookup name
  | _ => none

mutual

/-- Equality of values, with numbers compared within their kind. -/
def beq : Value → Value → Bool
  | .null, .null => true
  | .bool a, .bool b => a == b
  | .number m, .number n => m == n
  | .string s, .string t => s == t
  | .array xs, .array ys => beqItems xs ys
  | .object fs, .object gs => beqFields fs gs
  | _, _ => false
termination_by structural v => v

def beqItems : List Value → List Value → Bool
  | [], [] => true
  | x :: xs, y :: ys => beq x y && beqItems xs ys
  | _, _ => false
termination_by structural xs => xs

def beqFields : List (String × Value) → List (String × Value) → Bool
  | [], [] => true
  | (k, x) :: fs, (l, y) :: gs => k == l && beq x y && beqFields fs gs
  | _, _ => false
termination_by structural fs => fs

end

instance : BEq Value := ⟨beq⟩

end Value

end SensorRouter.Json
