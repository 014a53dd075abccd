import SensorRouter.Json.Document

/-!
Records in JSON documents. A record with declared fields is written as an object, whose further
fields are ignored, or as an array of the fields in declared order. A field given twice, by its name
or by another name for it, makes the record unreadable.
-/

namespace SensorRouter.Json

namespace Document

def string? : Document → Option String
  | .string s => s
  | _ => none

def bool? : Document → Option Bool
  | .bool b => some b
  | _ => none

/-- Any number, as a floating point number. -/
def double? : Document → Option Double
  | .number n => n.map Number.toDouble
  | _ => none

/-- An integer that fits 64 bits without a sign. -/
def nat? : Document → Option Nat
  | .number (some (.integer i)) => if 0 ≤ i then some i.toNat else none
  | _ => none

/-- `null`, or what the reader reads. -/
def optional {α : Type} (read : Document → Option α) : Document → Option (Option α)
  | .null => some none
  | d => (read d).map some

/-- An array of what the reader reads. -/
def list? {α : Type} (read : Document → Option α) : Document → Option (List α)
  | .array items => items.mapM read
  | _ => none

/-- An object of what the reader reads; of a repeated name the last field stays. -/
def dict? {α : Type} (read : Document → Option α) : Document → Option (Dict α)
  | .object fields => do
    let entries ← fields.mapM fun f => do return (← f.1, ← read f.2)
    return Dict.ofList entries
  | _ => none

/-- What may stand beside the name of a choice that carries nothing, when the choice is written as
an object with that name. -/
inductive Nothing where
  | null
  | nullOrEmptyObject
  | emptyTable
  deriving DecidableEq, Repr

def Nothing.Allows (form : Nothing) : Document → Bool
  | .null => form ≠ .emptyTable
  | .object [] => form ≠ .null
  | .array [] => form = .emptyTable
  | _ => false

/-- The name of a choice: a string, or an object with that one name. -/
def choice? (form : Nothing) : Document → Option String
  | .string s => s
  | .object [(name, d)] => if form.Allows d then name else none
  | _ => none

end Document

/-- A declared field: its name and further names that it may be written under. -/
structure FieldName where
  name : String
  aliases : List String := []

namespace FieldName

instance : Coe String FieldName := ⟨fun name => ⟨name, []⟩⟩

def Matches (f : FieldName) (name : String) : Prop :=
  name = f.name ∨ name ∈ f.aliases

instance (f : FieldName) (name : String) : Decidable (f.Matches name) :=
  inferInstanceAs (Decidable (_ ∨ _))

end FieldName

/-- The declared fields that a document gives, by declared name. -/
structure Record where
  fields : List (String × Document)
  /-- Whether the document was an array. -/
  positional : Bool

namespace Record

/-- Sorts the fields of an object under their declared names. -/
def collect (declared : List FieldName) :
    List (String × Document) → List (Option String × Document) → Option (List (String × Document))
  | found, [] => some found
  | _, (none, _) :: _ => none
  | found, (some name, d) :: rest =>
    match declared.find? fun f => f.Matches name with
    | none => collect declared found rest
    | some f =>
      if (found.lookup f.name).isSome then none
      else collect declared ((f.name, d) :: found) rest

/-- The record with the declared fields. `surplus` says whether an array may hold more items than
there are fields. -/
def read (declared : List FieldName) (d : Document) (surplus : Bool := false) : Option Record :=
  match d with
  | .object fields => (collect declared [] fields).map fun found => ⟨found, false⟩
  | .array items =>
    if surplus || items.length ≤ declared.length then
      some ⟨(declared.map FieldName.name).zip items, true⟩
    else none
  | _ => none

def get? (r : Record) (name : String) : Option Document :=
  r.fields.lookup name

variable {α : Type}

/-- A field that must be given. -/
def required (r : Record) (name : String) (value : Document → Option α) : Option α :=
  (r.get? name).bind value

/-- A field with a default. If it is given it must be readable. -/
def withDefault (r : Record) (name : String) (default : α) (value : Document → Option α) :
    Option α :=
  match r.get? name with
  | none => some default
  | some d => value d

/-- A field that may be left out of an object, or be `null`. -/
def optional (r : Record) (name : String) (value : Document → Option α) : Option (Option α) :=
  match r.get? name with
  | none => if r.positional then none else some none
  | some d => d.optional value

end Record

end SensorRouter.Json
