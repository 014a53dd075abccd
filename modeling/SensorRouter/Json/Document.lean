import SensorRouter.Json.Token
import SensorRouter.Json.Value

/-!
JSON documents as they are written: fields in source order, repeated names kept, and leaves without
a value marked as such. A reader of records looks only at the parts it needs; `Document.value?` is
the value of a document all of whose parts have one.
-/

namespace SensorRouter.Json

inductive Document where
  | null
  | bool (b : Bool)
  | number (n : Option Number)
  | string (s : Option String)
  | array (items : List Document)
  | object (fields : List (Option String × Document))
  deriving Inhabited

namespace Document

/-- An array or object that has begun, with its parts so far in reverse. -/
inductive Frame where
  | array (items : List Document)
  | object (fields : List (Option String × Document)) (name : Option String)

/-- What may come next. -/
inductive Awaiting where
  | value
  | firstItem
  | firstName
  | name
  | colon
  | separator
  | nothing (result : Document)

structure Reader where
  frames : List Frame
  awaiting : Awaiting

/-- A value is complete and goes into the innermost frame. -/
def Reader.complete (frames : List Frame) (d : Document) : Reader :=
  match frames with
  | [] => ⟨[], .nothing d⟩
  | .array items :: rest => ⟨.array (d :: items) :: rest, .separator⟩
  | .object fields name :: rest => ⟨.object ((name, d) :: fields) none :: rest, .separator⟩

/-- A token where a value must begin. -/
def Reader.beginValue (frames : List Frame) (t : Token) : Option Reader :=
  match t with
  | .null => some (.complete frames .null)
  | .bool b => some (.complete frames (.bool b))
  | .number n => some (.complete frames (.number n))
  | .string s => some (.complete frames (.string s))
  | .openArray => some ⟨.array [] :: frames, .firstItem⟩
  | .openObject => some ⟨.object [] none :: frames, .firstName⟩
  | _ => none

/-- A token where the name of a field must stand. -/
def Reader.readName (frames : List Frame) (t : Token) : Option Reader :=
  match t, frames with
  | .string s, .object fields _ :: rest => some ⟨.object fields s :: rest, .colon⟩
  | _, _ => none

def Reader.step (r : Reader) (t : Token) : Option Reader :=
  match r.awaiting, t, r.frames with
  | .value, t, frames => Reader.beginValue frames t
  | .firstItem, .closeArray, .array items :: rest => some (.complete rest (.array items.reverse))
  | .firstItem, t, frames => Reader.beginValue frames t
  | .firstName, .closeObject, .object fields _ :: rest =>
    some (.complete rest (.object fields.reverse))
  | .firstName, t, frames => Reader.readName frames t
  | .name, t, frames => Reader.readName frames t
  | .colon, .colon, frames => some ⟨frames, .value⟩
  | .separator, .comma, .array items :: rest => some ⟨.array items :: rest, .value⟩
  | .separator, .comma, .object fields name :: rest => some ⟨.object fields name :: rest, .name⟩
  | .separator, .closeArray, .array items :: rest => some (.complete rest (.array items.reverse))
  | .separator, .closeObject, .object fields _ :: rest =>
    some (.complete rest (.object fields.reverse))
  | _, _, _ => none

/-- The document of a token sequence. -/
def ofTokens (tokens : List Token) : Option Document :=
  match tokens.foldlM Reader.step ⟨[], .value⟩ with
  | some ⟨[], .nothing d⟩ => some d
  | _ => none

def ofSymbols (symbols : List (Option Char)) : Option Document :=
  (Token.scan symbols).bind ofTokens

def ofText (s : String) : Option Document :=
  ofSymbols (Text.symbols s)

def ofBytes (bytes : ByteArray) : Option Document :=
  ofSymbols (Text.symbolsOfBytes bytes)

mutual

/-- The value of a document whose arrays and objects are nested at most `depth` deep. -/
def valueWithin (depth : Nat) : Document → Option Value
  | .null => some .null
  | .bool b => some (.bool b)
  | .number n => n.map .number
  | .string s => s.map .string
  | .array items => if depth = 0 then none else (itemValues (depth - 1) items).map .array
  | .object fields => if depth = 0 then none else (fieldValues (depth - 1) fields).map Value.ofFields
termination_by structural d => d

def itemValues (depth : Nat) : List Document → Option (List Value)
  | [] => some []
  | d :: rest =>
    match valueWithin depth d with
    | none => none
    | some v => (itemValues depth rest).map (v :: ·)
termination_by structural ds => ds

def fieldValues (depth : Nat) : List (Option String × Document) → Option (List (String × Value))
  | [] => some []
  | (name, d) :: rest =>
    match name, valueWithin depth d with
    | some name, some v => (fieldValues depth rest).map ((name, v) :: ·)
    | _, _ => none
termination_by structural fs => fs

end

/-- The deepest nesting of arrays and objects in a value. -/
def greatestDepth : Nat := 127

def value? (d : Document) : Option Value :=
  d.valueWithin greatestDepth

mutual

/-- A value as a document. -/
def ofValue : Value → Document
  | .null => .null
  | .bool b => .bool b
  | .number n => .number (some n)
  | .string s => .string (some s)
  | .array items => .array (ofItems items)
  | .object fields => .object (ofFields fields)
termination_by structural v => v

def ofItems : List Value → List Document
  | [] => []
  | v :: rest => ofValue v :: ofItems rest
termination_by structural vs => vs

def ofFields : List (String × Value) → List (Option String × Document)
  | [] => []
  | (name, v) :: rest => (some name, ofValue v) :: ofFields rest
termination_by structural fs => fs

end

end Document

/-- The value of a JSON text. -/
def Value.ofText (s : String) : Option Value :=
  (Document.ofText s).bind Document.value?

def Value.ofBytes (bytes : ByteArray) : Option Value :=
  (Document.ofBytes bytes).bind Document.value?

end SensorRouter.Json
