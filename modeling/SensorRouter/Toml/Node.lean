/-!
Trees of TOML texts. A table remembers how it came to be, because that decides who may still add to
it: a table of a header takes lines once, one that a dotted key made takes further dotted keys, one in
braces is closed.
-/

namespace SensorRouter.Toml

/-- How a table came to be. -/
inductive TableForm where
  /-- By a header of its own, or as the whole text. -/
  | header
  /-- As a table around that of a header. -/
  | implied
  /-- By a dotted key. -/
  | dotted
  /-- In braces. -/
  | closed
  deriving DecidableEq, Repr

/-- Values and tables. The value of a fraction or a date is not kept, as no setting has one. -/
inductive Node where
  | string (s : String)
  | integer (i : Int)
  | fraction
  | boolean (b : Bool)
  | date
  | array (items : List Node)
  | table (form : TableForm) (fields : List (String × Node))
  /-- The tables of repeated double headers, the latest first. -/
  | tables (items : List Node)
  deriving Inhabited

namespace Node

/-- Replaces a field, which is there, or appends it. -/
def setField (name : String) (n : Node) : List (String × Node) → List (String × Node)
  | [] => [(name, n)]
  | (k, v) :: rest => if k = name then (k, n) :: rest else (k, v) :: setField name n rest

/-- Appends a new field. -/
def addField (name : String) (n : Node) (fields : List (String × Node)) :
    Option (List (String × Node)) :=
  if (fields.lookup name).isSome then none else some (fields ++ [(name, n)])

/-- Sets the value of a dotted key in the fields of a table. The table that takes the last part of the
key must have been made by dotted keys; a table with a header of its own is not entered. -/
def insertValue (fields : List (String × Node)) (path : List String) (value : Node) :
    Option (List (String × Node)) :=
  match path with
  | [] => none
  | [name] => addField name value fields
  | name :: rest =>
    match fields.lookup name with
    | none => (insertValue [] rest value).map fun inner =>
      fields ++ [(name, .table .dotted inner)]
    | some (.table .dotted inner) =>
      (insertValue inner rest value).map fun inner => setField name (.table .dotted inner) fields
    | some (.table .implied inner) =>
      if rest.length ≤ 1 then none
      else (insertValue inner rest value).map fun inner =>
        setField name (.table .implied inner) fields
    | some (.tables (.table form inner :: earlier)) =>
      if rest.length ≤ 1 then none
      else (insertValue inner rest value).map fun inner =>
        setField name (.tables (.table form inner :: earlier)) fields
    | some _ => none

/-- Changes the table that a header's path leads to: of repeated tables the latest, of a table that
is not there yet one that is implied by the path. -/
def updateAt (path : List String) (change : List (String × Node) → Option (List (String × Node)))
    (fields : List (String × Node)) : Option (List (String × Node)) :=
  match path with
  | [] => change fields
  | name :: rest =>
    match fields.lookup name with
    | none => (updateAt rest change []).map fun inner => fields ++ [(name, .table .implied inner)]
    | some (.table .closed _) => none
    | some (.table form inner) =>
      (updateAt rest change inner).map fun inner => setField name (.table form inner) fields
    | some (.tables (.table form inner :: earlier)) =>
      (updateAt rest change inner).map fun inner =>
        setField name (.tables (.table form inner :: earlier)) fields
    | some _ => none

/-- Opens the table of a header, which is new or was only implied so far. -/
def openTable (name : String) (fields : List (String × Node)) : Option (List (String × Node)) :=
  match fields.lookup name with
  | none => some (fields ++ [(name, .table .header [])])
  | some (.table .implied inner) => some (setField name (.table .header inner) fields)
  | some _ => none

/-- Opens one more of the tables of a double header. -/
def openNext (name : String) (fields : List (String × Node)) : Option (List (String × Node)) :=
  match fields.lookup name with
  | none => some (fields ++ [(name, .tables [.table .header []])])
  | some (.tables items) => some (setField name (.tables (.table .header [] :: items)) fields)
  | some _ => none

end Node

end SensorRouter.Toml
