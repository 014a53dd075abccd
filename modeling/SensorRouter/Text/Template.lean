/-!
Templates: texts in which every occurrence of a mark gives way to a value. Occurrences are found from
left to right and do not overlap; what was put in is not searched again.
-/

namespace SensorRouter.Text

/-- Replaces a mark; the first `skip` characters belong to an occurrence already replaced. -/
def substituteFrom (mark value : List Char) : (skip : Nat) → List Char → List Char
  | _, [] => []
  | skip + 1, _ :: rest => substituteFrom mark value skip rest
  | 0, c :: rest =>
    if mark.isPrefixOf (c :: rest) then value ++ substituteFrom mark value (mark.length - 1) rest
    else c :: substituteFrom mark value 0 rest

/-- The template with a value in place of a mark. -/
def substitute (template mark value : String) : String :=
  String.ofList (substituteFrom mark.toList value.toList 0 template.toList)

/-- The mark of the kind of message. -/
def typeMark : String := "$type"

/-- The mark of a sensor id. -/
def idMark : String := "$id"

/-- The mark of a live data target. -/
def targetMark : String := "$target"

example : substitute "$id/$$id" idMark "$id" = "$id/$$id" := by decide +kernel
example : substitute "a/$type" typeMark "measurements" = "a/measurements" := by decide +kernel

end SensorRouter.Text
