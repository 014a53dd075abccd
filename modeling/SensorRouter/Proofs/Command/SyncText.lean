import SensorRouter.Proofs.Command.Payload
import SensorRouter.Proofs.Json.FieldOrder

/-!
Syncs as they are written. The sets of a sync are listed as objects, or their routes are; the arguments
are the list itself or a string that holds its text. A list of sets is read as it stands, and a list of
routes is grouped.
-/

namespace SensorRouter

open Json (Value Document Record)
open Json.Document (ofValue)

/-! ### Values of routes and sets -/

namespace LiveRoute

theorem toValue_eq (r : LiveRoute) :
    r.toValue = .object [("sensor_id", .string r.sensorId), ("target", .string r.target)] :=
  rfl

theorem ofDocument_toValue (r : LiveRoute) : ofDocument (ofValue r.toValue) = some r := by
  rw [toValue_eq]
  rfl

theorem valueWithin_toValue (r : LiveRoute) (depth : Nat) :
    (ofValue r.toValue).valueWithin (depth + 1) = some r.toValue := by
  rw [toValue_eq]
  exact congrArg some (Value.ofFields_pair (by decide) _ _)

theorem readsBack_toValue (r : LiveRoute) : r.toValue.ReadsBack := by
  rw [toValue_eq]
  exact ⟨trivial, trivial, trivial⟩

end LiveRoute

namespace SyncSet

/-- The routes that a set asks for. -/
def routes (s : SyncSet) : List LiveRoute :=
  s.sensors.map fun sensor => ⟨sensor, s.target⟩

theorem toValue_eq (s : SyncSet) :
    s.toValue =
      .object [("sensors", .array (s.sensors.map .string)), ("target", .string s.target)] :=
  Value.ofFields_swapped (by decide) _ _

theorem ofDocument_toValue (s : SyncSet) : ofDocument (ofValue s.toValue) = some s := by
  have hsensors : (ofValue (.array (s.sensors.map .string))).list? Document.string? =
      some s.sensors :=
    Document.list?_ofItems fun _ _ => rfl
  have hread : ofDocument (ofValue s.toValue) =
      ((ofValue (.array (s.sensors.map .string))).list? Document.string?).bind fun sensors =>
        some ⟨s.target, sensors⟩ := by
    rw [toValue_eq]
    rfl
  rw [hread, hsensors, Option.bind_some]

theorem valueWithin_toValue (s : SyncSet) (depth : Nat) :
    (ofValue s.toValue).valueWithin (depth + 2) = some s.toValue := by
  have hsensors : (ofValue (.array (s.sensors.map .string))).valueWithin (depth + 1) =
      some (.array (s.sensors.map .string)) := by
    refine Document.valueWithin_array fun v hv => ?_
    obtain ⟨sensor, -, rfl⟩ := List.mem_map.1 hv
    rfl
  have hfields : Document.fieldValues (depth + 1)
      [(some "sensors", ofValue (.array (s.sensors.map .string))),
        (some "target", .string (some s.target))] =
      some [("sensors", .array (s.sensors.map .string)), ("target", .string s.target)] := by
    simp only [Document.fieldValues, hsensors]
    rfl
  rw [toValue_eq]
  change (Document.fieldValues (depth + 1) _).map Value.ofFields = _
  rw [Document.ofFields, Document.ofFields, Document.ofFields, ofValue, hfields]
  exact congrArg some (Value.ofFields_pair (by decide) _ _)

theorem readsBack_toValue (s : SyncSet) : s.toValue.ReadsBack := by
  have hsensors : Value.ItemsReadBack (s.sensors.map .string) := by
    refine (Document.itemsReadBack_iff _).2 fun v hv => ?_
    obtain ⟨sensor, -, rfl⟩ := List.mem_map.1 hv
    trivial
  rw [toValue_eq]
  exact ⟨hsensors, trivial, trivial⟩

/-- No set is taken for a route. -/
theorem ofDocument_route_toValue (s : SyncSet) :
    LiveRoute.ofDocument (ofValue s.toValue) = none := by
  rw [toValue_eq]
  rfl

/-- An array holds routes, or else sets. -/
theorem listOfDocument_array (items : List Value) :
    listOfDocument (ofValue (.array items)) =
      (((ofValue (.array items)).list? LiveRoute.ofDocument).map ofRoutes).or
        ((ofValue (.array items)).list? ofDocument) := by
  rw [ofValue, listOfDocument]
  cases (Document.array (Document.ofItems items)).list? LiveRoute.ofDocument <;> rfl

/-- A list of sets is read as these sets. -/
theorem listOfDocument_sets {sets : List SyncSet} (hne : sets ≠ []) :
    listOfDocument (ofValue (.array (sets.map toValue))) = some sets := by
  have hsets : (ofValue (.array (sets.map toValue))).list? ofDocument = some sets :=
    Document.list?_ofItems fun s _ => s.ofDocument_toValue
  -- the first set already is no route
  have hroutes : (ofValue (.array (sets.map toValue))).list? LiveRoute.ofDocument = none := by
    obtain ⟨first, rest, rfl⟩ := List.exists_cons_of_ne_nil hne
    change (ofValue first.toValue :: _).mapM LiveRoute.ofDocument = none
    rw [List.mapM_cons, first.ofDocument_route_toValue]
    rfl
  rw [listOfDocument_array, hroutes, hsets]
  rfl

/-- A list of routes is read as the sets that it groups into. -/
theorem listOfDocument_routes (routes : List LiveRoute) :
    listOfDocument (ofValue (.array (routes.map LiveRoute.toValue))) = some (ofRoutes routes) := by
  have hroutes : (ofValue (.array (routes.map LiveRoute.toValue))).list? LiveRoute.ofDocument =
      some routes :=
    Document.list?_ofItems fun r _ => r.ofDocument_toValue
  rw [listOfDocument_array, hroutes]
  rfl

end SyncSet

/-! ### Written syncs -/

namespace Command

/-- The arguments are an array, or a string that holds its text. -/
inductive GivesArray (items : List Value) : Value → Prop
  | inline : GivesArray items (.array items)
  | encoded : GivesArray items (.string (Value.array items).text)

/-- A sync is read as the sets that its array lists, if there are any and all name their target. -/
theorem ofBytes_sync {items : List Value} {arguments : Value} (h : GivesArray items arguments)
    (hreads : ∀ v ∈ items, v.ReadsBack)
    (hvalue : ∀ v ∈ items, ∀ depth, (ofValue v).valueWithin (depth + 2) = some v)
    {sets : List SyncSet} (hsets : SyncSet.listOfDocument (ofValue (.array items)) = some sets)
    (hne : sets ≠ []) (htargets : ∀ set ∈ sets, set.target ≠ "") :
    ofBytes (payload .syncLiveDataSensors arguments.text).toUTF8 = .ok (.sync sets) := by
  have harray : (Value.array items).ReadsBack := (Document.itemsReadBack_iff items).2 hreads
  have hwithin : ∀ depth, (ofValue (.array items)).valueWithin (depth + 3) = some (.array items) :=
    fun depth => Document.valueWithin_array fun v hv => hvalue v hv depth
  have hdocument : argumentDocument arguments = some (ofValue (.array items)) := by
    cases h with
    | inline => rfl
    | encoded => exact Document.ofText_text _ harray
  have hwritten : arguments.ReadsBack ∧
      (ofValue arguments).valueWithin (Document.greatestDepth - 1) = some arguments := by
    cases h with
    | inline => exact ⟨harray, hwithin 123⟩
    | encoded => exact ⟨trivial, rfl⟩
  have hread : readSync arguments = .ok sets := by
    have hsome : (ofValue (.array items)).value? = some (.array items) := hwithin 124
    have hany : ¬ (sets.any fun s => s.target = "") = true := by
      rw [List.any_eq_true]
      rintro ⟨set, hmem, htarget⟩
      exact htargets set hmem (of_decide_eq_true htarget)
    rw [readSync, hdocument, Option.bind_some, hsome]
    simp only [Option.isNone_some, Bool.false_eq_true, if_false, hsets]
    rw [if_neg (by simpa using hne), if_neg hany]
  have hwrites := Document.writes_write arguments hwritten.1
  have htext : arguments.text.toList = arguments.write [] := String.toList_ofList
  rw [ofBytes_payload .syncLiveDataSensors (htext ▸ hwrites) hwritten.2, ofArguments, hread]
  rfl

end Command

end SensorRouter
