import SensorRouter.Proofs.Command.SyncText
import SensorRouter.Proofs.Json.Readers

/-!
The arguments of commands. A command is read back from the arguments that it is written with, whatever
the order of their fields, exactly if it is one that arguments can express. A document that is given as
arguments may as well be given as a string that holds its text.
-/

namespace SensorRouter

open Json (Value Document)
open Json.Document (ofValue Unordered)
open Json.Value (DistinctNames WholeNumber Everywhere)

/-! ### Readers of routes and sets -/

theorem LiveRoute.unordered_ofDocument : Unordered ofDocument := by
  refine Json.Record.unordered_read fieldNames false fun r r' halike => ?_
  simp only [halike.required Document.unordered_string?]

namespace SyncSet

theorem unordered_ofDocument : Unordered ofDocument := by
  refine Json.Record.unordered_read fieldNames false fun r r' halike => ?_
  simp only [halike.required Document.unordered_string?,
    halike.withDefault Document.unordered_string?.list?]

theorem unordered_listOfDocument : Unordered listOfDocument := by
  intro v h
  cases v with
  | null | bool | number | string => rfl
  | object fields =>
    have hset := unordered_ofDocument _ h
    rw [Value.sorted_object] at hset ⊢
    exact congrArg (Option.map ([·])) hset
  | array items =>
    have hroutes := LiveRoute.unordered_ofDocument.list? _ h
    have hsets := unordered_ofDocument.list? _ h
    rw [Value.sorted_array] at hroutes hsets ⊢
    rw [listOfDocument_array, listOfDocument_array, hroutes, hsets]

end SyncSet

namespace Command

theorem error_ne_ok {ε α : Type} {e : ε} {a : α} : Except.error e ≠ .ok a := by
  intro h
  cases h

theorem mapError_eq_ok_iff {ε ε' α : Type} {x : Except ε α} {f : ε → ε'} {a : α} :
    x.mapError f = .ok a ↔ x = .ok a := by
  cases x with
  | error e => exact iff_of_false error_ne_ok error_ne_ok
  | ok b => exact ⟨fun h => congrArg Except.ok (Except.ok.inj h), fun h => by rw [h]; rfl⟩

theorem map_eq_ok_iff {ε α β : Type} {x : Except ε α} {f : α → β} (hf : Function.Injective f)
    {a : α} : x.map f = .ok (f a) ↔ x = .ok a := by
  cases x with
  | error e => exact iff_of_false error_ne_ok error_ne_ok
  | ok b =>
    exact ⟨fun h => congrArg Except.ok (hf (Except.ok.inj h)), fun h => by rw [h]; rfl⟩

/-! ### Arguments of a command -/

/-- The arguments that a command is written with. -/
def arguments : Command → Value
  | .flush _ id | .add _ id | .deleteAccount id => .string id
  | .addRoute route | .removeRoute route => route.toValue
  | .sync sets => .array (sets.map SyncSet.toValue)

/-- An identifier has a character, and no blanks on either side. A sync has sets, and all of them a
target. -/
def Expressible : Command → Prop
  | .flush _ id | .add _ id | .deleteAccount id => id ≠ "" ∧ Text.Bare id
  | .addRoute _ | .removeRoute _ => True
  | .sync sets => sets ≠ [] ∧ ∀ set ∈ sets, set.target ≠ ""

theorem readIdentifier_eq_ok_iff (id : String) :
    readIdentifier (.string id) = .ok id ↔ id ≠ "" ∧ Text.Bare id := by
  rw [← Text.trim_eq_self_iff, readIdentifier]
  by_cases hempty : Text.trim id = ""
  · rw [if_pos hempty]
    exact iff_of_false error_ne_ok fun h => h.1 (h.2.symm.trans hempty)
  · rw [if_neg hempty, Except.ok.injEq]
    exact ⟨fun hbare => ⟨hbare ▸ hempty, hbare⟩, And.right⟩

theorem readRoute_toValue (route : LiveRoute) : readRoute route.toValue = .ok route := by
  have hdocument : argumentDocument route.toValue = some (ofValue route.toValue) := by
    rw [LiveRoute.toValue_eq]
    rfl
  rw [readRoute, hdocument, Option.bind_some, LiveRoute.ofDocument_toValue]

theorem readSync_eq_ok_iff {arguments : Value} {d : Document} {sets : List SyncSet}
    (hdocument : argumentDocument arguments = some d) (hvalue : d.value?.isSome = true)
    (hsets : SyncSet.listOfDocument d = some sets) :
    readSync arguments = .ok sets ↔ sets ≠ [] ∧ ∀ set ∈ sets, set.target ≠ "" := by
  have hread : readSync arguments =
      if sets.isEmpty then .error .noTarget
      else if sets.any fun s => s.target = "" then .error .emptyTarget
      else .ok sets := by
    have hpresent : ¬ d.value?.isNone = true := by
      rw [Option.isNone_iff_eq_none]
      exact Option.isSome_iff_ne_none.1 hvalue
    simp only [readSync, hdocument, Option.bind_some, if_neg hpresent, hsets]
  have hany : (sets.any fun s => s.target = "") = true ↔ ∃ set ∈ sets, set.target = "" := by
    simp only [List.any_eq_true, decide_eq_true_eq]
  rw [hread]
  by_cases hempty : sets = []
  · rw [if_pos (List.isEmpty_iff.2 hempty)]
    exact iff_of_false error_ne_ok fun h => h.1 hempty
  · rw [if_neg (mt List.isEmpty_iff.1 hempty)]
    by_cases hunnamed : ∃ set ∈ sets, set.target = ""
    · rw [if_pos (hany.2 hunnamed)]
      obtain ⟨set, hset, htarget⟩ := hunnamed
      exact iff_of_false error_ne_ok fun h => h.2 set hset htarget
    · rw [if_neg (mt hany.1 hunnamed)]
      exact iff_of_true rfl ⟨hempty, fun set hset htarget => hunnamed ⟨set, hset, htarget⟩⟩

theorem valueWithin_sets (sets : List SyncSet) (depth : Nat) :
    (ofValue (.array (sets.map SyncSet.toValue))).valueWithin (depth + 3) =
      some (.array (sets.map SyncSet.toValue)) := by
  refine Document.valueWithin_array fun v hv => ?_
  obtain ⟨set, -, rfl⟩ := List.mem_map.1 hv
  exact set.valueWithin_toValue depth

theorem readSync_sets (sets : List SyncSet) :
    readSync (.array (sets.map SyncSet.toValue)) = .ok sets ↔
      sets ≠ [] ∧ ∀ set ∈ sets, set.target ≠ "" := by
  have hsets : SyncSet.listOfDocument (ofValue (.array (sets.map SyncSet.toValue))) = some sets := by
    cases sets with
    | nil => rfl
    | cons set rest => exact SyncSet.listOfDocument_sets (List.cons_ne_nil set rest)
  refine readSync_eq_ok_iff rfl ?_ hsets
  rw [Document.value?, show Document.greatestDepth = 124 + 3 from rfl, valueWithin_sets]
  rfl

/-- The arguments of a command are read as that command exactly if it is expressible. -/
theorem ofArguments_arguments (c : Command) :
    ofArguments c.name c.arguments = .ok c ↔ c.Expressible := by
  cases c with
  | flush kind id =>
    have hinjective : Function.Injective (Command.flush kind) := fun _ _ h => by cases h; rfl
    cases kind <;> exact (map_eq_ok_iff hinjective).trans (readIdentifier_eq_ok_iff id)
  | add kind id =>
    have hinjective : Function.Injective (Command.add kind) := fun _ _ h => by cases h; rfl
    cases kind <;> exact (map_eq_ok_iff hinjective).trans (readIdentifier_eq_ok_iff id)
  | deleteAccount id =>
    have hinjective : Function.Injective Command.deleteAccount := fun _ _ h => by cases h; rfl
    exact (map_eq_ok_iff hinjective).trans (readIdentifier_eq_ok_iff id)
  | addRoute route => exact iff_of_true (congrArg (Except.map _) (readRoute_toValue route)) trivial
  | removeRoute route =>
    exact iff_of_true (congrArg (Except.map _) (readRoute_toValue route)) trivial
  | sync sets =>
    have hinjective : Function.Injective Command.sync := fun _ _ h => by cases h; rfl
    exact (map_eq_ok_iff hinjective).trans (readSync_sets sets)

theorem depth_arguments_le (c : Command) : c.arguments.depth ≤ 3 := by
  cases c with
  | flush | add | deleteAccount => exact Nat.zero_le 3
  | addRoute route | removeRoute route =>
    rw [arguments, LiveRoute.toValue_eq]
    exact Nat.le_succ_of_le (Nat.le_succ _)
  | sync sets =>
    rw [arguments, Value.depth, Nat.succ_le_succ_iff, Value.depthOfItems_le_iff, List.forall_mem_map]
    intro set _
    have hsensors : Value.depthOfItems (set.sensors.map .string) ≤ 0 :=
      Value.depthOfItems_le_iff.2 (List.forall_mem_map.2 fun _ _ => Nat.le_refl 0)
    rw [SyncSet.toValue_eq, Value.depth, Nat.succ_le_succ_iff, Value.depthOfFields_le_iff]
    simp only [List.forall_mem_cons, Value.depth, Nat.succ_le_succ_iff, hsensors, true_and]
    exact ⟨Nat.zero_le 1, List.forall_mem_nil _⟩

theorem readsBack_arguments (c : Command) : c.arguments.ReadsBack := by
  cases c with
  | flush | add | deleteAccount => trivial
  | addRoute route | removeRoute route => exact route.readsBack_toValue
  | sync sets =>
    refine Value.readsBack_array_iff.2 (List.forall_mem_map.2 fun set _ => ?_)
    exact set.readsBack_toValue

/-! ### Written values -/

theorem ofBytes_payload_text (name : CommandName) {v : Value} (hreads : v.ReadsBack)
    (hdepth : v.depth < Document.greatestDepth) :
    ofBytes (payload name v.text).toUTF8 =
      (ofArguments name v.sorted).mapError (.invalidArguments name) := by
  have hwrites := Document.writes_write v hreads
  have htext : v.text.toList = v.write [] := String.toList_ofList
  exact ofBytes_payload name (htext ▸ hwrites)
    (Document.valueWithin_ofValue v (Nat.le_pred_of_lt hdepth))

/-- A command that is written with its arguments, their fields in any order, is read as that command
exactly if it is expressible. -/
theorem ofBytes_payload_arguments (c : Command) {v : Value} (hdistinct : v.Everywhere DistinctNames)
    (harguments : v.sorted = c.arguments) :
    ofBytes (payload c.name v.text).toUTF8 = .ok c ↔ c.Expressible := by
  have hreads : v.ReadsBack :=
    (Value.readsBack_sorted_iff hdistinct).1 (harguments ▸ c.readsBack_arguments)
  have hdepth : v.depth ≤ 3 :=
    (Value.depth_sorted_le_iff hdistinct 3).1 (harguments ▸ c.depth_arguments_le)
  rw [ofBytes_payload_text c.name hreads (Nat.lt_of_le_of_lt hdepth (by decide)), harguments,
    mapError_eq_ok_iff]
  exact c.ofArguments_arguments

/-- Two sets of one target, which stands in front of the sensors. -/
theorem ofBytes_payload_repeated_target :
    let c := Command.sync [⟨"Board", ["s\n1", "s2"]⟩, ⟨"Board", []⟩]
    let v := Value.array [
      .object [("target", .string "Board"), ("sensors", .array [.string "s\n1", .string "s2"])],
      .object [("target", .string "Board"), ("sensors", .array [])]]
    v.Everywhere DistinctNames ∧ v.sorted = c.arguments ∧
      ofBytes (payload c.name v.text).toUTF8 = .ok c := by
  intro c v
  have hdistinct : v.Everywhere DistinctNames := by
    simp [v, Everywhere, Value.EverywhereInItems, Value.EverywhereInFields, DistinctNames]
  have hsorted : v.sorted = c.arguments := rfl
  have hexpressible : c.Expressible := ⟨List.cons_ne_nil _ _, by decide⟩
  exact ⟨hdistinct, hsorted, (ofBytes_payload_arguments c hdistinct hsorted).2 hexpressible⟩

/-! ### Documents given as strings -/

theorem ofArguments_string {name : CommandName} (hname : name ∈ [CommandName.addLiveDataSensor,
      .removeLiveDataSensor, .syncLiveDataSensors]) {d : Value} (hstring : ∀ s, d ≠ .string s)
    (hdistinct : d.Everywhere DistinctNames) (hreads : d.ReadsBack)
    (hdepth : d.depth ≤ Document.greatestDepth) :
    ofArguments name (.string d.text) = ofArguments name d.sorted := by
  have htext : argumentDocument (.string d.text) = some (ofValue d) := Document.ofText_text d hreads
  have hinline : argumentDocument d.sorted = some (ofValue d.sorted) := by
    cases d with
    | string s => exact absurd rfl (hstring s)
    | null | bool | number => rfl
    | array items => rw [Value.sorted_array]; rfl
    | object fields => rw [Value.sorted_object]; rfl
  have hroute : readRoute (.string d.text) = readRoute d.sorted := by
    rw [readRoute, readRoute, htext, hinline, Option.bind_some, Option.bind_some,
      LiveRoute.unordered_ofDocument d hdistinct]
  have hsync : readSync (.string d.text) = readSync d.sorted := by
    have hvalue : (ofValue d).value? = some d.sorted := Document.valueWithin_ofValue d hdepth
    have hsorted : (ofValue d.sorted).value? = some d.sorted.sorted :=
      Document.valueWithin_ofValue _ ((Value.depth_sorted_le_iff hdistinct _).2 hdepth)
    simp only [readSync, htext, hinline, Option.bind_some, hvalue, hsorted, Option.isNone_some,
      SyncSet.unordered_listOfDocument d hdistinct]
  simp only [List.mem_cons, List.not_mem_nil, or_false] at hname
  rcases hname with rfl | rfl | rfl
  · exact congrArg (Except.map Command.addRoute) hroute
  · exact congrArg (Except.map Command.removeRoute) hroute
  · exact congrArg (Except.map Command.sync) hsync

/-- A document in the place of the arguments, and a string there that holds its text, make the same
command, or both are refused for their arguments. -/
theorem ofBytes_payload_string {name : CommandName} (hname : name ∈ [CommandName.addLiveDataSensor,
      .removeLiveDataSensor, .syncLiveDataSensors]) {d : Value} (hstring : ∀ s, d ≠ .string s)
    (hdistinct : d.Everywhere DistinctNames) (hwhole : d.Everywhere WholeNumber)
    (hdepth : d.depth < Document.greatestDepth) :
    (∃ c, ofBytes (payload name d.text).toUTF8 = .ok c ∧
        ofBytes (payload name (Value.string d.text).text).toUTF8 = .ok c) ∨
      ∃ e e', ofBytes (payload name d.text).toUTF8 = .error (.invalidArguments name e) ∧
        ofBytes (payload name (Value.string d.text).text).toUTF8 =
          .error (.invalidArguments name e') := by
  have hreads := Value.readsBack_of_whole hwhole
  have hencoded := ofBytes_payload_text name (v := .string d.text) trivial (Nat.zero_lt_succ _)
  have hsame := ofArguments_string hname hstring hdistinct hreads (Nat.le_of_lt hdepth)
  rw [ofBytes_payload_text name hreads hdepth, hencoded, Value.sorted, hsame]
  cases ofArguments name d.sorted with
  | ok c => exact .inl ⟨c, rfl, rfl⟩
  | error e => exact .inr ⟨e, e, rfl, rfl⟩

/-- A route with a field in another spelling, and with a field that routes do not have. -/
theorem ofBytes_payload_string_route :
    let d := Value.object [("target", .string "Board"), ("SensorID", .string "s1"),
      ("note", .array [.number (.integer (-5)), .null])]
    let encoded := Value.string d.text
    (∀ s, d ≠ .string s) ∧ d.Everywhere DistinctNames ∧ d.Everywhere WholeNumber ∧
      d.depth < Document.greatestDepth ∧
      ((∃ c, ofBytes (payload .addLiveDataSensor d.text).toUTF8 = .ok c ∧
          ofBytes (payload .addLiveDataSensor encoded.text).toUTF8 = .ok c) ∨
        ∃ e e',
          ofBytes (payload .addLiveDataSensor d.text).toUTF8 =
            .error (.invalidArguments .addLiveDataSensor e) ∧
          ofBytes (payload .addLiveDataSensor encoded.text).toUTF8 =
            .error (.invalidArguments .addLiveDataSensor e')) := by
  intro d encoded
  have hstring : ∀ s, d ≠ .string s := nofun
  have hdistinct : d.Everywhere DistinctNames := by
    simp [d, Everywhere, Value.EverywhereInItems, Value.EverywhereInFields, DistinctNames]
  have hwhole : d.Everywhere WholeNumber := by
    simp [d, Everywhere, Value.EverywhereInItems, Value.EverywhereInFields, WholeNumber,
      Json.Number.Whole, Json.Number.leastInteger, Json.Number.greatestInteger]
  have hdepth : d.depth < Document.greatestDepth := by decide
  exact ⟨hstring, hdistinct, hwhole, hdepth,
    ofBytes_payload_string (by decide) hstring hdistinct hwhole hdepth⟩

end Command

end SensorRouter
