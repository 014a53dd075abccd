import SensorRouter.Proofs.Json.Decoding
import SensorRouter.Proofs.Json.Doubles
import SensorRouter.Proofs.Message.Intake

/-!
Messages as they are written and read back. A message is written with its fields in declared order,
those that are absent left out and the API key always. In whatever order the fields stand, what is read
is the message without its key.
-/

namespace SensorRouter

open Json (Value Document Record Decodes)
open Json.Document (ofValue)
open Json.Value (DistinctNames Everywhere)

/-! ### Parts of messages -/

/-- What is written of the instant is read as the instant again. -/
def Instant.Faithful (t : Instant) : Prop :=
  ofText t.text = some t

instance : DecidablePred Instant.Faithful :=
  fun t => inferInstanceAs (Decidable (Instant.ofText t.text = some t))

theorem Instant.Faithful.decodes {t : Instant} (h : t.Faithful) :
    Decodes ofDocument t.toValue t := by
  apply Json.decodes_string
  rw [ofDocument, Document.string?, Option.bind_some]
  exact h

theorem Destination.decodes (d : Destination) : Decodes ofDocument (.string d.name) d := by
  apply Json.decodes_string
  cases d <;> rfl

namespace Location

def doubles (l : Location) : List Double :=
  [l.latitude, l.longitude]

theorem names_fields (l : Location) : (l.fields.map Prod.fst).Nodup := by
  change ["latitude", "longitude"].Nodup
  decide

theorem decodes (l : Location) : Decodes ofDocument l.toValue l := by
  apply Record.decodes_ofPresent (by simp) l.names_fields
  intro r hgives
  have hlatitude : r.Gives "latitude" (some (.double l.latitude)) :=
    hgives ⟨_, []⟩ (by simp)
  have hlongitude : r.Gives "longitude" (some (.double l.longitude)) :=
    hgives ⟨_, []⟩ (by simp)
  rw [hlatitude.required (Json.decodes_double _), hlongitude.required (Json.decodes_double _)]
  rfl

theorem depth_toValue_le (l : Location) : l.toValue.depth ≤ 1 := by
  apply Value.depth_ofPresent_le
  simp [fields, Value.double, Value.depth]

theorem readsBack_toValue {l : Location}
    (h : ∀ x ∈ l.doubles, (Json.Number.double x).ReadsBack) : l.toValue.ReadsBack := by
  apply Value.readsBack_ofPresent
  simpa [fields, doubles, Value.double, Value.ReadsBack] using h

theorem everywhere_toValue (l : Location) : l.toValue.Everywhere DistinctNames := by
  apply Value.everywhere_ofPresent l.names_fields
  simp [fields, Value.double, Everywhere, DistinctNames]

end Location

namespace DataPoint

def doubles (p : DataPoint) : List Double :=
  p.value :: (p.precision.toList ++ p.accuracy.toList)

theorem names_fields (p : DataPoint) : (p.fields.map Prod.fst).Nodup := by
  change ["value", "unit", "precision", "accuracy"].Nodup
  decide

theorem decodes (p : DataPoint) : Decodes ofDocument p.toValue p := by
  apply Record.decodes_ofPresent (by simp) p.names_fields
  intro r hgives
  have hvalue : r.Gives "value" (some (.double p.value)) := hgives ⟨_, []⟩ (by simp)
  have hunit : r.Gives "unit" (p.unit.map .string) := hgives ⟨_, []⟩ (by simp)
  have hprecision : r.Gives "precision" (p.precision.map .double) := hgives ⟨_, []⟩ (by simp)
  have haccuracy : r.Gives "accuracy" (p.accuracy.map .double) := hgives ⟨_, []⟩ (by simp)
  rw [hvalue.required (Json.decodes_double _),
    hunit.withDefault_optional (fun s _ => Json.decodes_text s) (fun _ h => nomatch h),
    hprecision.withDefault_optional (fun x _ => Json.decodes_double x) (fun _ h => nomatch h),
    haccuracy.withDefault_optional (fun x _ => Json.decodes_double x) (fun _ h => nomatch h)]
  rfl

theorem depth_toValue_le (p : DataPoint) : p.toValue.depth ≤ 1 := by
  apply Value.depth_ofPresent_le
  simp [fields, Value.double, Value.depth]

theorem readsBack_toValue {p : DataPoint}
    (h : ∀ x ∈ p.doubles, (Json.Number.double x).ReadsBack) : p.toValue.ReadsBack := by
  apply Value.readsBack_ofPresent
  simpa [fields, doubles, Value.double, Value.ReadsBack, or_imp, forall_and] using h

theorem everywhere_toValue (p : DataPoint) : p.toValue.Everywhere DistinctNames := by
  apply Value.everywhere_ofPresent p.names_fields
  simp [fields, Value.double, Everywhere, DistinctNames]

end DataPoint

theorem everywhere_points (data : Dict DataPoint) :
    (Value.ofDict (data.map DataPoint.toValue)).Everywhere DistinctNames := by
  apply Value.everywhere_object_iff.2
  refine ⟨(data.map DataPoint.toValue).nodup_keys, ?_⟩
  intro f hf
  obtain ⟨e, -, rfl⟩ := List.mem_map.1 hf
  exact e.2.everywhere_toValue

/-! ### Messages -/

namespace Message

/-- When a measurement or text was made, where the sensor says so. -/
def timestamp (m : Message) : Option Instant :=
  match m.content with
  | .measurement timestamp _ _ => timestamp
  | .text timestamp _ _ => timestamp
  | .control .. => none

def points (m : Message) : List DataPoint :=
  match m.content with
  | .measurement _ data _ => data.values
  | .text .. | .control .. => []

/-- The floating point numbers in a message. -/
def doubles (m : Message) : List Double :=
  m.points.flatMap DataPoint.doubles ++ m.location.toList.flatMap Location.doubles

/-- The instants in a message. -/
def instants (m : Message) : List Instant :=
  m.stamp :: m.timestamp.toList

theorem names_fields (m : Message) : (m.fields.map Prod.fst).Nodup := by
  obtain ⟨_, _, content, _⟩ := m
  cases content with
  | control data destination =>
    change ["type", "sensor_id", "platform_timestamp", "data", "destination"].Nodup
    decide
  | _ =>
    change ["type", "sensor_id", "platform_timestamp", "timestamp", "data", "location"].Nodup
    decide

theorem lookup_apiKey (m : Message) : (m.fields.lookup "api_key").join = none := by
  obtain ⟨_, _, content, _⟩ := m
  cases content <;> rfl

theorem aliases_fieldNames (kind : MessageKind) : ∀ d ∈ fieldNames kind, d.aliases = [] := by
  cases kind <;> simp [fieldNames]

theorem name_ne_type (kind : MessageKind) : ∀ d ∈ fieldNames kind, d.name ≠ "type" := by
  cases kind <;> simp [fieldNames]

/-- The record gives the declared fields as the message writes them. -/
def Gives (r : Record) (m : Message) : Prop :=
  ∀ d ∈ fieldNames m.kind, r.Gives d.name (m.fields.lookup d.name).join

variable {m : Message} {r : Record}

/-- A measurement and a text are read with their own timestamp and location. -/
theorem withDefault_of_gives (hinstants : ∀ t ∈ m.instants, t.Faithful)
    (hgives : Gives r m) (hkind : m.kind ≠ .control) :
    r.withDefault "timestamp" none (Document.optional Instant.ofDocument) = some m.timestamp ∧
      r.withDefault "location" none (Document.optional Location.ofDocument) = some m.location := by
  have htimestamp : r.Gives "timestamp" (m.timestamp.map Instant.toValue) := by
    obtain ⟨_, _, content, _⟩ := m
    cases content with
    | control => exact absurd rfl hkind
    | _ => exact hgives ⟨_, []⟩ (by simp [kind, fieldNames])
  have hlocation : r.Gives "location" (m.location.map Location.toValue) := by
    obtain ⟨_, _, content, _⟩ := m
    cases content with
    | control => exact absurd rfl hkind
    | _ => exact hgives ⟨_, []⟩ (by simp [kind, fieldNames])
  constructor
  · apply htimestamp.withDefault_optional
    · intro t ht
      exact (hinstants t (List.mem_cons_of_mem _ (Option.mem_toList.2 ht))).decodes
    · exact fun _ h => nomatch h
  · apply hlocation.withDefault_optional
    · exact fun l _ => l.decodes
    · exact fun _ h => nomatch h

theorem readContent_eq (hinstants : ∀ t ∈ m.instants, t.Faithful)
    (hgives : Gives r m) : readContent m.kind r = some m.content := by
  have hcommon := withDefault_of_gives hinstants hgives
  obtain ⟨sensorId, stamp, content, apiKey⟩ := m
  cases content with
  | measurement timestamp data location =>
    obtain ⟨htimestamp, hlocation⟩ := hcommon nofun
    have hdata : r.Gives "data" (some (.ofDict (data.map DataPoint.toValue))) :=
      hgives ⟨_, []⟩ (by simp [kind, fieldNames])
    simp only [readContent, kind]
    rw [htimestamp, hlocation, hdata.withDefault (Json.decodes_dict data fun _ p _ => p.decodes)]
    rfl
  | text timestamp data location =>
    obtain ⟨htimestamp, hlocation⟩ := hcommon nofun
    have hdata : r.Gives "data" (some (.string data)) :=
      hgives ⟨_, []⟩ (by simp [kind, fieldNames])
    simp only [readContent, kind]
    rw [htimestamp, hlocation, hdata.required (Json.decodes_text data)]
    rfl
  | control data destination =>
    have hdata : r.Gives "data" (some (.string data)) :=
      hgives ⟨_, []⟩ (by simp [kind, fieldNames])
    have hdestination : r.Gives "destination" (some (.string destination.name)) :=
      hgives ⟨_, []⟩ (by simp [kind, fieldNames])
    simp only [readContent, kind]
    rw [hdata.required (Json.decodes_text data), hdestination.withDefault destination.decodes]
    rfl

/-- A record that gives the fields of a message is read as the message, without its key. -/
theorem ofFields_eq {now : Instant} {d : Document}
    (hinstants : ∀ t ∈ m.instants, t.Faithful)
    (hread : Record.read (fieldNames m.kind) d = some r) (hgives : Gives r m) :
    ofFields now m.kind d = some { m with apiKey := none } := by
  have hcontent := readContent_eq hinstants hgives
  have hstamp := (hinstants m.stamp List.mem_cons_self).decodes
  have hid : r.Gives "sensor_id" (some (.string m.sensorId)) := by
    apply hgives ⟨_, []⟩
    cases m.kind <;> simp [fieldNames]
  have hwhen : r.Gives "platform_timestamp" (some m.stamp.toValue) := by
    apply hgives ⟨_, []⟩
    cases m.kind <;> simp [fieldNames]
  have hkey : r.Gives "api_key" none := by
    rw [← lookup_apiKey m]
    apply hgives ⟨_, []⟩
    cases m.kind <;> simp [fieldNames]
  simp only [ofFields, hread, Option.bind_eq_bind, Option.bind_some, hcontent,
    hid.required (Json.decodes_text _), hwhen.withDefault hstamp now, hkey.withDefault_none]
  rfl

/-- An object is split into its type and its other fields. -/
theorem splitType_object {fields : List (String × Value)} (hdistinct : (fields.map Prod.fst).Nodup)
    {kind : MessageKind} (h : fields.lookup "type" = some (.string kind.name)) :
    splitType .byName (ofValue (.object fields)) =
      some (kind, ofValue (.object (fields.filter fun f => f.1 ≠ "type"))) := by
  have htype : (Document.ofFields fields).filter (fun f => f.1 = some "type") =
      [(some "type", .string (some kind.name))] := by
    rw [Document.ofFields_eq_map, List.filter_map]
    have hfilter := Json.filter_eq_of_lookup hdistinct h
    simp only [Function.comp_def, Option.some.injEq, hfilter]
    rfl
  have hrest : (Document.ofFields fields).filter (fun f => f.1 ≠ some "type") =
      Document.ofFields (fields.filter fun f => f.1 ≠ "type") := by
    rw [Document.ofFields_eq_map, Document.ofFields_eq_map, List.filter_map]
    simp only [Function.comp_def, ne_eq, Option.some.injEq]
  have hkind : readKind .byName (.string (some kind.name)) = some kind := by
    cases kind <;> rfl
  rw [ofValue, splitType, htype, hrest]
  simp only [hkind]
  rfl

theorem depth_toValue_le (m : Message) : m.toValue.depth ≤ 3 := by
  have hlocation (l : Location) : l.toValue.depth ≤ 2 := Nat.le_succ_of_le l.depth_toValue_le
  have hdata (data : Dict DataPoint) : (Value.ofDict (data.map DataPoint.toValue)).depth ≤ 2 := by
    apply Nat.succ_le_succ
    rw [Value.depthOfFields_le_iff]
    intro f hf
    obtain ⟨e, -, rfl⟩ := List.mem_map.1 hf
    exact e.2.depth_toValue_le
  apply Value.depth_ofPresent_le
  obtain ⟨_, _, content, _⟩ := m
  cases content <;> simp [fields, Instant.toValue, Value.depth, hlocation, hdata]

theorem readsBack_toValue (h : ∀ x ∈ m.doubles, (Json.Number.double x).ReadsBack) :
    m.toValue.ReadsBack := by
  have hlocation : ∀ l ∈ m.location, l.toValue.ReadsBack := by
    intro l hl
    apply Location.readsBack_toValue
    intro x hx
    apply h x
    simp only [doubles, List.mem_append, List.mem_flatMap, Option.mem_toList]
    exact .inr ⟨l, hl, hx⟩
  have hpoints : ∀ p ∈ m.points, p.toValue.ReadsBack := by
    intro p hp
    apply DataPoint.readsBack_toValue
    intro x hx
    apply h x
    simp only [doubles, List.mem_append, List.mem_flatMap]
    exact .inl ⟨p, hp, hx⟩
  apply Value.readsBack_ofPresent
  obtain ⟨_, _, content, _⟩ := m
  cases content with
  | measurement timestamp data location =>
    have hdata : (Value.ofDict (data.map DataPoint.toValue)).ReadsBack := by
      apply Value.readsBack_object_iff.2
      intro f hf
      obtain ⟨e, he, rfl⟩ := List.mem_map.1 hf
      exact hpoints e.2 (List.mem_map_of_mem he)
    have hown : ∀ l ∈ location, l.toValue.ReadsBack := hlocation
    simpa [fields, Instant.toValue, Value.ReadsBack, hdata] using hown
  | text timestamp data location =>
    have hown : ∀ l ∈ location, l.toValue.ReadsBack := hlocation
    simpa [fields, Instant.toValue, Value.ReadsBack] using hown
  | control data destination => simp [fields, Instant.toValue, Value.ReadsBack]

theorem everywhere_toValue (m : Message) : m.toValue.Everywhere DistinctNames := by
  apply Value.everywhere_ofPresent m.names_fields
  obtain ⟨_, _, content, _⟩ := m
  cases content <;>
    simp [fields, Instant.toValue, everywhere_points, Location.everywhere_toValue, Everywhere,
      DistinctNames]

/-- The value is the object of the message, with the fields of all objects in it in some order. -/
def Writing (m : Message) (v : Value) : Prop :=
  v.Everywhere DistinctNames ∧ v.sorted = m.toValue.sorted

theorem writing_toValue (m : Message) : m.Writing m.toValue :=
  ⟨m.everywhere_toValue, rfl⟩

theorem writing_sorted (m : Message) : m.Writing m.toValue.sorted :=
  ⟨Value.everywhere_sorted m.everywhere_toValue, Value.sorted_sorted m.everywhere_toValue⟩

variable {v : Value}

theorem Writing.exists_object (h : m.Writing v) : ∃ fields, v = .object fields :=
  Value.exists_object_of_sorted (h.2.trans (Value.sorted_object _))

theorem Writing.lookup_eq {fields : List (String × Value)} (h : m.Writing (.object fields))
    (name : String) :
    (fields.lookup name).map Value.sorted = (m.fields.lookup name).join.map Value.sorted := by
  have hsame := Value.get?_of_sorted_eq (Value.distinctNames_ofPresent m.names_fields)
    (Value.everywhere_object_iff.1 h.1).1 h.2 name
  rwa [Value.get?_ofPresent m.names_fields] at hsame

theorem Writing.depth_le (h : m.Writing v) : v.depth ≤ 3 := by
  rw [← Value.depth_sorted_le_iff h.1, h.2, Value.depth_sorted_le_iff m.everywhere_toValue]
  exact m.depth_toValue_le

theorem Writing.readsBack (h : m.Writing v)
    (hdoubles : ∀ x ∈ m.doubles, (Json.Number.double x).ReadsBack) : v.ReadsBack := by
  rw [← Value.readsBack_sorted_iff h.1, h.2, Value.readsBack_sorted_iff m.everywhere_toValue]
  exact readsBack_toValue hdoubles

/-- Whatever the order of the fields in it, the object of a message is read as the message without
its key. -/
theorem decodes (now : Instant) (hinstants : ∀ t ∈ m.instants, t.Faithful) :
    Decodes (ofDocument .byName now) m.toValue { m with apiKey := none } := by
  intro w hdistinct hw
  have hwriting : m.Writing w := ⟨hdistinct, hw⟩
  obtain ⟨fields, rfl⟩ := hwriting.exists_object
  obtain ⟨hnames, hfields⟩ := Value.everywhere_object_iff.1 hdistinct
  have hdepth : (Value.object fields).depth ≤ Document.greatestDepth :=
    Nat.le_trans hwriting.depth_le (by decide)
  have hvalue : (ofValue (.object fields)).value? = some (Value.object fields).sorted :=
    Document.valueWithin_ofValue _ hdepth
  have htype : fields.lookup "type" = some (.string m.kind.name) := by
    obtain ⟨v, hv, hstring⟩ := Option.map_eq_some_iff.1 (hwriting.lookup_eq "type")
    rw [hv, Value.eq_of_sorted (v := .string m.kind.name) hstring nofun nofun]
  have hrest : (Value.object (fields.filter fun f => f.1 ≠ "type")).Everywhere DistinctNames := by
    apply Value.everywhere_object_iff.2
    exact ⟨(List.filter_sublist.map _).nodup hnames, fun f hf => hfields f (List.mem_of_mem_filter hf)⟩
  obtain ⟨r, hread, hgives⟩ := Record.exists_read (aliases_fieldNames m.kind) hrest
  rw [ofDocument_eq (by rw [hvalue]; rfl), splitType_object hnames htype, Option.bind_some]
  apply ofFields_eq hinstants hread
  intro d hd
  have hkept : (fields.filter fun f => f.1 ≠ "type").lookup d.name = fields.lookup d.name :=
    (Json.lookup_filter_fst (fun name => name ≠ "type") fields d.name).trans
      (if_pos (decide_eq_true (name_ne_type m.kind d hd)))
  have hfound := hgives d hd
  rw [hkept] at hfound
  exact hfound.of_sorted_eq (hwriting.lookup_eq d.name)

/-! ### Texts -/

theorem Writing.ofText (h : m.Writing v) (hfinite : ∀ x ∈ m.doubles, x.isFinite)
    (hdoubles : ∀ x ∈ m.doubles, Json.Faithful x) : Document.ofText v.text = some (ofValue v) := by
  apply Document.ofText_text
  exact h.readsBack fun x hx => (hdoubles x hx).readsBack (hfinite x hx)

theorem Writing.ofBytes (h : m.Writing v) (now : Instant) (hfinite : ∀ x ∈ m.doubles, x.isFinite)
    (hdoubles : ∀ x ∈ m.doubles, Json.Faithful x) (hinstants : ∀ t ∈ m.instants, t.Faithful) :
    Message.ofBytes now v.text.toUTF8 = some { m with apiKey := none } := by
  have hdocument := h.ofText hfinite hdoubles
  rw [Document.ofText] at hdocument
  rw [Message.ofBytes, Document.ofBytes, Text.symbolsOfBytes_toUTF8, hdocument, Option.bind_some]
  exact decodes now hinstants v h.1 h.2

/-- The document of a text has no field for the API key. -/
def Keyless (s : String) : Prop :=
  ∃ fields, Document.ofText s = some (.object fields) ∧ some "api_key" ∉ fields.map Prod.fst

theorem Writing.keyless (h : m.Writing v) (hfinite : ∀ x ∈ m.doubles, x.isFinite)
    (hdoubles : ∀ x ∈ m.doubles, Json.Faithful x) : Keyless v.text := by
  obtain ⟨fields, rfl⟩ := h.exists_object
  refine ⟨_, h.ofText hfinite hdoubles, ?_⟩
  intro hkey
  rw [Document.ofFields_eq_map, List.map_map] at hkey
  obtain ⟨f, hf, hname⟩ := List.mem_map.1 hkey
  have hsorted := h.lookup_eq "api_key"
  rw [lookup_apiKey] at hsorted
  have hnone : fields.lookup "api_key" = none := Option.map_eq_none_iff.1 hsorted
  have hne : "api_key" ≠ f.1 := by simpa using List.lookup_eq_none_iff.1 hnone f hf
  exact hne (Option.some.inj hname).symm

end Message

/-- A message whose numbers are finite, and whose numbers and instants are read as they are written, is
read as it is written but for its API key, which no text of it has. Its fields may be written in declared
order, in that of their names or in any other. -/
theorem Message.wire_round_trip (now : Instant) (m : Message)
    (hfinite : ∀ x ∈ m.doubles, x.isFinite) (hdoubles : ∀ x ∈ m.doubles, Json.Faithful x)
    (hinstants : ∀ t ∈ m.instants, t.Faithful) :
    let kept := { m with apiKey := none }
    (ofBytes now m.toValue.text.toUTF8 = some kept ∧ Keyless m.toValue.text ∧
        kept.toValue.text = m.toValue.text) ∧
      (ofBytes now m.toValue.sorted.text.toUTF8 = some kept ∧ Keyless m.toValue.sorted.text ∧
        kept.toValue.sorted.text = m.toValue.sorted.text) ∧
      ∀ v, m.Writing v → ofBytes now v.text.toUTF8 = some kept ∧ Keyless v.text ∧ kept.Writing v := by
  intro kept
  have hany v (h : m.Writing v) : ofBytes now v.text.toUTF8 = some kept ∧ Keyless v.text :=
    ⟨h.ofBytes now hfinite hdoubles hinstants, h.keyless hfinite hdoubles⟩
  obtain ⟨hread, hkeyless⟩ := hany m.toValue m.writing_toValue
  obtain ⟨hread', hkeyless'⟩ := hany m.toValue.sorted m.writing_sorted
  refine ⟨⟨hread, hkeyless, rfl⟩, ⟨hread', hkeyless', rfl⟩, ?_⟩
  intro v h
  obtain ⟨hread, hkeyless⟩ := hany v h
  exact ⟨hread, hkeyless, h⟩

/-- Two data points, one of them with all that is optional, and a key. -/
theorem Message.wire_round_trip_measurement :
    let temperature : DataPoint := {
      value := Double.ofDecimal true 215 (-1)
      unit := some "°C"
      precision := some (Double.ofDecimal false 1 (-1))
      accuracy := some (Double.ofNat 2) }
    let kept : Message := {
      sensorId := "s\"1"
      stamp := ⟨1700000000, 5000000⟩
      content := .measurement none
        (Dict.ofList [("temperature", temperature), ("humidity", { value := Double.ofNat 52 })])
        (some ⟨Double.ofDecimal false 505 (-1), Double.zero true⟩) }
    let m : Message := { kept with apiKey := some "k" }
    (∀ x ∈ m.doubles, x.isFinite) ∧ (∀ x ∈ m.doubles, Json.Faithful x) ∧
      (∀ t ∈ m.instants, t.Faithful) ∧ ofBytes default m.toValue.text.toUTF8 = some kept ∧
      Keyless m.toValue.text ∧ kept.toValue.text = m.toValue.text := by
  intro temperature kept m
  have hfinite : ∀ x ∈ m.doubles, x.isFinite := by decide +kernel
  have hdoubles : ∀ x ∈ m.doubles, Json.Faithful x := by decide +kernel
  have hinstants : ∀ t ∈ m.instants, t.Faithful := by decide +kernel
  obtain ⟨hwritten, -, -⟩ := wire_round_trip default m hfinite hdoubles hinstants
  exact ⟨hfinite, hdoubles, hinstants, hwritten⟩

end SensorRouter
