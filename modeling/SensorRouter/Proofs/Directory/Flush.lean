import SensorRouter.Proofs.Command.Payload
import SensorRouter.Proofs.Installation.Withdrawal

/-!
Flushes as they are written. The payload of a flush forgets the entity of its identifier, less the
blanks around it, and nothing else; messages of a flushed sensor are refused as coming from an unknown
one. An entity whose id has such blanks stays out of reach of every flush.
-/

namespace SensorRouter

open Json.Token (Spells SpellsChar)

namespace Directory

theorem authorize_of_unknown {d : Directory} {sensorId : String}
    (h : d.lookup .sensor sensorId = none) (now : Nat) (presented : Option String) :
    d.authorize now sensorId presented = (.error (.unknownSensor sensorId), d) := by
  rw [authorize, findSensor_eq, h]

end Directory

/-- A valid message of an unknown sensor is refused as such. -/
theorem Router.route_of_unknown {r : Router} {m : Message}
    (hunknown : r.state.directory.lookup .sensor m.sensorId = none)
    (hvalid : m.validate r.settings.maxDataPoints = .ok ()) (now : Nat) (present : Instant) :
    (r.route now present m).1 = .error (.unauthorized (.unknownSensor m.sensorId)) := by
  have hauthorize := Directory.authorize_of_unknown hunknown now m.apiKey
  obtain ⟨directory, -, hroute⟩ := RoutingStage.route_of_unauthorized hvalid hauthorize
  exact congrArg Prod.fst hroute

namespace ManagedDirectory

/-- A payload that forgets an entity is applied, whatever the repository answers. -/
theorem handle_of_forgets (m : ManagedDirectory) (now : Nat) (p : Repository) {payload : ByteArray}
    {c : Command} (hc : Command.ofBytes payload = .ok c) {kind : EntityKind} {id : String}
    (hforgets : c.Forgets kind id) :
    (m.handle now p payload).1.directory = (m.directory.remove kind id).2 ∧
      (m.handle now p payload).2 = .ok () := by
  have happly := m.directory.apply_of_forgets now p hforgets
  have hresult : (Command.ofBytes payload).mapError UpdateError.command >>=
      m.directory.apply now p = .ok (m.directory.remove kind id).2 := by
    rw [hc, ← happly]
    rfl
  rw [handle, hresult]
  exact ⟨rfl, rfl⟩

/-- A written flush or deletion succeeds and forgets the entity of its identifier without the blanks
around it, and no other. So the entity of the identifier itself is gone, unless it was known under an
id that begins or ends with a blank; and of a flushed sensor every valid message is refused. -/
theorem handle_forgets_trimmed (m : ManagedDirectory) (now : Nat) (p : Repository)
    {name : CommandName} {kind : EntityKind} (hname : name.forgets? = some kind) {i : String}
    (hi : ∃ c ∈ i.toList, Text.isBlank c = false) {spelled : List Char}
    (hspelled : Spells i.toList spelled) :
    ∃ m', m.handle now p
        (Command.payload name ("\"" ++ String.ofList spelled ++ "\"")).toUTF8 = (m', .ok ()) ∧
      (∀ kind' id, m'.directory.lookup kind' id =
        if kind' = kind ∧ id = Text.trim i then none else m.directory.lookup kind' id) ∧
      (m'.directory.lookup kind i = none ↔ Text.Bare i ∨ m.directory.lookup kind i = none) ∧
      ∀ (r : Router) (message : Message) (later : Nat) (present : Instant), kind = .sensor →
        r.state.directory = m'.directory → message.sensorId = Text.trim i →
        message.validate r.settings.maxDataPoints = .ok () →
        (r.route later present message).1 =
          .error (.unauthorized (.unknownSensor message.sensorId)) := by
  obtain ⟨c, hc, hforgets⟩ := Command.ofArguments_forgets hname (Text.trim_ne_empty hi)
  have hread : Command.ofBytes
      (Command.payload name ("\"" ++ String.ofList spelled ++ "\"")).toUTF8 = .ok c := by
    rw [Command.ofBytes_identifier name hspelled, hc]
    rfl
  obtain ⟨hdirectory, hok⟩ := m.handle_of_forgets now p hread hforgets
  refine ⟨_, Prod.ext rfl hok, ?_⟩
  rw [hdirectory]
  have hlookup : ∀ kind' id, (m.directory.remove kind (Text.trim i)).2.lookup kind' id =
      if kind' = kind ∧ id = Text.trim i then none else m.directory.lookup kind' id :=
    fun kind' id => m.directory.lookup_remove kind kind' (Text.trim i) id
  refine ⟨hlookup, ?gone, ?refused⟩
  case gone =>
    rw [hlookup, ← Text.trim_eq_self_iff]
    by_cases hbare : Text.trim i = i
    · simp [hbare]
    · simp [hbare, Ne.symm hbare]
  case refused =>
    intro r message later present hkind hstate hid hvalid
    subst hkind
    refine Router.route_of_unknown ?_ hvalid later present
    rw [hstate, hlookup, if_pos ⟨rfl, hid⟩]

/-- A sensor with a quote in its id is flushed by a payload that escapes it, and writes a blank in front
of it by its number. -/
theorem handle_forgets_trimmed_escaped :
    let s : Sensor := { id := "s\"1", accountId := "a1" }
    let p := (Registry.empty.putSensor s).toRepository
    let m := (reload ⟨.empty {}, {}⟩ 0 p).1
    let text := "\x7b\"cmd\":\"FlushSensor\",\"arguments\":\"\\u0020s\\\"1\"\x7d"
    let message : Message :=
      { sensorId := s.id, stamp := default, content := .control "on" .device }
    m.directory.lookup .sensor s.id = some s ∧
      ∃ m', m.handle 0 p text.toUTF8 = (m', .ok ()) ∧ m'.directory.lookup .sensor s.id = none ∧
        ∀ queues,
          let r : Router := { settings := {}, limits := default, state := ⟨m'.directory, queues⟩ }
          (r.route 0 default message).1 = .error (.unauthorized (.unknownSensor s.id)) := by
  intro s p m text message
  have hblank : SpellsChar ' ' "\\u0020".toList := .unit rfl
  have hquote : SpellsChar '"' "\\\"".toList := .simple (by decide) rfl
  have hs : SpellsChar 's' ['s'] := .plain (by decide) (by decide) (by decide)
  have hone : SpellsChar '1' ['1'] := .plain (by decide) (by decide) (by decide)
  have hspells : Spells " s\"1".toList "\\u0020s\\\"1".toList :=
    .cons hblank (.cons hs (.cons hquote (.cons hone .nil)))
  have hname : CommandName.forgets? .flushSensor = some .sensor := rfl
  have htrim : Text.trim " s\"1" = s.id := by decide
  obtain ⟨m', hhandle, hlookup, -, hrefused⟩ :=
    m.handle_forgets_trimmed 0 p hname ⟨'s', by decide, by decide⟩ hspells
  refine ⟨rfl, m', hhandle, ?_, fun queues => ?_⟩
  · rw [hlookup, if_pos ⟨rfl, htrim.symm⟩]
  · exact hrefused _ message 0 default rfl rfl htrim.symm rfl

/-- No written flush or deletion reaches an entity whose id begins or ends with a blank. -/
theorem handle_keeps_of_not_bare (m : ManagedDirectory) (now : Nat) (p : Repository)
    {payload : ByteArray} {c : Command} (hc : Command.ofBytes payload = .ok c)
    {kind kind' : EntityKind} {id id' : String} (hforgets : c.Forgets kind id)
    (hbare : ¬ Text.Bare id') :
    (m.handle now p payload).1.directory.lookup kind' id' = m.directory.lookup kind' id' := by
  have hother : ¬ (kind' = kind ∧ id' = id) := by
    rintro ⟨-, rfl⟩
    exact hbare (Command.bare_of_forgets hc hforgets)
  rw [(m.handle_of_forgets now p hc hforgets).1, Directory.lookup_remove, if_neg hother]

/-- The sensor with the id `" s1"` is found after a flush of that id. -/
theorem handle_forgets_not_padded :
    ¬ ∀ (m : ManagedDirectory) (now : Nat) (p : Repository) (i : String) (spelled : List Char),
      (∃ c ∈ i.toList, Text.isBlank c = false) → Spells i.toList spelled →
        (m.handle now p (Command.payload .flushSensor
          ("\"" ++ String.ofList spelled ++ "\"")).toUTF8).1.directory.lookup .sensor i = none := by
  intro h
  let s : Sensor := { id := " s1", accountId := "a1" }
  let p := (Registry.empty.putSensor s).toRepository
  let m := (reload ⟨.empty {}, {}⟩ 0 p).1
  have hname : CommandName.forgets? .flushSensor = some .sensor := rfl
  have hvisible : ∃ c ∈ s.id.toList, Text.isBlank c = false := ⟨'s', by decide, by decide⟩
  have hspells := Json.Token.spells_escape s.id.toList
  have hgone := h m 0 p s.id _ hvisible hspells
  obtain ⟨c, hc, hforgets⟩ := Command.ofArguments_forgets hname (Text.trim_ne_empty hvisible)
  have hread := Command.ofBytes_identifier .flushSensor hspells
  rw [hc] at hread
  have hpadded : ¬ Text.Bare s.id := by
    intro hbare
    exact nomatch hbare.1 ' ' (by decide)
  rw [m.handle_keeps_of_not_bare 0 p hread hforgets hpadded] at hgone
  exact nomatch hgone

end ManagedDirectory

end SensorRouter
