import Mathlib
import SensorRouter.Router

/-!
Which stages of a pipeline run for a message, and which of them decides about it. The first stage that
does not let the message proceed settles it: the stages up to this one run, and of the later ones those
that keep books. The decision is the first rejection among the outcomes. So it is that of the stage that
settles the message, unless this one has handled it and a stage that keeps books rejects it afterwards.
-/

namespace SensorRouter

variable {σ : Type}

namespace Outcome

/-- Whether the outcome settles the message. -/
def settles : Outcome → Bool
  | proceed => false
  | handled | rejected _ => true

def rejection? : Outcome → Option Rejection
  | rejected reason => some reason
  | proceed | handled => none

end Outcome

/-- A stage that has run, by its position, and its outcome. -/
structure StageRun where
  position : Nat
  outcome : Outcome
  deriving DecidableEq

/-- The stage, which now also logs that it runs. -/
def Stage.logged (stage : Stage σ) (position : Nat) : Stage (σ × List StageRun) where
  name := stage.name
  isBookkeeping := stage.isBookkeeping
  run t s :=
    let (outcome, findings, s') := stage.run t s.1
    (outcome, findings, s', s.2 ++ [⟨position, outcome⟩])

namespace Pipeline

/-- The stages, each logging its runs under its position. Positions count from `i`. -/
def logged (i : Nat) : List (Stage σ) → List (Stage (σ × List StageRun))
  | [] => []
  | stage :: rest => stage.logged i :: logged (i + 1) rest

/-- The stages that run for a message, in the order in which they run. -/
def runs (stages : List (Stage σ)) (m : Message) (s : σ) : List StageRun :=
  (route (logged 0 stages) m (s, [])).2.2

/-- The run that settles the message: the first of a stage that does not let it proceed. -/
def settling? (ran : List StageRun) : Option StageRun :=
  ran.find? (·.outcome.settles)

/-- The first rejection among the outcomes. -/
def rejection? (ran : List StageRun) : Option Rejection :=
  ran.findSome? (·.outcome.rejection?)

/-- The positions of the stages that keep books, counted from `i`. -/
def bookkeeping (i : Nat) : List (Stage σ) → List Nat
  | [] => []
  | stage :: rest =>
    if stage.isBookkeeping then i :: bookkeeping (i + 1) rest else bookkeeping (i + 1) rest

/-- The positions of the stages that are to run: all of them if none settles the message, else those
up to the one that does and the later ones that keep books. -/
def due (stages : List (Stage σ)) : Option StageRun → List Nat
  | none => List.range stages.length
  | some run =>
    List.range (run.position + 1) ++
      bookkeeping (run.position + 1) (stages.drop (run.position + 1))

/-! ### The log -/

/-- What `pass` logs: the runs of the stages from position `i` on. -/
def trace (i : Nat) : List (Stage σ) → Bool → Transit → σ → List StageRun
  | [], _, _, _ => []
  | stage :: rest, settled, t, s =>
    if settled && !stage.isBookkeeping then trace (i + 1) rest settled t s
    else
      let (outcome, findings, s) := stage.run t s
      let t := { t with toFindings := findings }
      ⟨i, outcome⟩ ::
        match outcome with
        | .proceed => trace (i + 1) rest settled t s
        | .handled => trace (i + 1) rest true t s
        | .rejected reason =>
          trace (i + 1) rest true { t with rejection := t.rejection <|> some reason } s

/-- Logging changes nothing but the log. -/
theorem pass_logged (i : Nat) (stages : List (Stage σ)) (settled : Bool) (t : Transit) (s : σ)
    (log : List StageRun) :
    pass (logged i stages) settled t (s, log) =
      ((pass stages settled t s).1, (pass stages settled t s).2,
        log ++ trace i stages settled t s) := by
  induction stages generalizing i settled t s log with
  | nil => rw [trace, List.append_nil]; rfl
  | cons stage rest ih =>
    rw [logged, pass, pass, trace]
    change (if settled && !stage.isBookkeeping then _ else _) = _
    split
    · exact ih _ _ _ _ _
    · rcases hrun : stage.run t s with ⟨outcome, findings, s'⟩
      have hlogged : (stage.logged i).run t (s, log) =
          (outcome, findings, s', log ++ [⟨i, outcome⟩]) := by
        simp only [Stage.logged, hrun]
      rw [hlogged]
      cases outcome <;> simp only [ih, List.append_assoc, List.singleton_append]

theorem route_logged (stages : List (Stage σ)) (m : Message) (s : σ) :
    route (logged 0 stages) m (s, []) =
      ((route stages m s).1, (route stages m s).2, trace 0 stages false { message := m } s) := by
  simp only [route, pass_logged]
  rfl

theorem runs_eq_trace (stages : List (Stage σ)) (m : Message) (s : σ) :
    runs stages m s = trace 0 stages false { message := m } s :=
  congrArg (·.2.2) (route_logged stages m s)

/-- For a settled message the stages run that keep books. -/
theorem positions_trace_settled (i : Nat) (stages : List (Stage σ)) (t : Transit) (s : σ) :
    (trace i stages true t s).map StageRun.position = bookkeeping i stages := by
  induction stages generalizing i t s with
  | nil => rfl
  | cons stage rest ih =>
    rw [trace, bookkeeping]
    cases stage.isBookkeeping with
    | false => exact ih _ _ _
    | true =>
      rcases stage.run t s with ⟨outcome, findings, s'⟩
      cases outcome <;> exact congrArg (List.cons i) (ih _ _ _)

/-- For a message not settled yet the stages run up to the one that settles it, if there is one, and
then those that keep books. -/
theorem positions_trace (i : Nat) (stages : List (Stage σ)) (t : Transit) (s : σ) :
    (settling? (trace i stages false t s) = none ∧
      (trace i stages false t s).map StageRun.position = List.range' i stages.length) ∨
    ∃ k outcome, settling? (trace i stages false t s) = some ⟨i + k, outcome⟩ ∧
      (trace i stages false t s).map StageRun.position =
        List.range' i (k + 1) ++ bookkeeping (i + k + 1) (stages.drop (k + 1)) := by
  induction stages generalizing i t s with
  | nil => exact .inl ⟨rfl, rfl⟩
  | cons stage rest ih =>
    rw [trace, Bool.false_and, if_neg Bool.false_ne_true]
    rcases stage.run t s with ⟨outcome, findings, s'⟩
    cases outcome with
    | proceed =>
      simp only
      rcases ih (i + 1) { t with toFindings := findings } s' with
        ⟨hnone, hall⟩ | ⟨k, outcome, hsettles, hran⟩
      · refine .inl ⟨hnone, ?_⟩
        rw [List.map_cons, hall, List.length_cons, List.range'_succ]
      · have hshift : i + 1 + k = i + (k + 1) := by omega
        rw [hshift] at hsettles hran
        refine .inr ⟨k + 1, outcome, hsettles, ?_⟩
        rw [List.map_cons, hran, List.range'_succ, List.drop_succ_cons]
        rfl
    | handled => exact .inr ⟨0, .handled, rfl, congrArg (List.cons i) (positions_trace_settled ..)⟩
    | rejected reason =>
      exact .inr ⟨0, .rejected reason, rfl, congrArg (List.cons i) (positions_trace_settled ..)⟩

/-- A rejection stays, and else the first one among the outcomes is kept. -/
theorem rejection_pass (i : Nat) (stages : List (Stage σ)) (settled : Bool) (t : Transit) (s : σ) :
    (pass stages settled t s).1.rejection =
      (t.rejection <|> rejection? (trace i stages settled t s)) := by
  induction stages generalizing i settled t s with
  | nil =>
    change t.rejection = (t.rejection <|> none)
    cases t.rejection <;> rfl
  | cons stage rest ih =>
    rw [pass, trace]
    split
    · exact ih _ _ _ _
    · rcases stage.run t s with ⟨outcome, findings, s'⟩
      cases outcome with
      | proceed => exact ih _ _ _ _
      | handled => exact ih _ _ _ _
      | rejected reason =>
        refine (ih (i + 1) _ _ _).trans ?_
        cases t.rejection <;> rfl

/-! ### The decision -/

theorem rejection?_eq_none_iff {ran : List StageRun} :
    rejection? ran = none ↔ ∀ run ∈ ran, ∀ reason, run.outcome ≠ .rejected reason := by
  have hone (outcome : Outcome) :
      outcome.rejection? = none ↔ ∀ reason, outcome ≠ .rejected reason := by
    cases outcome <;> simp [Outcome.rejection?]
  simp only [rejection?, List.findSome?_eq_none_iff, hone]

theorem rejection?_of_unsettled {ran : List StageRun}
    (h : ∀ run ∈ ran, run.outcome.settles = false) : rejection? ran = none := by
  rw [rejection?_eq_none_iff]
  intro run hrun reason hrejected
  have hsettles := h run hrun
  rw [hrejected] at hsettles
  exact nomatch hsettles

/-- Before the run that settles the message nothing rejects it. -/
theorem rejection?_of_rejected {ran : List StageRun} {k : Nat} {reason : Rejection}
    (h : settling? ran = some ⟨k, .rejected reason⟩) : rejection? ran = some reason := by
  obtain ⟨-, before, after, rfl, hbefore⟩ := List.find?_eq_some_iff_append.1 h
  have hnone : rejection? before = none :=
    rejection?_of_unsettled fun run hrun => by simpa using hbefore run hrun
  rw [rejection?, List.findSome?_append, ← rejection?, hnone]
  rfl

theorem decision_eq_error_iff (t : Transit) (reason : Rejection) :
    decision t = .error reason ↔ t.rejection = some reason := by
  unfold decision
  cases t.rejection <;> simp

theorem route_eq_error_iff (stages : List (Stage σ)) (m : Message) (s : σ) (reason : Rejection) :
    (route stages m s).1 = .error reason ↔ rejection? (runs stages m s) = some reason := by
  rw [runs_eq_trace]
  refine (decision_eq_error_iff _ reason).trans ?_
  rw [rejection_pass 0]
  rfl

end Pipeline

/-! ### Counters -/

/-- The ways in which messages are counted. -/
inductive Verdict where
  | routed
  | invalid
  | unauthorized
  deriving DecidableEq

def Verdict.ofDecision {α : Type} : Except Rejection α → Verdict
  | .ok _ => routed
  | .error (.invalid _) => invalid
  | .error (.unauthorized _) => unauthorized

/-- The counter of a verdict. -/
def RoutingStats.count (stats : RoutingStats) : Verdict → Nat
  | .routed => stats.routed
  | .invalid => stats.invalid
  | .unauthorized => stats.unauthorized

theorem RoutingStats.count_noteDecision {α : Type} (stats : RoutingStats) (d : Except Rejection α)
    (v : Verdict) :
    (stats.noteDecision d).count v = stats.count v + if v = .ofDecision d then 1 else 0 := by
  rcases d with (e | e) | a <;> cases v <;> rfl

theorem RoutingStats.count_noteLatency (stats : RoutingStats) (m : Message) (present : Instant)
    (v : Verdict) : (stats.noteLatency m present).count v = stats.count v := by
  cases v <;> rfl

/-- The decisions and the statistics of the router are those of its pipeline. -/
theorem Router.route_eq_routeCounted (r : Router) (now : Nat) (present : Instant) (m : Message) :
    let routed := Pipeline.routeCounted (RoutingStage.standard r.settings now) present m r.stats
      r.state
    r.route now present m = (routed.1, { r with stats := routed.2.1, state := routed.2.2 }) := rfl

namespace Pipeline

/-- The run that settles the message decides: by its rejection, or else the message is accepted. -/
def SettlingDecides (ran : List StageRun) (decision : Except Rejection (List EventAction)) : Prop :=
  ∀ reason, decision = .error reason ↔
    (settling? ran).map StageRun.outcome = some (.rejected reason)

/-- A rejection comes after the message has been handled. -/
def RejectsHandled (ran : List StageRun) : Prop :=
  (settling? ran).map StageRun.outcome = some .handled ∧
    ∃ run ∈ ran, ∃ reason, run.outcome = .rejected reason

theorem settlingDecides_iff {ran : List StageRun} {decision : Except Rejection (List EventAction)}
    (h : ∀ reason, decision = .error reason ↔ rejection? ran = some reason) :
    SettlingDecides ran decision ↔ ¬ RejectsHandled ran := by
  simp only [SettlingDecides, RejectsHandled, h]
  rcases hsettling : settling? ran with _ | ⟨k, outcome⟩
  · have hnone : rejection? ran = none :=
      rejection?_of_unsettled fun run hrun => by simpa using List.find?_eq_none.1 hsettling run hrun
    simp [hnone]
  cases outcome with
  | proceed => exact nomatch List.find?_some hsettling
  | rejected reason => simp [rejection?_of_rejected hsettling]
  | handled =>
    -- a message that was handled is accepted exactly if no stage rejects it at all
    have hnone : (∀ reason, rejection? ran ≠ some reason) ↔
        ∀ run ∈ ran, ∀ reason, run.outcome ≠ .rejected reason :=
      Option.eq_none_iff_forall_ne_some.symm.trans rejection?_eq_none_iff
    simpa using hnone

/-- What a pipeline does about a message. -/
structure Settled (stages : List (Stage σ)) (m : Message) (s : σ) (stats : RoutingStats)
    (decision : Except Rejection (List EventAction)) (stats' : RoutingStats) (s' : σ) : Prop where
  /-- To log the runs does not interfere. -/
  logged : route (logged 0 stages) m (s, []) = (decision, s', runs stages m s)
  /-- The stages run up to the one that settles the message, then the later ones that keep books. -/
  positions : (runs stages m s).map StageRun.position = due stages (settling? (runs stages m s))
  /-- The first rejection is the decision, and without one the message is accepted. -/
  rejected : ∀ reason, decision = .error reason ↔ rejection? (runs stages m s) = some reason
  /-- So the stage that settles the message decides, unless it handles it and a later one rejects. -/
  settles : SettlingDecides (runs stages m s) decision ↔ ¬ RejectsHandled (runs stages m s)
  /-- One counter rises, by one: that of the decision. -/
  counted : ∀ v, stats'.count v = stats.count v + if v = .ofDecision decision then 1 else 0

theorem positions_runs (stages : List (Stage σ)) (m : Message) (s : σ) :
    (runs stages m s).map StageRun.position = due stages (settling? (runs stages m s)) := by
  rw [runs_eq_trace]
  rcases positions_trace 0 stages { message := m } s with
    ⟨hnone, hall⟩ | ⟨k, outcome, hsettles, hran⟩
  · rw [hnone, hall, due, List.range_eq_range']
  · rw [hsettles, hran, due, List.range_eq_range', Nat.zero_add]

/-- Whatever the stages are, those up to the one that settles a message run, and of the later ones
those that keep books. The first rejection decides, and the message is counted by the decision. -/
theorem routeCounted_settled (stages : List (Stage σ)) (present : Instant) (m : Message)
    (stats : RoutingStats) (s : σ) :
    let after := routeCounted stages present m stats s
    Settled stages m s stats after.1 after.2.1 after.2.2 := by
  intro after
  have hrejected := route_eq_error_iff stages m s
  constructor
  case logged =>
    rw [route_logged, ← runs_eq_trace]
    rfl
  case positions => exact positions_runs stages m s
  case rejected => exact hrejected
  case settles => exact settlingDecides_iff hrejected
  case counted =>
    intro v
    rw [← stats.count_noteLatency m present v]
    exact RoutingStats.count_noteDecision _ _ v

/-- A stage handles the message, and the next one keeps books and rejects it. -/
theorem settling_not_decides :
    ¬ ∀ (stages : List (Stage Unit)) (m : Message),
      SettlingDecides (runs stages m ()) (route stages m ()).1 := by
  intro h
  let handling : Stage Unit := { name := "claim", run := fun t s => (.handled, t.toFindings, s) }
  let rejecting : Stage Unit := {
    name := "audit"
    isBookkeeping := true
    run := fun t s => (.rejected (.unauthorized .accountBanned), t.toFindings, s) }
  let m : Message := { sensorId := "s1", stamp := default, content := .text none "hello" none }
  have hsettled := (h [handling, rejecting] m (.unauthorized .accountBanned)).1 rfl
  exact absurd hsettled (by decide)

end Pipeline

end SensorRouter
