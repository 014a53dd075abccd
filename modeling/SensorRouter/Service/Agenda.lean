/-!
Agendas: tasks and the instants at which they are due. What is due first comes first, and of tasks due
at one instant the one entered first.
-/

namespace SensorRouter

universe u

variable {τ : Type u}

namespace Agenda

/-- Enters a task behind those that are due no later. -/
def insertEntry (due : Nat) (task : τ) : List (Nat × τ) → List (Nat × τ)
  | [] => [(due, task)]
  | e :: rest =>
    if due < e.1 then (due, task) :: e :: rest else e :: insertEntry due task rest

theorem mem_insertEntry {due : Nat} {task : τ} {entries : List (Nat × τ)} {e : Nat × τ} :
    e ∈ insertEntry due task entries ↔ e = (due, task) ∨ e ∈ entries := by
  induction entries with
  | nil => simp [insertEntry]
  | cons a rest ih =>
    unfold insertEntry
    split
    · simp
    · simp only [List.mem_cons, ih]
      exact or_left_comm

theorem ascending_insertEntry {entries : List (Nat × τ)}
    (h : entries.Pairwise fun a b => a.1 ≤ b.1) (due : Nat) (task : τ) :
    (insertEntry due task entries).Pairwise fun a b => a.1 ≤ b.1 := by
  induction entries with
  | nil => simp [insertEntry]
  | cons a rest ih =>
    have ha := List.pairwise_cons.1 h
    unfold insertEntry
    split
    · rename_i hlt
      refine List.pairwise_cons.2 ⟨fun e he => ?_, h⟩
      rcases List.mem_cons.1 he with rfl | he
      · exact Nat.le_of_lt hlt
      · exact Nat.le_trans (Nat.le_of_lt hlt) (ha.1 e he)
    · rename_i hle
      refine List.pairwise_cons.2 ⟨fun e he => ?_, ih ha.2⟩
      rcases mem_insertEntry.1 he with rfl | he
      · exact Nat.le_of_not_lt hle
      · exact ha.1 e he

/-- The time that is left to the entries before an instant, summed up. -/
def slack (limit : Nat) (entries : List (Nat × τ)) : Nat :=
  (entries.map fun e => limit - e.1).foldr (· + ·) 0

theorem slack_insertEntry (limit due : Nat) (task : τ) (entries : List (Nat × τ)) :
    slack limit (insertEntry due task entries) = (limit - due) + slack limit entries := by
  induction entries with
  | nil => rfl
  | cons a rest ih =>
    unfold insertEntry
    split
    · rfl
    · simp only [slack, List.map_cons, List.foldr_cons] at ih ⊢
      omega

end Agenda

structure Agenda (τ : Type u) where
  entries : List (Nat × τ)
  ascending : entries.Pairwise fun a b => a.1 ≤ b.1

namespace Agenda

def empty : Agenda τ := ⟨[], .nil⟩

instance : Inhabited (Agenda τ) := ⟨empty⟩

def insert (a : Agenda τ) (due : Nat) (task : τ) : Agenda τ :=
  ⟨insertEntry due task a.entries, ascending_insertEntry a.ascending due task⟩

/-- The first entry due before an instant, and the agenda without it. -/
def next? (a : Agenda τ) (limit : Nat) : Option ((Nat × τ) × Agenda τ) :=
  match h : a.entries with
  | [] => none
  | e :: rest =>
    if e.1 < limit then some (e, ⟨rest, (List.pairwise_cons.1 (h ▸ a.ascending)).2⟩) else none

theorem next?_slack {a rest : Agenda τ} {limit : Nat} {e : Nat × τ}
    (h : a.next? limit = some (e, rest)) :
    e.1 < limit ∧ slack limit a.entries = (limit - e.1) + slack limit rest.entries := by
  unfold next? at h
  split at h
  · simp at h
  · rename_i e' rest' hentries
    split at h
    · rename_i hlt
      obtain ⟨rfl, rfl⟩ := Prod.mk.inj (Option.some.inj h)
      refine ⟨hlt, ?_⟩
      show slack limit a.entries = (limit - e'.1) + slack limit rest'
      rw [hentries]
      rfl
    · simp at h

def filter (a : Agenda τ) (keep : τ → Bool) : Agenda τ :=
  ⟨a.entries.filter fun e => keep e.2, a.ascending.filter _⟩

end Agenda

end SensorRouter
