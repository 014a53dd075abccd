import SensorRouter.Proofs.Directory.InPlace
import SensorRouter.Proofs.Directory.Loading

/-!
Commands that fail. Only commands that are not understood and additions can fail, and one that fails
leaves no trace but in the count of failures. So a stream of commands has the effect of those of them
that succeed.
-/

namespace SensorRouter

namespace Directory

/-- Why a written command fails: it is not understood, or it is to add an entity and the repository
gives no answer or the cache has no room. -/
inductive Refuses (d : Directory) (now : Nat) (p : Repository) (payload : ByteArray) :
    UpdateError → Prop
  | command {e : CommandError} (h : Command.ofBytes payload = .error e) :
      Refuses d now p payload (.command e)
  | repository {kind : EntityKind} {id : String} {e : RepositoryError}
      (h : Command.ofBytes payload = .ok (.add kind id)) (hfetch : p.fetch kind id = .error e) :
      Refuses d now p payload (.repository e)
  | cache {kind : EntityKind} {id : String} {v : kind.Entity} {e : CacheError}
      (h : Command.ofBytes payload = .ok (.add kind id)) (hfetch : p.fetch kind id = .ok (some v))
      (hput : d.put now kind v = .error e) :
      Refuses d now p payload (.cache e)

theorem apply_add_eq_error_iff (d : Directory) (now : Nat) (p : Repository) (kind : EntityKind)
    (id : String) (e : UpdateError) :
    d.apply now p (.add kind id) = .error e ↔
      (∃ e', p.fetch kind id = .error e' ∧ e = .repository e') ∨
        ∃ v e', p.fetch kind id = .ok (some v) ∧ d.put now kind v = .error e' ∧ e = .cache e' := by
  rw [apply_add_eq]
  rcases p.fetch kind id with e' | _ | v
  · simp [settle, eq_comm]
  · simp [settle]
  · rcases hput : d.put now kind v with e' | d'
    · simp [settle, hput, Except.mapError, eq_comm]
    · simp [settle, hput, Except.mapError]

/-- Of the commands only additions fail. -/
theorem exists_add_of_apply_eq_error {d : Directory} {now : Nat} {p : Repository} {c : Command}
    {e : UpdateError} (h : d.apply now p c = .error e) : ∃ kind id, c = .add kind id := by
  cases c with
  | add kind id => exact ⟨kind, id, rfl⟩
  | flush | deleteAccount | addRoute | removeRoute | sync => exact nomatch h

end Directory

namespace ManagedDirectory

variable {m m' : ManagedDirectory} {now : Nat} {p : Repository} {payload : ByteArray}

/-! ### One command -/

theorem handle_of_ok (h : m.handle now p payload = (m', .ok ())) :
    m'.counts = { m.counts with applied := m.counts.applied + 1 } ∧
      ∀ counts, handle ⟨m.directory, counts⟩ now p payload =
        (⟨m'.directory, { counts with applied := counts.applied + 1 }⟩, .ok ()) := by
  unfold handle at h ⊢
  cases hresult : (Command.ofBytes payload).mapError .command >>= m.directory.apply now p with
  | error e => rw [hresult] at h; exact nomatch h
  | ok d =>
    rw [hresult] at h
    cases h
    exact ⟨rfl, fun counts => by simp only [hresult]⟩

theorem handle_of_error {e : UpdateError} (h : m.handle now p payload = (m', .error e)) :
    m' = { m with counts := { m.counts with failed := m.counts.failed + 1 } } := by
  unfold handle at h
  cases hresult : (Command.ofBytes payload).mapError .command >>= m.directory.apply now p with
  | error e => rw [hresult] at h; cases h; rfl
  | ok d => rw [hresult] at h; exact nomatch h

theorem handle_eq_error_iff (m : ManagedDirectory) (now : Nat) (p : Repository)
    (payload : ByteArray) (e : UpdateError) :
    (m.handle now p payload).2 = .error e ↔ m.directory.Refuses now p payload e := by
  have hresult : (m.handle now p payload).2 = .error e ↔
      (Command.ofBytes payload).mapError .command >>= m.directory.apply now p = .error e := by
    unfold handle
    cases (Command.ofBytes payload).mapError .command >>= m.directory.apply now p <;> simp
  rw [hresult]
  constructor
  · intro h
    cases hc : Command.ofBytes payload with
    | error e' =>
      rw [hc] at h
      cases h
      exact .command hc
    | ok c =>
      rw [hc] at h
      change m.directory.apply now p c = .error e at h
      obtain ⟨kind, id, rfl⟩ := Directory.exists_add_of_apply_eq_error h
      rcases (m.directory.apply_add_eq_error_iff ..).1 h with
        ⟨e', hfetch, rfl⟩ | ⟨v, e', hfetch, hput, rfl⟩
      · exact .repository hc hfetch
      · exact .cache hc hfetch hput
  · intro h
    cases h with
    | command hc => rw [hc]; rfl
    | repository hc hfetch =>
      rw [hc]
      exact (m.directory.apply_add_eq_error_iff ..).2 (.inl ⟨_, hfetch, rfl⟩)
    | cache hc hfetch hput =>
      rw [hc]
      exact (m.directory.apply_add_eq_error_iff ..).2 (.inr ⟨_, _, hfetch, hput, rfl⟩)

/-- What becomes of a written command: it is applied, or it fails and leaves no trace but in the
count of failures, also when it changes the directory in place. -/
structure Handled (m : ManagedDirectory) (now : Nat) (p : Repository) (payload : ByteArray)
    (after : ManagedDirectory) (result : Except UpdateError Unit) : Prop where
  inPlace : m.handleInPlace now p payload = (after, result)
  refused : ∀ e, result = .error e ↔ m.directory.Refuses now p payload e
  failed : ∀ e, result = .error e → m.directory.Alike after.directory ∧
    after = { m with counts := { m.counts with failed := m.counts.failed + 1 } }
  applied : result = .ok () → after.counts = { m.counts with applied := m.counts.applied + 1 }

theorem handle_handled {result : Except UpdateError Unit}
    (h : m.handle now p payload = (m', result)) : m.Handled now p payload m' result where
  inPlace := (m.handleInPlace_eq now p payload).trans h
  refused e := by rw [← m.handle_eq_error_iff, h]
  failed := by
    rintro e rfl
    rw [handle_of_error h]
    exact ⟨⟨fun _ _ => rfl, rfl, rfl⟩, rfl⟩
  applied := by
    rintro rfl
    exact (handle_of_ok h).1

/-! ### Streams -/

/-- Handles written commands in order, each at the time when it comes, and says how each went. -/
def handleAll (p : Repository) (m : ManagedDirectory) :
    List (Nat × ByteArray) → ManagedDirectory × List (Except UpdateError Unit)
  | [] => (m, [])
  | (now, payload) :: rest =>
    let (m, result) := m.handle now p payload
    let (m, results) := handleAll p m rest
    (m, result :: results)

/-- The part of a stream that succeeds when all of it is handled. -/
def succeeding (p : Repository) (m : ManagedDirectory) (stream : List (Nat × ByteArray)) :
    List (Nat × ByteArray) :=
  ((stream.zip (m.handleAll p stream).2).filter fun x => x.2.isOk).map Prod.fst

theorem succeeding_cons_of_ok (h : m.handle now p payload = (m', .ok ()))
    (rest : List (Nat × ByteArray)) :
    m.succeeding p ((now, payload) :: rest) = (now, payload) :: m'.succeeding p rest := by
  simp [succeeding, handleAll, h, Except.isOk, Except.toBool]

theorem succeeding_cons_of_error {e : UpdateError} (h : m.handle now p payload = (m', .error e))
    (rest : List (Nat × ByteArray)) :
    m.succeeding p ((now, payload) :: rest) = m'.succeeding p rest := by
  simp [succeeding, handleAll, h, Except.isOk, Except.toBool]

theorem succeeding_sublist (p : Repository) (m : ManagedDirectory)
    (stream : List (Nat × ByteArray)) : (m.succeeding p stream).Sublist stream := by
  induction stream generalizing m with
  | nil => exact .slnil
  | cons x rest ih =>
    rcases hhandle : m.handle x.1 p x.2 with ⟨m', e | _⟩
    · rw [succeeding_cons_of_error hhandle]
      exact (ih m').cons x
    · rw [succeeding_cons_of_ok hhandle]
      exact (ih m').cons_cons x

/-- Handled on its own, from any counts, the part of a stream that succeeds brings the directory to
where the stream brings it, and all of it succeeds again. -/
theorem handleAll_succeeding (p : Repository) (m : ManagedDirectory)
    (stream : List (Nat × ByteArray)) (counts : UpdateCounts) :
    handleAll p ⟨m.directory, counts⟩ (m.succeeding p stream) =
      (⟨(m.handleAll p stream).1.directory,
        { counts with applied := counts.applied + (m.succeeding p stream).length }⟩,
        List.replicate (m.succeeding p stream).length (.ok ())) := by
  induction stream generalizing m counts with
  | nil => rfl
  | cons x rest ih =>
    rcases hhandle : m.handle x.1 p x.2 with ⟨m', e | _⟩
    · have hlater := ih m' counts
      have hsame : m'.directory = m.directory := by rw [handle_of_error hhandle]
      rw [hsame] at hlater
      simpa only [succeeding_cons_of_error hhandle, handleAll, hhandle] using hlater
    · have hlater := ih m' { counts with applied := counts.applied + 1 }
      rw [succeeding_cons_of_ok hhandle, List.length_cons, List.replicate_succ,
        Nat.add_comm _ 1, ← Nat.add_assoc]
      simp only [handleAll, hhandle, (handle_of_ok hhandle).2, hlater]

/-- The counts tell how much of a stream has succeeded, and how much has failed. -/
theorem counts_handleAll (p : Repository) (m : ManagedDirectory)
    (stream : List (Nat × ByteArray)) :
    (m.handleAll p stream).1.counts =
      { m.counts with
        applied := m.counts.applied + (m.succeeding p stream).length
        failed := m.counts.failed + (stream.length - (m.succeeding p stream).length) } := by
  induction stream generalizing m with
  | nil => rfl
  | cons x rest ih =>
    rcases hhandle : m.handle x.1 p x.2 with ⟨m', e | _⟩
    · have hle := (succeeding_sublist p m' rest).length_le
      have hcounts := congrArg counts (handle_of_error hhandle)
      simp only [handleAll, hhandle, succeeding_cons_of_error hhandle, ih m', hcounts,
        List.length_cons]
      congr 1
      omega
    · have hcounts := (handle_of_ok hhandle).1
      simp only [handleAll, hhandle, succeeding_cons_of_ok hhandle, ih m', hcounts,
        List.length_cons]
      congr 1 <;> omega

/-- A stream and the part of it that succeeds have the same effect on the directory, and nothing of
that part fails when it is handled on its own. -/
structure Replayed (p : Repository) (m : ManagedDirectory) (stream : List (Nat × ByteArray)) :
    Prop where
  sublist : (m.succeeding p stream).Sublist stream
  succeeds : ∀ result ∈ (m.handleAll p (m.succeeding p stream)).2, result = .ok ()
  directory : (m.handleAll p (m.succeeding p stream)).1.directory =
    (m.handleAll p stream).1.directory
  counts : (m.handleAll p stream).1.counts =
    { m.counts with
      applied := m.counts.applied + (m.succeeding p stream).length
      failed := m.counts.failed + (stream.length - (m.succeeding p stream).length) }

/-- A command that fails changes nothing but the count of failures, whatever the stream that it comes
in: without it the rest of the stream would have led to the same directory. -/
theorem handle_fails_alone (m : ManagedDirectory) (p : Repository) :
    (∀ now payload,
      m.Handled now p payload (m.handle now p payload).1 (m.handle now p payload).2) ∧
    ∀ stream, m.Replayed p stream := by
  refine ⟨fun now payload => handle_handled rfl, fun stream => ?_⟩
  have hreplay := handleAll_succeeding p m stream m.counts
  exact {
    sublist := succeeding_sublist p m stream
    succeeds := by
      rw [hreplay]
      exact fun _ => List.eq_of_mem_replicate
    directory := by rw [hreplay]
    counts := counts_handleAll p m stream }

set_option maxRecDepth 4000 in
example :
    let flush := "\x7b\"cmd\":\"FlushUser\",\"arguments\":\"a1\"\x7d".toUTF8
    let m : ManagedDirectory := ⟨((Directory.empty {}).loadAccounts 0 [{ id := "a1" }]).1, {}⟩
    let after := (m.handleAll Registry.empty.toRepository [(0, ⟨#[]⟩), (1, flush)]).1
    after.counts = { applied := 1, failed := 1 } ∧ after.directory.lookup .account "a1" = none := by
  decide +kernel

end ManagedDirectory

end SensorRouter
