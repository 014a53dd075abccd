import SensorRouter.Proofs.Directory.Loading
import SensorRouter.Proofs.Live.Routes

/-!
Logs of commands. A directory is seen as a collection of cells, one for each id of an entity and one
for each route. On each cell a command either writes a content, which does not depend on what was
there before, or does nothing; so of a log the last write to a cell decides.
-/

namespace SensorRouter

/-- A place in a directory that a command may write to. -/
inductive DirectoryCell where
  | entity (kind : EntityKind) (id : String)
  | route (r : LiveRoute)

/-- What a cell holds: an entity or none, or whether the route is there. -/
abbrev DirectoryCell.Content : DirectoryCell → Type
  | .entity kind _ => Option kind.Entity
  | .route _ => Bool

/-! ### Writes of commands -/

namespace Command

/-- The command is about a cell. A sync is about every route to a target that it names. -/
def Addresses (c : Command) : DirectoryCell → Prop
  | .entity kind id => c = .add kind id ∨ c.Forgets kind id
  | .route r =>
    match c with
    | .addRoute r' => r' = r
    | .removeRoute r' => r' = r
    | .sync sets => ∃ set ∈ sets, set.target = r.target
    | _ => False

instance (c : Command) (cell : DirectoryCell) : Decidable (c.Addresses cell) :=
  match cell with
  | .entity kind id => inferInstanceAs (Decidable (c = .add kind id ∨ c.Forgets kind id))
  | .route r =>
    match c with
    | .addRoute r' => inferInstanceAs (Decidable (r' = r))
    | .removeRoute r' => inferInstanceAs (Decidable (r' = r))
    | .sync sets => inferInstanceAs (Decidable (∃ set ∈ sets, set.target = r.target))
    | .flush .. | .add .. | .deleteAccount _ => isFalse id

/-- What the command writes to a cell, if it writes to it: an entity as the registry hands it out,
none in the place of one that is forgotten, or whether a route is to be there. Of several sets of a
sync for one target the last counts. -/
def written (c : Command) (r : Registry) (enabled : String → Bool) :
    (cell : DirectoryCell) → Option cell.Content
  | .entity kind id =>
    if c = .add kind id then some (r.fetched kind id)
    else if c.Forgets kind id then some none
    else none
  | .route route =>
    match c with
    | .addRoute r' => if r' = route ∧ enabled route.target then some true else none
    | .removeRoute r' => if r' = route then some false else none
    | .sync sets => (Cache.lastWith? SyncSet.target sets route.target).map fun set =>
        enabled route.target && decide (route.sensorId ∈ set.sensors)
    | _ => none

theorem addresses_of_written {c : Command} {r : Registry} {enabled : String → Bool}
    {cell : DirectoryCell} {v : cell.Content} (h : c.written r enabled cell = some v) :
    c.Addresses cell := by
  cases cell with
  | entity kind id =>
    by_cases hadd : c = .add kind id
    · exact .inl hadd
    by_cases hforgets : c.Forgets kind id
    · exact .inr hforgets
    · simp [written, hadd, hforgets] at h
  | route route =>
    cases c with
    | addRoute r' =>
      by_cases hroute : r' = route
      · exact hroute
      · simp [written, hroute] at h
    | removeRoute r' =>
      by_cases hroute : r' = route
      · exact hroute
      · simp [written, hroute] at h
    | sync sets =>
      obtain ⟨set, hlast, -⟩ := Option.map_eq_some_iff.1 h
      obtain ⟨hmem, htarget⟩ := Cache.mem_of_lastWith? hlast
      exact ⟨set, hmem, htarget⟩
    | flush | add | deleteAccount => exact nomatch h

/-- What a log writes to a cell: the last of what its commands write. -/
def lastWritten (r : Registry) (enabled : String → Bool) (cell : DirectoryCell) :
    List Command → Option cell.Content
  | [] => none
  | c :: rest => (lastWritten r enabled cell rest).or (c.written r enabled cell)

theorem lastWritten_append (r : Registry) (enabled : String → Bool) (cell : DirectoryCell)
    (log log' : List Command) :
    lastWritten r enabled cell (log ++ log') =
      (lastWritten r enabled cell log').or (lastWritten r enabled cell log) := by
  induction log with
  | nil => exact Option.or_none.symm
  | cons c rest ih => rw [List.cons_append, lastWritten, ih, Option.or_assoc, lastWritten]

/-- Only the commands about a cell matter to it. -/
theorem lastWritten_filter (r : Registry) (enabled : String → Bool) (cell : DirectoryCell)
    (log : List Command) :
    lastWritten r enabled cell (log.filter (·.Addresses cell)) =
      lastWritten r enabled cell log := by
  induction log with
  | nil => rfl
  | cons c rest ih =>
    by_cases haddresses : c.Addresses cell
    · rw [List.filter_cons_of_pos (by simpa using haddresses), lastWritten, ih, lastWritten]
    · have hnone : c.written r enabled cell = none := by
        refine Option.eq_none_iff_forall_not_mem.2 fun v hv => ?_
        exact haddresses (addresses_of_written hv)
      rw [List.filter_cons_of_neg (by simpa using haddresses), ih, lastWritten, hnone,
        Option.or_none]

end Command

/-! ### Commands on live data -/

namespace LiveIndex

/-- Carries out syncs in order. -/
def syncAll (x : LiveIndex) (sets : List SyncSet) : LiveIndex :=
  sets.foldl (fun x set => (x.sync set).2) x

theorem handlers_syncAll (x : LiveIndex) (sets : List SyncSet) :
    (x.syncAll sets).handlers = x.handlers := by
  induction sets generalizing x with
  | nil => rfl
  | cons set rest ih => exact (ih (x.sync set).2).trans (x.handlers_sync set)

/-- After several syncs a route is there by the last sync of its target, or as before. -/
theorem mem_syncAll (x : LiveIndex) (sets : List SyncSet) (route : LiveRoute) :
    decide (route ∈ (x.syncAll sets).routes) =
      ((Cache.lastWith? SyncSet.target sets route.target).map fun set =>
        x.isEnabled route.target && decide (route.sensorId ∈ set.sensors)).getD
          (decide (route ∈ x.routes)) := by
  induction sets generalizing x with
  | nil => rfl
  | cons set rest ih =>
    have hfirst := mem_sync x set route
    have henabled : (x.sync set).2.isEnabled route.target = x.isEnabled route.target := by
      rw [isEnabled, x.handlers_sync, isEnabled]
    rw [syncAll, List.foldl_cons, ← syncAll, ih, henabled, Cache.lastWith?_cons]
    -- a later sync of the target replaces whatever this one has done
    cases Cache.lastWith? SyncSet.target rest route.target with
    | some later => rfl
    | none =>
      by_cases htarget : route.target = set.target
      · rw [if_pos htarget] at hfirst
        simp [htarget, hfirst]
      · rw [if_neg htarget] at hfirst
        simp [htarget, hfirst]

end LiveIndex

namespace Command

/-- What the command does to the live data. -/
def onLive (c : Command) (x : LiveIndex) : LiveIndex :=
  match c with
  | .addRoute r => (x.addRoute r).2
  | .removeRoute r => (x.removeRoute r).2
  | .sync sets => x.syncAll sets
  | _ => x

theorem handlers_onLive (c : Command) (x : LiveIndex) : (c.onLive x).handlers = x.handlers := by
  cases c with
  | addRoute r => exact x.handlers_addRoute r
  | sync sets => exact x.handlers_syncAll sets
  | _ => rfl

/-- On each route a command writes what does not depend on the routes before. -/
theorem mem_onLive (c : Command) (x : LiveIndex) (r : Registry) (route : LiveRoute) :
    decide (route ∈ (c.onLive x).routes) =
      (c.written r x.isEnabled (.route route)).getD (decide (route ∈ x.routes)) := by
  cases c with
  | addRoute r' =>
    have hadded := x.mem_addRoute r' route
    by_cases hroute : r' = route ∧ x.isEnabled route.target = true
    · obtain ⟨rfl, henabled⟩ := hroute
      have hthere : r' ∈ (x.addRoute r').2.routes := hadded.2 (.inl ⟨rfl, henabled⟩)
      simp [written, onLive, hthere, henabled]
    · simp [written, onLive, hadded, hroute]
  | removeRoute r' =>
    by_cases hroute : r' = route
    · simp [written, onLive, LiveIndex.removeRoute, hroute]
    · simp [written, onLive, LiveIndex.removeRoute, hroute, Ne.symm hroute]
  | sync sets => exact x.mem_syncAll sets route
  | flush | add | deleteAccount => rfl

end Command

namespace Directory

variable {d d' : Directory} {now : Nat} {r : Registry} {p : Repository}

/-- What a cell of the directory holds. -/
def content (d : Directory) : (cell : DirectoryCell) → cell.Content
  | .entity kind id => d.lookup kind id
  | .route r => decide (r ∈ d.live.routes)

/-- Directories that hold the same in every cell, under the same handlers, are alike. -/
theorem alike_of_content (hcontent : ∀ cell, d'.content cell = d.content cell)
    (hhandlers : d'.live.handlers = d.live.handlers) : d.Alike d' where
  lookup kind id := hcontent (.entity kind id)
  routes := by
    refine RouteSet.eq_of_pairs_eq (Finset.ext fun route => ?_)
    rw [RouteSet.mem_pairs, RouteSet.mem_pairs]
    exact decide_eq_decide.1 (hcontent (.route route))
  handlers := hhandlers

/-! ### One command -/

theorem live_of_put {kind : EntityKind} {e : kind.Entity} (h : d.put now kind e = .ok d') :
    d'.live = d.live := by
  rw [put_eq] at h
  cases hput : (d.cache kind).put now (kind.idOf e) e with
  | error e => rw [hput] at h; exact nomatch h
  | ok c =>
    rw [hput] at h
    cases h
    exact d.live_withCache kind c

theorem live_remove (d : Directory) (kind : EntityKind) (id : String) :
    (d.remove kind id).2.live = d.live :=
  (d.replaces_remove kind id).live

theorem live_syncAll (d : Directory) (sets : List SyncSet) :
    (d.syncAll sets).live = d.live.syncAll sets := by
  unfold syncAll LiveIndex.syncAll
  induction sets generalizing d with
  | nil => rfl
  | cons set rest ih => exact ih (d.sync set).2

theorem live_of_apply {c : Command} (h : d.apply now p c = .ok d') : d'.live = c.onLive d.live := by
  cases c with
  | add kind id =>
    rw [apply_add_eq] at h
    rcases hfetched : p.fetch kind id with e | e?
    · rw [hfetched] at h
      exact nomatch h
    rw [hfetched] at h
    cases e? with
    | none =>
      cases h
      exact d.live_remove kind id
    | some e =>
      cases hput : d.put now kind e with
      | error _ => simp [settle, hput, Except.mapError] at h
      | ok d₁ =>
        simp only [settle, hput, Except.mapError, Except.ok.injEq] at h
        exact h ▸ live_of_put hput
  | flush kind id =>
    cases h
    exact d.live_remove kind id
  | deleteAccount id =>
    cases h
    exact d.live_remove .account id
  | addRoute | removeRoute =>
    cases h
    rfl
  | sync sets =>
    cases h
    exact d.live_syncAll sets

/-- A command from a registry succeeds. It sets each cell to what it writes there, whatever was in
it, and leaves the cells that it does not write to. -/
theorem apply_content (hd : d.Unbounded) (h : r.ServedBy p) (now : Nat) (c : Command) :
    ∃ d', d.apply now p c = .ok d' ∧ d'.Unbounded ∧ d'.live.handlers = d.live.handlers ∧
      ∀ cell, d'.content cell = (c.written r d.live.isEnabled cell).getD (d.content cell) := by
  obtain ⟨d', happly, hunbounded, hlookup⟩ := apply_served hd h now c
  have hlive := live_of_apply happly
  refine ⟨d', happly, hunbounded, hlive ▸ c.handlers_onLive d.live, fun cell => ?_⟩
  cases cell with
  | entity kind id =>
    rw [content, hlookup, Command.written, content]
    by_cases hadd : c = .add kind id
    · simp [hadd]
    · by_cases hforgets : c.Forgets kind id <;> simp [hadd, hforgets]
  | route route =>
    rw [content, hlive, c.mem_onLive, content]

/-! ### Logs -/

/-- Applies the commands of a log in order, each at its own time, up to the first that fails. -/
def applyAll (d : Directory) (p : Repository) :
    List (Nat × Command) → Except UpdateError Directory
  | [] => .ok d
  | (now, c) :: rest => d.apply now p c >>= fun d => d.applyAll p rest

/-- A log from a registry succeeds, and the last write to a cell decides what it holds. -/
theorem applyAll_content (hd : d.Unbounded) (h : r.ServedBy p) (log : List (Nat × Command)) :
    ∃ d', d.applyAll p log = .ok d' ∧ d'.Unbounded ∧ d'.live.handlers = d.live.handlers ∧
      ∀ cell, d'.content cell =
        (Command.lastWritten r d.live.isEnabled cell (log.map (·.2))).getD (d.content cell) := by
  induction log generalizing d with
  | nil => exact ⟨d, rfl, hd, rfl, fun _ => rfl⟩
  | cons entry rest ih =>
    obtain ⟨now, c⟩ := entry
    obtain ⟨d₁, happly, hd₁, hhandlers₁, hcontent₁⟩ := apply_content hd h now c
    obtain ⟨d', hrest, hd', hhandlers', hcontent'⟩ := ih hd₁
    -- commands leave the handlers, so each later one sees the same targets enabled
    have henabled : d₁.live.isEnabled = d.live.isEnabled := by
      funext target
      rw [LiveIndex.isEnabled, hhandlers₁, LiveIndex.isEnabled]
    refine ⟨d', ?_, hd', hhandlers'.trans hhandlers₁, fun cell => ?_⟩
    · rw [applyAll, happly]
      exact hrest
    · rw [hcontent', hcontent₁, henabled, List.map_cons, Command.lastWritten]
      cases Command.lastWritten r d.live.isEnabled cell (rest.map (·.2)) <;> rfl

/-- From a registry, logs of commands succeed on a directory without capacities. Two logs with the
same commands about each cell, in the same order, leave directories that are alike; and a log
applied twice leaves what it leaves when applied once. -/
theorem applyAll_last_writer_wins (hd : d.Unbounded) (h : r.ServedBy p)
    (log : List (Nat × Command)) :
    ∃ d₁, d.applyAll p log = .ok d₁ ∧
      (∀ log' : List (Nat × Command),
        (∀ cell, (log'.map (·.2)).filter (·.Addresses cell) =
          (log.map (·.2)).filter (·.Addresses cell)) →
        ∃ d₂, d.applyAll p log' = .ok d₂ ∧ d₁.Alike d₂ ∧ d₂.counts = d₁.counts) ∧
      ∀ again : List (Nat × Command), again.map (·.2) = log.map (·.2) →
        ∃ d₂, d.applyAll p (log ++ again) = .ok d₂ ∧ d₁.Alike d₂ ∧ d₂.counts = d₁.counts := by
  obtain ⟨d₁, happly₁, -, hhandlers₁, hcontent₁⟩ := applyAll_content hd h log
  refine ⟨d₁, happly₁, fun log' hsame => ?_, fun again hagain => ?_⟩
  · obtain ⟨d₂, happly₂, -, hhandlers₂, hcontent₂⟩ := applyAll_content hd h log'
    have halike : d₁.Alike d₂ := by
      refine alike_of_content (fun cell => ?_) (hhandlers₂.trans hhandlers₁.symm)
      rw [hcontent₂, hcontent₁, ← Command.lastWritten_filter, hsame cell,
        Command.lastWritten_filter]
    exact ⟨d₂, happly₂, halike, halike.counts_eq⟩
  · obtain ⟨d₂, happly₂, -, hhandlers₂, hcontent₂⟩ := applyAll_content hd h (log ++ again)
    have halike : d₁.Alike d₂ := by
      refine alike_of_content (fun cell => ?_) (hhandlers₂.trans hhandlers₁.symm)
      rw [hcontent₂, hcontent₁, List.map_append, hagain, Command.lastWritten_append, Option.or_self]
    exact ⟨d₂, happly₂, halike, halike.counts_eq⟩

/-- An account loaded before a target gets its routes, or after that, or both of them twice. -/
theorem applyAll_reordered :
    let r := Registry.empty.putAccount { id := "a1" }
    let d := (empty {}).setHandlers [{ name := "t1" }]
    let load : Command := .add .account "a1"
    let sync : Command := .sync [⟨"t1", ["s1"]⟩]
    ∃ d₁ d₂ d₃, d.applyAll r.toRepository [(0, load), (1, sync)] = .ok d₁ ∧
      d.applyAll r.toRepository [(5, sync), (7, load)] = .ok d₂ ∧
      d.applyAll r.toRepository [(0, load), (1, sync), (5, load), (7, sync)] = .ok d₃ ∧
      d₁.Alike d₂ ∧ d₁.Alike d₃ := by
  intro r d load sync
  have hunbounded : d.Unbounded := fun kind => by cases kind <;> rfl
  obtain ⟨d₁, happly₁, hreordered, hagain⟩ :=
    applyAll_last_writer_wins hunbounded r.servedBy_toRepository [(0, load), (1, sync)]
  have hapart : ∀ cell, load.Addresses cell → ¬ sync.Addresses cell := by
    rintro (⟨kind, id⟩ | route) hload
    · rintro (hsync | hsync | ⟨-, hsync⟩) <;> exact nomatch hsync
    · exact hload.elim
  obtain ⟨d₂, happly₂, halike₂, -⟩ := hreordered [(5, sync), (7, load)] fun cell => by
    by_cases hload : load.Addresses cell
    · simp [hload, hapart cell hload]
    · by_cases hsync : sync.Addresses cell <;> simp [hload, hsync]
  obtain ⟨d₃, happly₃, halike₃, -⟩ := hagain [(5, load), (7, sync)] rfl
  exact ⟨d₁, d₂, d₃, happly₁, happly₂, happly₃, halike₂, halike₃⟩

end Directory

end SensorRouter
