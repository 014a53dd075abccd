import SensorRouter.Proofs.Repository.Served

/-!
Commands as programs that change the directory in place, one part after another, and undo nothing
when they fail. Nothing needs to be undone: all that can fail comes before the first change. So these
programs do what `apply` and `handle` do, which make a new directory or none.
-/

namespace SensorRouter

/-- A program on a state. When it fails, what it has changed by then stays changed. -/
abbrev InPlace (σ ε α : Type) : Type :=
  ExceptT ε (StateM σ) α

namespace InPlace

section

variable {σ ε α β : Type}

/-- The result of a program from a state, and the state that it leaves. -/
def runOn (u : InPlace σ ε α) (s : σ) : Except ε α × σ :=
  (ExceptT.run u).run s

/-- Takes a result that is there already. -/
def answer (r : Except ε α) : InPlace σ ε α :=
  ExceptT.mk (pure r)

theorem runOn_bind (u : InPlace σ ε α) (k : α → InPlace σ ε β) (s : σ) :
    (u >>= k).runOn s = match u.runOn s with
      | (.ok a, s') => (k a).runOn s'
      | (.error e, s') => (.error e, s') := by
  change ExceptT.bindCont k (u.runOn s).1 (u.runOn s).2 = _
  rcases u.runOn s with ⟨e | a, s'⟩ <;> rfl

/-- The outcome of a change that is made as a whole: the state that it leads to, or else the state
as it was. -/
def wholly (s : σ) : Except ε σ → Except ε Unit × σ
  | .ok s' => (.ok (), s')
  | .error e => (.error e, s)

/-- The program changes the state to what a function makes of it, or changes nothing where the
function gives an error. -/
def Realizes (u : InPlace σ ε Unit) (f : σ → Except ε σ) : Prop :=
  ∀ s, u.runOn s = wholly s (f s)

variable {u : InPlace σ ε Unit} {f : σ → Except ε σ}

theorem realizes_modify (g : σ → σ) :
    (modify g : InPlace σ ε Unit).Realizes fun s => .ok (g s) :=
  fun _ => rfl

/-- A result that is an error ends the program before it changes anything. -/
theorem realizes_answer (r : Except ε α) {u : α → InPlace σ ε Unit} {f : α → σ → Except ε σ}
    (h : ∀ a, (u a).Realizes (f a)) :
    (answer r >>= u).Realizes fun s => r >>= fun a => f a s := by
  intro s
  cases r with
  | error e => rfl
  | ok a => exact h a s

/-- Changes that cannot fail may follow what can. -/
theorem Realizes.then_modify (h : u.Realizes f) (g : σ → σ) :
    (u >>= fun _ => modify g).Realizes fun s => (f s).map g := by
  intro s
  rw [runOn_bind, h s]
  beta_reduce
  cases f s <;> rfl

theorem realizes_forM (g : σ → β → σ) (items : List β) :
    (items.forM fun b => modify (g · b) : InPlace σ ε Unit).Realizes fun s =>
      .ok (items.foldl g s) := by
  intro s
  induction items generalizing s with
  | nil => rfl
  | cons b rest ih => exact ih (g s b)

end

/-! ### Caches -/

variable {α : Type}

/-- Lets `new` take the place of `old` in the total, unless that crosses the limit. -/
def reserve (old new : Nat) : InPlace (Cache α) CacheError Unit := do
  let c ← get
  let total := c.totalAfter old new
  if c.limit < total then throw (.capacityExceeded c.limit total)
  set { c with size := total }

/-- Inserts an entry: first the total changes, then the entry. -/
def insert (now : Nat) (key : String) (value : α) (options : EntryOptions) (overwrite : Bool) :
    InPlace (Cache α) CacheError Unit := do
  let c ← get
  let size ← answer (c.entrySize options.size)
  let entry := Entry.new value (options.timeout <|> c.options.timeout) size now
  if !overwrite && c.contains key then throw .keyExists
  reserve (c.liveSize key) size
  modify fun c => { c with entries := c.entries.insert key entry }

/-- Puts a value under a key: first the total changes, then the entry. -/
def put (now : Nat) (key : String) (value : α) : InPlace (Cache α) CacheError Unit := do
  let c ← get
  let size ← answer (c.entrySize none)
  let entry := Entry.new value c.options.timeout size now
  reserve (c.liveSize key) size
  modify fun c => { c with entries := c.entries.insert key entry }

theorem reserve_realizes (old new : Nat) :
    (reserve old new).Realizes fun c : Cache α =>
      if c.limit < c.totalAfter old new then
        .error (.capacityExceeded c.limit (c.totalAfter old new))
      else .ok { c with size := c.totalAfter old new } := by
  intro c
  change (if c.limit < c.totalAfter old new then _ else _ : InPlace (Cache α) CacheError Unit).runOn
    c = wholly c (if _ then _ else _)
  split <;> rfl

theorem insert_realizes (now : Nat) (key : String) (value : α) (options : EntryOptions)
    (overwrite : Bool) :
    (insert now key value options overwrite).Realizes fun c =>
      c.insert now key value options overwrite := by
  intro c
  change (answer (c.entrySize options.size) >>= fun size => _ : InPlace _ _ _).runOn c = _
  rw [runOn_bind]
  simp only [Cache.insert]
  cases c.entrySize options.size with
  | error e => rfl
  | ok size =>
    generalize (!overwrite && c.contains key) = taken
    cases taken with
    | true => rfl
    | false =>
      let entry := Entry.new value (options.timeout <|> c.options.timeout) size now
      have hwrite := (reserve_realizes (c.liveSize key) size).then_modify
        (fun c : Cache α => { c with entries := c.entries.insert key entry }) c
      refine hwrite.trans (congrArg (wholly c) ?_)
      by_cases hfits : c.limit < c.totalAfter (c.liveSize key) size
      · simp [bind, Except.bind, Except.map, hfits, throw, throwThe, MonadExceptOf.throw]
      · simp [bind, Except.bind, Except.map, hfits, pure, Except.pure, entry]

theorem put_realizes (now : Nat) (key : String) (value : α) :
    (put now key value).Realizes fun c => c.put now key value :=
  insert_realizes now key value {} true

/-! ### Directories -/

/-- Runs a program on the cache of a kind. -/
def onCache (kind : EntityKind) (u : InPlace (Cache kind.Entity) CacheError Unit) :
    InPlace Directory UpdateError Unit :=
  ExceptT.mk fun d =>
    let (result, c) := u.runOn (d.cache kind)
    (result.mapError .cache, d.withCache kind c)

/-- Takes what the repository has answered. -/
def lookUp (r : Except RepositoryError α) : InPlace Directory UpdateError α :=
  answer (r.mapError .repository)

def store (now : Nat) (kind : EntityKind) (v : kind.Entity) : InPlace Directory UpdateError Unit :=
  onCache kind (put now (kind.idOf v) v)

def forget (kind : EntityKind) (id : String) : InPlace Directory UpdateError Unit :=
  modify fun d => (d.remove kind id).2

/-- Stores what the repository has under an id, or forgets the id when it has nothing. -/
def settle (now : Nat) (kind : EntityKind) (id : String) :
    Option kind.Entity → InPlace Directory UpdateError Unit
  | some v => store now kind v
  | none => forget kind id

def apply (now : Nat) (p : Repository) : Command → InPlace Directory UpdateError Unit
  | .flush kind id => forget kind id
  | .deleteAccount id => forget .account id
  | .add .account id => do settle now .account id (← lookUp (p.account id))
  | .add .apiKey key => do settle now .apiKey key (← lookUp (p.apiKey key))
  | .add .sensor id => do
    match ← lookUp (p.sensor id) with
    | none => forget .sensor id
    | some s =>
      let triggers ← lookUp (p.triggersFor id)
      store now .sensor (if triggers.isEmpty then s else { s with triggers := some triggers })
  | .addRoute r => modify fun d => (d.addRoute r).2
  | .removeRoute r => modify fun d => (d.removeRoute r).2
  | .sync sets => sets.forM fun set => modify fun d => (d.sync set).2

theorem onCache_realizes (kind : EntityKind) {u : InPlace (Cache kind.Entity) CacheError Unit}
    {f : Cache kind.Entity → Except CacheError (Cache kind.Entity)} (h : u.Realizes f) :
    (onCache kind u).Realizes fun d =>
      ((f (d.cache kind)).map (d.withCache kind)).mapError UpdateError.cache := by
  intro d
  change ((u.runOn (d.cache kind)).1.mapError UpdateError.cache,
    d.withCache kind (u.runOn (d.cache kind)).2) = wholly d (((f (d.cache kind)).map _).mapError _)
  rw [h]
  cases f (d.cache kind) with
  | ok c => rfl
  | error e =>
    change (_, d.withCache kind (d.cache kind)) = _
    rw [Directory.withCache_cache]
    rfl

theorem store_realizes (now : Nat) (kind : EntityKind) (v : kind.Entity) :
    (store now kind v).Realizes fun d => (d.put now kind v).mapError UpdateError.cache := by
  have hput := onCache_realizes kind (put_realizes now (kind.idOf v) v)
  simp only [← Directory.put_eq] at hput
  exact hput

theorem settle_realizes (now : Nat) (kind : EntityKind) (id : String)
    (r : Except RepositoryError (Option kind.Entity)) :
    (lookUp r >>= settle now kind id).Realizes fun d => d.settle kind id (d.put now kind) r := by
  intro d
  rcases r with e | _ | v
  · rfl
  · rfl
  · exact store_realizes now kind v d

/-- A command fails before it changes anything, or not at all. -/
theorem apply_realizes (now : Nat) (p : Repository) (c : Command) :
    (apply now p c).Realizes fun d => d.apply now p c := by
  cases c with
  | add kind id =>
    cases kind with
    | account => exact settle_realizes now .account id (p.account id)
    | apiKey => exact settle_realizes now .apiKey id (p.apiKey id)
    | sensor =>
      intro d
      rcases hsensor : p.sensor id with e | _ | s
      · simp only [apply, Directory.apply, Directory.fetchSensor, hsensor]
        rfl
      · simp only [apply, Directory.apply, Directory.fetchSensor, hsensor]
        rfl
      · rcases htriggers : p.triggersFor id with e | triggers
        · simp only [apply, Directory.apply, Directory.fetchSensor, hsensor, htriggers]
          rfl
        · simp only [apply, Directory.apply, Directory.fetchSensor, hsensor, htriggers]
          exact store_realizes now .sensor _ d
  | sync sets => exact realizes_forM (fun (d : Directory) set => (d.sync set).2) sets
  | flush | deleteAccount | addRoute | removeRoute => exact realizes_modify _

end InPlace

/-- Handles a written command by changing the directory in place. -/
def ManagedDirectory.handleInPlace (m : ManagedDirectory) (now : Nat) (p : Repository)
    (payload : ByteArray) : ManagedDirectory × Except UpdateError Unit :=
  let command := (Command.ofBytes payload).mapError UpdateError.command
  let (result, directory) := (InPlace.answer command >>= InPlace.apply now p).runOn m.directory
  let counts := match result with
    | .ok () => { m.counts with applied := m.counts.applied + 1 }
    | .error _ => { m.counts with failed := m.counts.failed + 1 }
  ({ directory, counts }, result)

theorem ManagedDirectory.handleInPlace_eq (m : ManagedDirectory) (now : Nat) (p : Repository)
    (payload : ByteArray) : m.handleInPlace now p payload = m.handle now p payload := by
  have hupdate := InPlace.realizes_answer ((Command.ofBytes payload).mapError UpdateError.command)
    (InPlace.apply_realizes now p) m.directory
  simp only [handleInPlace, hupdate, handle]
  cases (Command.ofBytes payload).mapError UpdateError.command >>= m.directory.apply now p <;> rfl

end SensorRouter
