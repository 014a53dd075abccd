import SensorRouter.Proofs.Directory.Lookup
import SensorRouter.Routing.Authorization

/-!
When authorization succeeds: the sensor, its account, its secret and the key presented are all known
and in order. Authorization only uses the directory, and so leaves every lookup as it was.
-/

namespace SensorRouter

/-- The key allows writing for an account. -/
def ApiKey.Writes (k : ApiKey) (accountId : String) : Prop :=
  k.revoked = false ∧ k.accountId = accountId ∧ k.readOnly = false

theorem ApiKey.authorize_eq_ok_iff (k : ApiKey) (accountId : String) :
    k.authorize accountId = .ok () ↔ k.Writes accountId := by
  unfold ApiKey.authorize Writes
  cases k.revoked <;> by_cases haccount : k.accountId = accountId <;> cases k.readOnly <;>
    simp [haccount]

theorem Account.authorize_eq_ok_iff (a : Account) : a.authorize = .ok () ↔ a.isUsable := by
  unfold Account.authorize
  split <;> simp_all

namespace Directory

/-- The directory knows a key, which allows writing for an account. -/
def KeyPasses (d : Directory) (accountId key : String) : Prop :=
  ∃ k, d.lookup .apiKey key = some k ∧ k.Writes accountId

/-- The sensor of an id may send, presenting a key or none. -/
structure Admits (d : Directory) (sensorId : String) (presented : Option String) (s : Sensor) :
    Prop where
  sensor : d.lookup .sensor sensorId = some s
  account : ∃ a, d.lookup .account s.accountId = some a ∧ a.isUsable
  secret : d.KeyPasses s.accountId s.secret
  presented : ∀ key ∈ presented, d.KeyPasses s.accountId key

theorem keyPasses_use (d : Directory) (now : Nat) (kind : EntityKind) (id accountId key : String) :
    (d.use now kind id).KeyPasses accountId key ↔ d.KeyPasses accountId key := by
  simp only [KeyPasses, lookup_use]

theorem authorizeKeys_eq_ok_iff (d : Directory) (now : Nat) (accountId : String)
    (keys : List String) :
    (d.authorizeKeys now accountId keys).1 = .ok () ↔ ∀ key ∈ keys, d.KeyPasses accountId key := by
  induction keys generalizing d with
  | nil => simp [authorizeKeys]
  | cons key rest ih =>
    rw [List.forall_mem_cons, authorizeKeys, findApiKey_eq]
    cases hlookup : d.lookup .apiKey key with
    | none => simp [KeyPasses, hlookup]
    | some k =>
      have hkey : d.KeyPasses accountId key ↔ k.Writes accountId := by
        simp [KeyPasses, hlookup]
      rw [hkey, ← ApiKey.authorize_eq_ok_iff]
      simp only
      cases k.authorize accountId with
      | error e => simp
      | ok _ => simp [ih, keyPasses_use]

theorem authorizeKeys_used (d : Directory) (now : Nat) (accountId : String) (keys : List String) :
    Used now d (d.authorizeKeys now accountId keys).2 := by
  induction keys generalizing d with
  | nil => exact .refl
  | cons key rest ih =>
    rw [authorizeKeys, findApiKey_eq]
    rcases d.lookup .apiKey key with _ | k
    · exact .refl
    have honce : Used now d (d.use now .apiKey key) := .once ..
    simp only
    rcases k.authorize accountId with e | _
    · exact honce
    · exact honce.trans (ih _)

/-- The keys that authorization checks: the secret, then a key presented that is another one. -/
def checkedKeys (secret : String) (presented : Option String) : List String :=
  secret :: presented.toList.filter (· ≠ secret)

theorem forall_checkedKeys (p : String → Prop) (secret : String) (presented : Option String) :
    (∀ key ∈ checkedKeys secret presented, p key) ↔ p secret ∧ ∀ key ∈ presented, p key := by
  rw [checkedKeys, List.forall_mem_cons]
  cases presented with
  | none => simp
  | some key => by_cases hkey : key = secret <;> simp [hkey]

/-- Once sensor and account are found, the keys decide. -/
theorem admits_iff_keys {d : Directory} {sensorId : String} {found : Sensor} {a : Account}
    (hsensor : d.lookup .sensor sensorId = some found)
    (haccount : d.lookup .account found.accountId = some a) (husable : a.isUsable)
    (presented : Option String) (s : Sensor) :
    d.Admits sensorId presented s ↔
      found = s ∧ ∀ key ∈ checkedKeys found.secret presented,
        d.KeyPasses found.accountId key := by
  rw [forall_checkedKeys]
  constructor
  · rintro ⟨hs, _, hsecret, hpresented⟩
    cases hsensor.symm.trans hs
    exact ⟨rfl, hsecret, hpresented⟩
  · rintro ⟨rfl, hsecret, hpresented⟩
    exact ⟨hsensor, ⟨a, haccount, husable⟩, hsecret, hpresented⟩

/-- Authorization succeeds exactly for what the directory admits. -/
theorem authorize_eq_ok_iff (d : Directory) (now : Nat) (sensorId : String)
    (presented : Option String) (s : Sensor) :
    (d.authorize now sensorId presented).1 = .ok s ↔ d.Admits sensorId presented s := by
  rw [authorize, findSensor_eq]
  rcases hsensor : d.lookup .sensor sensorId with _ | found
  · refine iff_of_false (by simp) fun h => ?_
    exact nomatch hsensor.symm.trans h.sensor
  simp only
  rw [findAccount_eq, lookup_use]
  rcases haccount : d.lookup .account found.accountId with _ | a
  · refine iff_of_false (by simp) fun ⟨hs, ⟨a, ha, _⟩, _, _⟩ => ?_
    cases hsensor.symm.trans hs
    exact nomatch haccount.symm.trans ha
  simp only
  rcases husable : a.authorize with e | _
  · refine iff_of_false (by simp) fun ⟨hs, ⟨a', ha, hok⟩, _, _⟩ => ?_
    cases hsensor.symm.trans hs
    cases haccount.symm.trans ha
    exact nomatch husable.symm.trans (a.authorize_eq_ok_iff.2 hok)
  let used := (d.use now .sensor sensorId).use now .account found.accountId
  let keys := checkedKeys found.secret presented
  have hkeys := used.authorizeKeys_eq_ok_iff now found.accountId keys
  simp only [used, keyPasses_use] at hkeys
  rw [admits_iff_keys hsensor haccount (a.authorize_eq_ok_iff.1 husable), ← hkeys]
  change Except.map (fun _ => found) (used.authorizeKeys now found.accountId keys).1 = _ ↔ _
  rcases (used.authorizeKeys now found.accountId keys).1 with e | _
  · simp [Except.map]
  · simp [Except.map]

theorem authorize_used (d : Directory) (now : Nat) (sensorId : String)
    (presented : Option String) : Used now d (d.authorize now sensorId presented).2 := by
  rw [authorize, findSensor_eq]
  rcases d.lookup .sensor sensorId with _ | s
  · exact .refl
  have hsensor : Used now d (d.use now .sensor sensorId) := .once ..
  simp only
  rw [findAccount_eq]
  rcases (d.use now .sensor sensorId).lookup .account s.accountId with _ | a
  · exact hsensor
  have haccount := hsensor.use .account s.accountId
  simp only
  rcases a.authorize with e | _
  · exact haccount
  · exact haccount.trans (authorizeKeys_used ..)

theorem used_of_authorize {d d' : Directory} {now : Nat} {sensorId : String}
    {presented : Option String} {result : Except AuthorizationError Sensor}
    (h : d.authorize now sensorId presented = (result, d')) : Used now d d' := by
  have hused := d.authorize_used now sensorId presented
  rwa [h] at hused

end Directory

end SensorRouter
