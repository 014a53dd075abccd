import SensorRouter.Directory.Basic
import SensorRouter.Routing.Rejection

/-!
Authorization: a sensor may send when its account is in order and its own API key, and the key that
the message presents, allow writing for that account. What the directory does not know is refused.
-/

namespace SensorRouter

/-- An account that may not be used; a ban is told before a lockout. -/
def Account.authorize (a : Account) : Except AuthorizationError Unit :=
  if a.isUsable then .ok ()
  else .error (if a.banned then .accountBanned else .billingLockout)

/-- Whether a key allows writing for an account. -/
def ApiKey.authorize (k : ApiKey) (accountId : String) : Except AuthorizationError Unit :=
  if k.revoked then .error .apiKeyRevoked
  else if k.accountId ≠ accountId then .error .apiKeyForeign
  else if k.readOnly then .error .apiKeyReadOnly
  else .ok ()

namespace Directory

/-- Looks up keys in order, each of which must allow writing for an account. -/
def authorizeKeys (d : Directory) (now : Nat) (accountId : String) :
    List String → Except AuthorizationError Unit × Directory
  | [] => (.ok (), d)
  | key :: rest =>
    match d.findApiKey now key with
    | .error _ => (.error .unknownApiKey, d)
    | .ok (apiKey, d) =>
      match apiKey.authorize accountId with
      | .error e => (.error e, d)
      | .ok () => authorizeKeys d now accountId rest

/-- The sensor of an id if it may send, presenting a key or none. Every lookup is a use. -/
def authorize (d : Directory) (now : Nat) (sensorId : String) (presented : Option String) :
    Except AuthorizationError Sensor × Directory :=
  match d.findSensor now sensorId with
  | .error _ => (.error (.unknownSensor sensorId), d)
  | .ok (sensor, d) =>
    match d.findAccount now sensor.accountId with
    | .error _ => (.error (.unknownAccount sensor.accountId), d)
    | .ok (account, d) =>
      match account.authorize with
      | .error e => (.error e, d)
      | .ok () =>
        let keys := sensor.secret :: presented.toList.filter (· ≠ sensor.secret)
        let (result, d) := d.authorizeKeys now sensor.accountId keys
        (result.map fun () => sensor, d)

end Directory

end SensorRouter
