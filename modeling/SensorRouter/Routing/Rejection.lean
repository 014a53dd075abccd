import SensorRouter.Number.Form

/-!
Why a message is dropped: it is not valid, or its sender may not send it.
-/

namespace SensorRouter

inductive ValidationError where
  | latitude (found : Double)
  | longitude (found : Double)
  | dataPoints (count greatest : Nat)
  deriving DecidableEq

def ValidationError.message : ValidationError → String
  | .latitude found => "latitude " ++ NumberForm.prose.text found ++ " out of range"
  | .longitude found => "longitude " ++ NumberForm.prose.text found ++ " out of range"
  | .dataPoints count greatest =>
    toString count ++ " data points exceeds maximum of " ++ toString greatest

inductive AuthorizationError where
  | unknownSensor (id : String)
  | unknownAccount (id : String)
  | accountBanned
  | billingLockout
  | unknownApiKey
  | apiKeyRevoked
  | apiKeyForeign
  | apiKeyReadOnly
  deriving DecidableEq, Repr

def AuthorizationError.message : AuthorizationError → String
  | .unknownSensor id => "unknown sensor " ++ id
  | .unknownAccount id => "unknown account " ++ id
  | .accountBanned => "account is banned"
  | .billingLockout => "account is under billing lockout"
  | .unknownApiKey => "unknown api key"
  | .apiKeyRevoked => "api key is revoked"
  | .apiKeyForeign => "api key belongs to a different account"
  | .apiKeyReadOnly => "api key is read-only"

inductive Rejection where
  | invalid (e : ValidationError)
  | unauthorized (e : AuthorizationError)
  deriving DecidableEq

namespace Rejection

def message : Rejection → String
  | invalid e => "validation failed: " ++ e.message
  | unauthorized e => "authorization failed: " ++ e.message

def isInvalid : Rejection → Bool
  | invalid _ => true
  | unauthorized _ => false

end Rejection

example : (Rejection.invalid (.latitude (.ofNat 200))).message =
    "validation failed: latitude 200 out of range" := by decide +kernel

end SensorRouter
