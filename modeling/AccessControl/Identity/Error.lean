import AccessControl.Identity.Claims
import AccessControl.Policy.Error

/-!
# Refusals of the identity service

A refusal of the policy agent shows through unchanged: its message and its causes are those of the
agent's refusal.
-/

namespace AccessControl

/-- What is wrong with a request to the identity service. -/
inductive Malformation where
  | noSubjects
  | noPolicies
  | emptyObject
  /-- A key was asked for without an id or without an email. -/
  | keyWithoutOwner
  /-- The key would expire beyond the representable dates. -/
  | lifetimeOutOfRange (kind : KeyKind)
deriving DecidableEq, Repr

/-- What is told of it. -/
def Malformation.message : Malformation → String
  | .noSubjects => "no subjects"
  | .noPolicies => "no policies"
  | .emptyObject => "empty object"
  | .keyWithoutOwner => "key requires id and email"
  | .lifetimeOutOfRange kind => kind.name ++ " key lifetime out of range"

/-- The refusal of the identity service. -/
inductive IdentityError where
  | unauthorized
  | invalidToken (error : ClaimsError)
  | malformedEntity (error : Malformation)
  | authorization (error : PolicyError)
  | unavailable
deriving DecidableEq, Repr

/-- What is told of a refusal. -/
def IdentityError.message : IdentityError → String
  | .unauthorized => "missing or invalid credentials provided"
  | .invalidToken error => "invalid token: " ++ error.message
  | .malformedEntity error => "malformed entity specification: " ++ error.message
  | .authorization error => error.message
  | .unavailable => "identity store unavailable"

/-- What is told of the causes, outermost first. -/
def IdentityError.chain : IdentityError → List String
  | .invalidToken error => [error.message]
  | .authorization error => error.chain
  | _ => []

end AccessControl
