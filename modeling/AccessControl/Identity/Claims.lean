import AccessControl.Identity.Basic
import AccessControl.Calendar.Timestamp

/-!
# The claims behind a key

A token is opaque; what it stands for are its claims. A key is alive from the moment of its issue,
inclusive, to its expiry, exclusive, and a key whose expiry does not come after its issue is never
alive.
-/

namespace AccessControl

open AccessControl.Calendar

/-- What is recorded of an issued key. -/
structure KeyClaims where
  id : String
  email : String
  kind : KeyKind
  issuedAt : Timestamp
  expiresAt : Timestamp
deriving DecidableEq, Repr

/-- Why a key is not alive. -/
inductive ClaimsError where
  | expired
  | notYetValid
  | invalidWindow
deriving DecidableEq, Repr

/-- What is told of the failure. -/
def ClaimsError.message : ClaimsError → String
  | .expired => "token has expired"
  | .notYetValid => "token not yet valid (issued_at is in the future)"
  | .invalidWindow => "invalid token time window (expires_at <= issued_at)"

/-- Whether a key that fails so can still come to life. -/
def ClaimsError.isFinal : ClaimsError → Bool
  | .notYetValid => false
  | _ => true

namespace KeyClaims

/-- The identity a key stands for. -/
def identity (claims : KeyClaims) : Identity :=
  ⟨claims.id, claims.email⟩

/-- Checks that the key is alive at `now`. -/
def validate (claims : KeyClaims) (now : Timestamp) : Except ClaimsError Unit :=
  if claims.expiresAt ≤ claims.issuedAt then .error .invalidWindow
  else if now < claims.issuedAt then .error .notYetValid
  else if claims.expiresAt ≤ now then .error .expired
  else .ok ()

/-- The key is alive at `now`. -/
def Alive (claims : KeyClaims) (now : Timestamp) : Prop :=
  claims.issuedAt ≤ now ∧ now < claims.expiresAt

end KeyClaims

end AccessControl
