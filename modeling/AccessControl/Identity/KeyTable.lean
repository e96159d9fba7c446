import AccessControl.Identity.Error

/-!
# The table of issued keys

The table maps tokens to claims, each token at most once. Keys leave the table when they are
revoked, when they are met dead on being resolved, and in a sweep of all dead keys whenever a new
key is enrolled. A key that is not yet alive is kept.
-/

namespace AccessControl

open AccessControl.Calendar

/-- Issued keys by token. -/
structure KeyTable where
  keys : List (String × KeyClaims)
deriving DecidableEq, Repr

namespace KeyTable

/-- The table without keys. -/
def empty : KeyTable :=
  ⟨[]⟩

/-- The claims of a token. -/
def get? (table : KeyTable) (token : String) : Option KeyClaims :=
  (table.keys.find? (·.1 == token)).map (·.2)

/-- The table without a token. -/
def erase (table : KeyTable) (token : String) : KeyTable :=
  ⟨table.keys.filter (·.1 != token)⟩

/-- The table with a token bound to claims, in place of earlier ones. -/
def insert (table : KeyTable) (token : String) (claims : KeyClaims) : KeyTable :=
  ⟨(table.erase token).keys ++ [(token, claims)]⟩

/-- The table without the keys whose expiry is not after `now`. -/
def sweep (table : KeyTable) (now : Timestamp) : KeyTable :=
  ⟨table.keys.filter fun (_, claims) => now < claims.expiresAt⟩

/-- Enrolls a new key, after a sweep at the moment of its issue. -/
def enroll (table : KeyTable) (token : String) (claims : KeyClaims) : KeyTable :=
  (table.sweep claims.issuedAt).insert token claims

/-- The identity a token stands for at `now`, and the table after the look: a key that can never
come to life again is dropped. -/
def resolve (table : KeyTable) (token : String) (now : Timestamp) :
    Except IdentityError Identity × KeyTable :=
  if token = "" then
    (.error .unauthorized, table)
  else
    match table.get? token with
    | none => (.error .unauthorized, table)
    | some claims =>
      match claims.validate now with
      | .ok () => (.ok claims.identity, table)
      | .error e => (.error (.invalidToken e), if e.isFinal then table.erase token else table)

/-- Forgets a token; answers whether it was there. -/
def revoke (table : KeyTable) (token : String) : Bool × KeyTable :=
  ((table.get? token).isSome, table.erase token)

end KeyTable

/-- How long keys of each kind live, in seconds. -/
structure KeyLifetimes where
  user : Int
  recovery : Int
  api : Int
deriving DecidableEq, Repr

namespace KeyLifetimes

/-- Ten hours, five minutes and a year. -/
def standard : KeyLifetimes :=
  ⟨36000, 300, 31536000⟩

/-- The lifetime of keys of a kind. -/
def of (lifetimes : KeyLifetimes) : KeyKind → Duration
  | .user => Duration.ofSeconds lifetimes.user
  | .recovery => Duration.ofSeconds lifetimes.recovery
  | .api => Duration.ofSeconds lifetimes.api

end KeyLifetimes

end AccessControl
