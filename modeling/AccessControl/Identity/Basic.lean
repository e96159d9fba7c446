/-!
# Identities and kinds of keys

An identity is what a token stands for: the id and the email of the account it was issued to.
-/

namespace AccessControl

/-- The caller of one request. -/
structure Identity where
  id : String
  email : String
deriving DecidableEq, Repr

/-- What a key is good for, and so how long it lives. -/
inductive KeyKind where
  /-- A key handed out on login. -/
  | user
  /-- A short-lived key for setting a new password. -/
  | recovery
  /-- A long-lived key. -/
  | api
deriving DecidableEq, Repr

/-- The name of a kind. -/
def KeyKind.name : KeyKind → String
  | .user => "user"
  | .recovery => "recovery"
  | .api => "api"

/-- All kinds. -/
def KeyKind.all : List KeyKind :=
  [.user, .recovery, .api]

end AccessControl
