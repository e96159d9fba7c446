import AccessControl.Account.User
import AccessControl.Action
import AccessControl.Page

/-!
# What the account service depends on

The service works through backing services: an identity service, a repository of user records, a
password hasher, a mailer and a source of ids. A `BackingCall` is one request to one of them; each
call has a type of answers and a type of failures. What stands behind the service is a function from
calls to actions, so that whatever holds of all calls, such as recording them or making them fail,
is said once.
-/

namespace AccessControl

/-- Which user records to list, and the window of the listing. -/
structure UserQuery where
  offset : Nat
  limit : Nat
  /-- Only records with one of these ids, if given. -/
  ids : Option (List String) := none
  /-- Only records whose email holds this text, if given. -/
  email : Option String := none
  /-- Only records whose metadata holds these entries. -/
  metadata : Metadata := []

/-- One request to a backing service. -/
inductive BackingCall where
  /-- Issues a key of a kind to an id and an email. -/
  | issue (id email : String) (kind : KeyKind)
  /-- Resolves a token. -/
  | identify (token : String)
  /-- Lists members of a group. -/
  | members (token group : String) (offset limit : Nat) (memberType : String)
  /-- Asks whether a tuple holds. -/
  | authorize (tuple : RelationTuple)
  /-- Grants a tuple. -/
  | addPolicy (tuple : RelationTuple)
  /-- Stores a new record. -/
  | save (user : User)
  /-- Replaces the metadata of the record with the email of the given one. -/
  | updateUser (user : User)
  /-- Looks a record up by its email. -/
  | byEmail (email : String)
  /-- Looks a record up by its id. -/
  | byId (id : String)
  /-- Lists records. -/
  | list (query : UserQuery)
  /-- Replaces the password hash of a record. -/
  | updatePassword (email hash : String)
  /-- Hashes a password. -/
  | hash (password : String)
  /-- Checks a password against a hash. -/
  | compare (password hash : String)
  /-- Mails a token for a password reset. -/
  | sendReset (recipients : List String) (host token : String)
  /-- Draws an id for a new record. -/
  | freshId

namespace BackingCall

/-- What a call answers. -/
@[reducible] def Answer : BackingCall → Type
  | issue .. => String
  | identify _ => Identity
  | members .. => List String
  | authorize _ => Bool
  | addPolicy _ => Bool
  | save _ => String
  | updateUser _ => Unit
  | byEmail _ => User
  | byId _ => User
  | list _ => Page User
  | updatePassword .. => Unit
  | hash _ => String
  | compare .. => Unit
  | sendReset .. => Unit
  | freshId => String

/-- How a call fails. -/
@[reducible] def Failure : BackingCall → Type
  | issue .. => IdentityError
  | identify _ => IdentityError
  | members .. => IdentityError
  | authorize _ => IdentityError
  | addPolicy _ => IdentityError
  | save _ => AccountError
  | updateUser _ => AccountError
  | byEmail _ => AccountError
  | byId _ => AccountError
  | list _ => AccountError
  | updatePassword .. => AccountError
  | hash _ => HashError
  | compare .. => HashError
  | sendReset .. => String
  | freshId => String

end BackingCall

/-- What stands behind the account service, with a state `σ`. -/
def Backing (σ : Type) : Type :=
  (call : BackingCall) → Action σ call.Failure call.Answer

end AccessControl
