import AccessControl.Identity.Error
import AccessControl.Password.Error

/-!
# Failures of the account service

Callers branch on the kind of a failure only. The failure that was met underneath is kept as its
cause; it shows in `AccountError.chain` and never in the kind or the message.
-/

namespace AccessControl

/-- The kinds of failure that callers tell apart. -/
inductive ErrorKind where
  | conflict
  | groupConflict
  | malformedEntity
  | unauthorized
  | authorization
  | notFound
  | userNotFound
  | scanMetadata
  | missingEmail
  | missingResetToken
  | recoveryToken
  | getToken
  | createUser
  | passwordFormat
  | emailDelivery
  | unavailable
deriving DecidableEq, Repr

namespace ErrorKind

/-- All kinds. -/
def all : List ErrorKind :=
  [.conflict, .groupConflict, .malformedEntity, .unauthorized, .authorization, .notFound,
    .userNotFound, .scanMetadata, .missingEmail, .missingResetToken, .recoveryToken, .getToken,
    .createUser, .passwordFormat, .emailDelivery, .unavailable]

/-- What is told of a failure of this kind. -/
def message : ErrorKind → String
  | .conflict => "email already taken"
  | .groupConflict => "group already exists"
  | .malformedEntity => "malformed entity specification"
  | .unauthorized => "missing or invalid credentials provided"
  | .authorization => "failed to perform authorization over the entity"
  | .notFound => "non-existent entity"
  | .userNotFound => "non-existent user"
  | .scanMetadata => "failed to scan metadata"
  | .missingEmail => "missing email for password reset"
  | .missingResetToken => "missing reset token"
  | .recoveryToken => "failed to generate password recovery token"
  | .getToken => "failed to fetch signed token"
  | .createUser => "failed to create user"
  | .passwordFormat => "password does not meet the requirements"
  | .emailDelivery => "failed to deliver password reset email"
  | .unavailable => "user store unavailable"

end ErrorKind

/-- A failure of the account service: its kind, bare or with the failure met underneath. -/
inductive AccountError where
  | bare (kind : ErrorKind)
  | byIdentity (kind : ErrorKind) (cause : IdentityError)
  | byAccount (kind : ErrorKind) (cause : AccountError)
  | byHash (kind : ErrorKind) (cause : HashError)
  | byNote (kind : ErrorKind) (cause : String)
deriving DecidableEq, Repr

namespace AccountError

/-- The kind of a failure. -/
def kind : AccountError → ErrorKind
  | bare kind => kind
  | byIdentity kind _ => kind
  | byAccount kind _ => kind
  | byHash kind _ => kind
  | byNote kind _ => kind

/-- What is told of a failure. -/
def message (error : AccountError) : String :=
  error.kind.message

/-- What is told of the causes, outermost first. -/
def chain : AccountError → List String
  | bare _ => []
  | byIdentity _ cause => cause.message :: cause.chain
  | byAccount _ cause => cause.message :: cause.chain
  | byHash _ cause => [cause.message]
  | byNote _ cause => [cause]

end AccountError

end AccessControl
