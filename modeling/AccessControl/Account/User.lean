import AccessControl.Account.Email
import AccessControl.Account.Error
import AccessControl.Json.Value

/-!
# User records

A stored record holds the hash of the password. What is handed to callers is redacted: its password
is empty.
-/

namespace AccessControl

/-- Free-form data about a user, the entries of a JSON object sorted by key. -/
abbrev Metadata := Json.Entries

/-- A user account. -/
structure User where
  id : String := ""
  email : String := ""
  password : String := ""
  metadata : Metadata := []
deriving DecidableEq, Repr, Inhabited

namespace User

/-- The record without its password. -/
def redacted (user : User) : User :=
  { user with password := "" }

/-- Checks what a registration needs: an email address and a password. -/
def validate (user : User) : Except AccountError Unit :=
  if !Email.isEmail user.email.toList then .error (.bare .malformedEntity)
  else if user.password = "" then .error (.bare .malformedEntity)
  else .ok ()

end User

end AccessControl
