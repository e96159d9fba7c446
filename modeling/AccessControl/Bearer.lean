import AccessControl.Text.Basic

/-!
# Bearer tokens in an authorization header

The header names the scheme `Bearer`, in this spelling and followed by one space; the token is the
rest without the blanks at its ends. Blanks inside a token belong to it.
-/

namespace AccessControl

open AccessControl.Text

/-- Why a header carries no token. -/
inductive BearerError where
  | notBearer
  | empty
deriving DecidableEq, Repr

/-- What is told of the failure. -/
def BearerError.message : BearerError → String
  | .notBearer => "authorization header is not a bearer token"
  | .empty => "bearer token is empty"

/-- The scheme and the space behind it. -/
def bearerScheme : List Char :=
  ['B', 'e', 'a', 'r', 'e', 'r', ' ']

/-- The text behind the scheme, if the header starts with it. -/
def afterScheme? (header : List Char) : Option (List Char) :=
  if bearerScheme.isPrefixOf header then some (header.drop bearerScheme.length) else none

/-- The token of a header. -/
def bearerToken (header : String) : Except BearerError String :=
  match afterScheme? header.toList with
  | none => .error .notBearer
  | some rest =>
    match trim rest with
    | [] => .error .empty
    | c :: cs => .ok (String.ofList (c :: cs))

end AccessControl
