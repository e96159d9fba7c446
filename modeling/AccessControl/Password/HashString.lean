import AccessControl.Decimal.Digits
import AccessControl.Text.Base64

/-!
# Hash strings

A stored hash is a text of fields, each behind a `$`: the name of the algorithm, its version, its
parameters, the salt, and the tag. All fields but the first may be missing, but a tag stands behind
a salt only.

`HashString.toChars` writes a hash string and `HashString.ofChars` reads one. The reader checks the
form of each field; whether the algorithm and its parameters mean anything is not its concern.
-/

namespace AccessControl

open AccessControl.Decimal
open AccessControl.Text

/-- What is wrong with a value. -/
inductive ValueFault where
  | invalidChar (c : Char)
  | invalidFormat
  | malformed
  | tooLong
  | tooShort
deriving DecidableEq, Repr

/-- What is told of the fault. -/
def ValueFault.message : ValueFault → String
  | .invalidChar c => "contains invalid character: '" ++ String.singleton c ++ "'"
  | .invalidFormat => "value format is invalid"
  | .malformed => "value malformed"
  | .tooLong => "value to long"
  | .tooShort => "value to short"

/-- Why a text is no hash string. -/
inductive FormError where
  | missingField
  | invalidName
  | invalidValue (fault : ValueFault)
  | tooManyParameters
  | invalidSalt (fault : ValueFault)
  | invalidEncoding
  | tagTooShort
  | trailingFields
deriving DecidableEq, Repr

/-- What is told of the failure. -/
def FormError.message : FormError → String
  | .missingField => "password hash string missing field"
  | .invalidName => "invalid parameter name"
  | .invalidValue fault => "invalid parameter value: " ++ fault.message
  | .tooManyParameters => "maximum number of parameters reached"
  | .invalidSalt fault => "salt invalid: " ++ fault.message
  | .invalidEncoding => "invalid Base64 encoding"
  | .tagTooShort => "output size too short, expected at least 10 bytes"
  | .trailingFields => "password hash string contains trailing characters"

/-- A hash string by its fields. -/
structure HashString where
  algorithm : List Char
  version : Option Nat := none
  params : List (List Char × List Char) := []
  salt : Option (List Char) := none
  /-- The salted hash itself. -/
  tag : Option (List UInt8) := none
deriving DecidableEq, Repr

namespace HashString

/-! ## Writing -/

/-- The text of a parameter. -/
def paramText (param : List Char × List Char) : List Char :=
  param.1 ++ '=' :: param.2

/-- The texts of the fields. -/
def fields (h : HashString) : List (List Char) :=
  h.algorithm :: (h.version.map fun n => 'v' :: '=' :: ofNat n).toList ++
    (if h.params.isEmpty then [] else [[','].intercalate (h.params.map paramText)]) ++
    h.salt.toList ++ (h.tag.map Base64.encode).toList

/-- The text of a hash string. -/
def toChars (h : HashString) : List Char :=
  h.fields.flatMap ('$' :: ·)

/-! ## Reading -/

/-- Whether a character may stand in a name. -/
def isNameChar (c : Char) : Bool :=
  c.isLower || c.isDigit || c == '-'

/-- Whether a character may stand in a value. -/
def isValueChar (c : Char) : Bool :=
  c.isAlphanum || c == '/' || c == '+' || c == '.' || c == '-'

/-- Checks a name: one to 32 characters. -/
def name (cs : List Char) : Except FormError (List Char) :=
  if cs.isEmpty ∨ 32 < cs.length ∨ ¬ cs.all isNameChar then .error .invalidName else .ok cs

/-- Checks a value: at most 64 characters. -/
def value (cs : List Char) : Except ValueFault (List Char) :=
  if 64 < cs.length then .error .tooLong
  else
    match cs.find? (!isValueChar ·) with
    | some c => .error (.invalidChar c)
    | none => .ok cs

/-- Reads a number of 32 bits, without sign or leading zeros. -/
def number (cs : List Char) : Except ValueFault UInt32 :=
  if cs.isEmpty then .error .malformed
  else
    match cs.find? (!Char.isDigit ·) with
    | some c => .error (.invalidChar c)
    | none =>
      if cs.head? = some '0' ∧ 1 < cs.length then .error .invalidFormat
      else if Decimal.value cs < UInt32.size then .ok (UInt32.ofNat (Decimal.value cs))
      else .error .invalidFormat

/-- Reads a parameter. -/
def param (cs : List Char) : Except FormError (List Char × List Char) := do
  match cs.splitOn '=' with
  | [key, text] =>
    let key ← name key
    let text ← (value text).mapError .invalidValue
    return (key, text)
  | key :: text :: _ =>
    let _ ← name key
    let _ ← (value text).mapError .invalidValue
    throw (.invalidValue .malformed)
  | key =>
    let _ ← name (key.headD [])
    throw (.invalidValue .malformed)

/-- Reads a list of parameters: at most 127 characters. -/
def paramList (cs : List Char) : Except FormError (List (List Char × List Char)) :=
  if 127 < cs.length then .error .tooManyParameters
  else (cs.splitOn ',').mapM param

/-- Takes the version, if the next field is one. -/
def takeVersion : List (List Char) → Except FormError (Option Nat × List (List Char))
  | ('v' :: '=' :: text) :: fields =>
    if text.contains ',' then
      .ok (none, ('v' :: '=' :: text) :: fields)
    else do
      let n ← ((value text).bind number).mapError .invalidValue
      return (some n.toNat, fields)
  | fields => .ok (none, fields)

/-- Takes the parameters, if the next field holds any. -/
def takeParams :
    List (List Char) → Except FormError (List (List Char × List Char) × List (List Char))
  | field :: fields =>
    if field.contains '=' then do
      return (← paramList field, fields)
    else
      .ok ([], field :: fields)
  | [] => .ok ([], [])

/-- Checks a salt: four to 64 characters. -/
def saltField (cs : List Char) : Except FormError (List Char) :=
  if cs.length < 4 then .error (.invalidSalt .tooShort)
  else (value cs).mapError .invalidSalt

/-- Reads a tag: ten to 64 bytes. -/
def tagField (cs : List Char) : Except FormError (List UInt8) :=
  match Base64.decode? cs with
  | none => .error .invalidEncoding
  | some bytes =>
    if bytes.length < 10 then .error .tagTooShort
    else if 64 < bytes.length then .error .invalidEncoding
    else .ok bytes

/-- Reads the fields behind the first `$`. -/
def ofFields : List (List Char) → Except FormError HashString
  | [] => .error .missingField
  | algorithm :: fields => do
    let algorithm ← name algorithm
    let (version, fields) ← takeVersion fields
    let (params, fields) ← takeParams fields
    match fields with
    | [] => return { algorithm, version, params }
    | [salt] => return { algorithm, version, params, salt := some (← saltField salt) }
    | salt :: tag :: rest =>
      let salt ← saltField salt
      let tag ← tagField tag
      if rest.isEmpty then
        return { algorithm, version, params, salt := some salt, tag := some tag }
      else
        throw .trailingFields

/-- Reads a hash string. -/
def ofChars (cs : List Char) : Except FormError HashString :=
  match cs.splitOn '$' with
  | [] :: fields => ofFields fields
  | _ => .error .missingField

end HashString

end AccessControl
