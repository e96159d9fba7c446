import AccessControl.Password.Argon2
import AccessControl.Password.Costs
import AccessControl.Password.HashString

/-!
# Hashing and comparing passwords

A password is hashed with Argon2 and kept as a hash string. The string says all that is needed to
compare a password with it, but for the secret of the one who made it.

`comparePassword` computes the tag of a password again: what a hash string says takes the place of
what the hasher would ask for itself.
-/

namespace AccessControl

open AccessControl.Password (Argon2.Request Argon2.Variant)
open AccessControl.Decimal
open AccessControl.Text

/-- The name of a variant in hash strings. -/
def Password.Argon2.Variant.name : Argon2.Variant → List Char
  | .dependent => "argon2d".toList
  | .independent => "argon2i".toList
  | .hybrid => "argon2id".toList

/-- The variant of a name. -/
def Password.Argon2.Variant.ofName? (name : List Char) : Option Argon2.Variant :=
  [.dependent, .independent, .hybrid].find? (·.name == name)

/-- The version in which hashes are made. -/
def Password.Argon2.currentVersion : Nat := 19

/-- A salt. Its text has to fit a hash string. -/
structure Salt where
  bytes : List UInt8
  three_le : 3 ≤ bytes.length
  le_fortyEight : bytes.length ≤ 48
deriving DecidableEq, Repr

/-- The most bytes that a password may have. -/
def longestPassword : Nat := 4294967295

/-- The tag of a password under a salt, or what is told of the failure. The password is checked
first. -/
def Password.Argon2.Request.tagOf (r : Argon2.Request) (password : String) (salt : List UInt8) :
    Except String (List UInt8) :=
  if longestPassword < password.utf8ByteSize then .error "invalid password"
  else if salt.length < 8 then .error (FormError.invalidSalt .tooShort).message
  else .ok (r.tag password.toUTF8.toList salt)

/-- What hashes of the given costs ask for. -/
def Costs.request (c : Costs) : Argon2.Request where
  variant := .hybrid
  version := Password.Argon2.currentVersion
  memory := c.memory.toNat
  passes := c.passes.toNat
  lanes := c.lanes.toNat
  tagSize := 32

/-- The costs as parameters of a hash string. -/
def Costs.params (c : Costs) : List (List Char × List Char) :=
  [(['m'], ofNat c.memory.toNat), (['t'], ofNat c.passes.toNat), (['p'], ofNat c.lanes.toNat)]

/-- What stands in hash strings of the given costs before the salt. -/
def Costs.hashHeader (c : Costs) : HashString where
  algorithm := Argon2.Variant.hybrid.name
  version := some Password.Argon2.currentVersion
  params := c.params

/-- The hash string of the given costs with a salt and a tag. -/
def Costs.hashString (c : Costs) (salt : Salt) (tag : List UInt8) : HashString :=
  { c.hashHeader with salt := some (Base64.encode salt.bytes), tag := some tag }

/-- The text to be stored for a password. -/
def Costs.hash (c : Costs) (salt : Salt) (password : String) : Except HashError String :=
  match c.request.tagOf password salt.bytes with
  | .error text => .error (.failed text)
  | .ok tag => .ok (String.ofList (c.hashString salt tag).toChars)

/-- The part of stored texts that the costs alone decide. -/
def Costs.hashPrefix (c : Costs) : String :=
  String.ofList c.hashHeader.toChars

/-! ## Comparing -/

/-- Parameters as far as they have been read. -/
structure Recipe where
  memory : UInt32 := Costs.standard.memory
  passes : UInt32 := Costs.standard.passes
  lanes : UInt32 := Costs.standard.lanes
  associated : List UInt8 := []
deriving DecidableEq, Repr

/-- Takes up one parameter. The name of a key may be given, but keys are not used. -/
def Recipe.add? (r : Recipe) : List Char × List Char → Option Recipe
  | (['m'], text) => do return { r with memory := ← (HashString.number text).toOption }
  | (['t'], text) => do return { r with passes := ← (HashString.number text).toOption }
  | (['p'], text) => do return { r with lanes := ← (HashString.number text).toOption }
  | (['d', 'a', 't', 'a'], text) => do
    let bytes ← Base64.decode? text
    if bytes.length ≤ 32 then return { r with associated := bytes } else none
  | (['k', 'e', 'y', 'i', 'd'], text) => do
    let bytes ← Base64.decode? text
    if bytes.length ≤ 8 then return r else none
  | _ => none

/-- What a hash string asks for in place of what a hasher has of its own, with its salt and tag. The
secret stays that of the hasher. -/
def HashString.request? (h : HashString) (own : Argon2.Request) :
    Option (Argon2.Request × List UInt8 × List UInt8) := do
  let salt ← h.salt
  let tag ← h.tag
  let recipe ← h.params.foldlM Recipe.add? {}
  let costs ← (Costs.check recipe.memory recipe.passes recipe.lanes).toOption
  let variant ← Argon2.Variant.ofName? h.algorithm
  let version := h.version.getD Password.Argon2.currentVersion
  let salt ← Base64.decode? salt
  if version = 16 ∨ version = 19 then
    return ({ own with
      variant, version
      memory := costs.memory.toNat, passes := costs.passes.toNat, lanes := costs.lanes.toNat
      tagSize := tag.length, associated := recipe.associated }, salt, tag)
  else
    none

/-- Whether a hash string is one of a password, as far as a hasher can tell. -/
def HashString.verifies (h : HashString) (own : Argon2.Request) (password : String) : Bool :=
  match h.request? own with
  | some (request, salt, tag) =>
    match request.tagOf password salt with
    | .ok computed => computed == tag
    | .error _ => false
  | none => false

/-- Compares a password with a stored text. -/
def comparePassword (own : Argon2.Request) (password stored : String) : Except HashError Unit :=
  match HashString.ofChars stored.toList with
  | .error e => .error (.malformedHash e.message)
  | .ok h => if h.verifies own password then .ok () else .error .mismatch

end AccessControl
