import AccessControl.Json.Shape
import AccessControl.Calendar.Rfc3339
import AccessControl.Identity.Claims

/-!
# The JSON forms of identities and key claims
-/

namespace AccessControl

open AccessControl.Json
open AccessControl.Calendar

/-- The kind of a given name. -/
def KeyKind.ofName? (name : String) : Option KeyKind :=
  KeyKind.all.find? (·.name == name)

instance : ToJson KeyKind := ⟨fun k => .string k.name⟩
instance : ToJson Timestamp := ⟨fun t => .string t.text⟩

/-- Reads a kind of keys. -/
def KeyKind.shape : Shape KeyKind :=
  Shape.choice KeyKind.ofName?

/-- Reads a timestamp. -/
def Calendar.Timestamp.shape : Shape Timestamp :=
  Shape.parsed Timestamp.ofText?

namespace Identity

instance : ToJson Identity where
  toJson i := .object [("id", toJson i.id), ("email", toJson i.email)]

/-- What has been read of an identity. -/
structure Draft where
  id : Option String := none
  email : Option String := none

/-- The fields of an identity. -/
def fields : List (Shape.Field Draft) :=
  [Shape.field "id" Shape.string (·.id) ({ · with id := some · }),
    Shape.field "email" Shape.string (·.email) ({ · with email := some · })]

/-- Reads an identity. -/
def shape : Shape Identity :=
  Shape.record fields {} fun d => do return ⟨← d.id, ← d.email⟩

end Identity

namespace KeyClaims

instance : ToJson KeyClaims where
  toJson c := .object [("id", toJson c.id), ("email", toJson c.email), ("kind", toJson c.kind),
    ("issued_at", toJson c.issuedAt), ("expires_at", toJson c.expiresAt)]

/-- What has been read of key claims. -/
structure Draft where
  id : Option String := none
  email : Option String := none
  kind : Option KeyKind := none
  issuedAt : Option Timestamp := none
  expiresAt : Option Timestamp := none

/-- The fields of key claims. -/
def fields : List (Shape.Field Draft) :=
  [Shape.field "id" Shape.string (·.id) ({ · with id := some · }),
    Shape.field "email" Shape.string (·.email) ({ · with email := some · }),
    Shape.field "kind" KeyKind.shape (·.kind) ({ · with kind := some · }),
    Shape.field "issued_at" Timestamp.shape (·.issuedAt) ({ · with issuedAt := some · }),
    Shape.field "expires_at" Timestamp.shape (·.expiresAt) ({ · with expiresAt := some · })]

/-- Reads key claims. -/
def shape : Shape KeyClaims :=
  Shape.record fields {} fun d => do
    return ⟨← d.id, ← d.email, ← d.kind, ← d.issuedAt, ← d.expiresAt⟩

end KeyClaims

end AccessControl
