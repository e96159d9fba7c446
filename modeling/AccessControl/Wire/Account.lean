import AccessControl.Json.Shape
import AccessControl.Account.User
import AccessControl.Page

/-!
# The JSON forms of users and pages

The password of a user is read but never written. The window of a page stands beside its items in
one object; its entries are gathered as they come and looked at once the object has ended.
-/

namespace AccessControl

open AccessControl.Json

namespace User

instance : ToJson User where
  toJson u := .object [("id", toJson u.id), ("email", toJson u.email),
    ("metadata", .object u.metadata)]

/-- What has been read of a user. -/
structure Draft where
  id : Option String := none
  email : Option String := none
  password : Option String := none
  metadata : Option Metadata := none

/-- The fields of a user. -/
def fields : List (Shape.Field Draft) :=
  [Shape.field "id" Shape.string (·.id) ({ · with id := some · }),
    Shape.field "email" Shape.string (·.email) ({ · with email := some · }),
    Shape.field "password" Shape.string (·.password) ({ · with password := some · }),
    Shape.field "metadata" Shape.object (·.metadata) ({ · with metadata := some · })]

/-- Reads a user; only the email has to be there. -/
def shape : Shape User :=
  Shape.record fields {} fun d => do
    return ⟨d.id.getD "", ← d.email, d.password.getD "", d.metadata.getD []⟩

end User

namespace PageInfo

instance : ToJson PageInfo where
  toJson i := .object [("total", toJson i.total), ("offset", toJson i.offset),
    ("limit", toJson i.limit)]

/-- What has been read of a window. -/
structure Draft where
  total : Option Nat := none
  offset : Option Nat := none
  limit : Option Nat := none

/-- The fields of a window. -/
def fields : List (Shape.Field Draft) :=
  [Shape.field "total" Shape.natural (·.total) ({ · with total := some · }),
    Shape.field "offset" Shape.natural (·.offset) ({ · with offset := some · }),
    Shape.field "limit" Shape.natural (·.limit) ({ · with limit := some · })]

/-- Reads a window. -/
def shape : Shape PageInfo :=
  Shape.record fields {} fun d => do return ⟨← d.total, ← d.offset, ← d.limit⟩

/-- The only value under a key, if it is an integer from 0 up. -/
def gathered? (entries : Entries) (key : String) : Option Nat :=
  match entries.filter (·.1 == key) with
  | [(_, .number (.integer (.ofNat n)))] => some n
  | _ => none

/-- The window among the gathered entries of a page. -/
def ofEntries? (entries : Entries) : Option PageInfo := do
  return ⟨← gathered? entries "total", ← gathered? entries "offset", ← gathered? entries "limit"⟩

end PageInfo

namespace Page

variable {α : Type}

instance [ToJson α] : ToJson (Page α) where
  toJson p := .object [("total", toJson p.info.total), ("offset", toJson p.info.offset),
    ("limit", toJson p.info.limit), ("items", toJson p.items)]

/-- What has been read of a page: its items, and the other entries in the order they came. -/
structure Draft (α : Type) where
  items : Option (List α) := none
  others : Entries := []

/-- Takes one entry of a page into the draft. -/
def entry (item : Shape α) (n : Nat) (key : String) (d : Draft α) : Reader (Draft α) := do
  if key = "items" then
    if d.items.isSome then
      Reader.fail .shape
    else
      Reader.colon
      return { d with items := some (← Shape.list item n) }
  else
    Reader.colon
    return { d with others := d.others ++ [(key, ← Reader.value n)] }

/-- Reads a page. -/
def shape (item : Shape α) : Shape (Page α) := fun n => do
  let d ← Shape.fold (entry item) {} n
  match d.items, PageInfo.ofEntries? d.others with
  | some items, some info => return ⟨info, items⟩
  | _, _ => Reader.fail .shape

end Page

end AccessControl
