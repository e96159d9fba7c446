import AccessControl.Account.Backing
import AccessControl.Text.Basic

/-!
# User records in memory

No two records of the store share an id or an email, and no id is empty: `AccountStore.save` refuses
what would break this, and the other operations change neither ids nor emails. A listing is sorted
by email and comes without passwords.
-/

namespace AccessControl

open AccessControl.Text

/-- The stored records, in the order in which they were saved. -/
structure AccountStore where
  users : List User := []

namespace AccountStore

/-- An action on the store. -/
abbrev Act (α : Type) := Action AccountStore AccountError α

/-- The record with an email. -/
def byEmail? (store : AccountStore) (email : String) : Option User :=
  store.users.find? (·.email == email)

/-- The record with an id. -/
def byId? (store : AccountStore) (id : String) : Option User :=
  store.users.find? (·.id == id)

/-- Changes the record with an email. -/
def modifyByEmail (store : AccountStore) (email : String) (f : User → User) : AccountStore :=
  ⟨store.users.map fun u => if u.email = email then f u else u⟩

/-- Whether a record is asked for by a query. -/
def selects (query : UserQuery) (user : User) : Bool :=
  (match query.ids with
    | some ids => ids.contains user.id
    | none => true) &&
  (match query.email with
    | some email => occursIn email.toList user.email.toList
    | none => true) &&
  user.metadata.includes query.metadata

/-- All records asked for by a query, sorted by email. -/
def selected (store : AccountStore) (query : UserQuery) : List User :=
  (store.users.filter (selects query)).mergeSort fun a b => decide (a.email ≤ b.email)

/-- The page a query asks for. -/
def page (store : AccountStore) (query : UserQuery) : Page User :=
  let found := store.selected query
  ⟨⟨found.length, query.offset, query.limit⟩,
    (window query.offset query.limit found).map User.redacted⟩

/-- Answers a record, or that there is none. -/
def found (user : Option User) : Act User :=
  match user with
  | some user => return user
  | none => Action.fail (.bare .notFound)

/-- Stores a new record under its id. -/
def save (user : User) : Act String := do
  if user.id = "" then
    Action.fail (.bare .malformedEntity)
  else
    let store ← Action.get
    if (store.byEmail? user.email).isSome || (store.byId? user.id).isSome then
      Action.fail (.bare .conflict)
    else
      Action.set ⟨store.users ++ [user]⟩
      return user.id

/-- Changes the record with an email, if there is one. -/
def update (email : String) (f : User → User) : Act Unit := do
  let store ← Action.get
  if (store.byEmail? email).isSome then
    Action.set (store.modifyByEmail email f)
  else
    Action.fail (.bare .notFound)

/-- Replaces the metadata of the record with the email of the given one. -/
def updateUser (user : User) : Act Unit :=
  update user.email ({ · with metadata := user.metadata })

/-- Replaces the password hash of a record. -/
def updatePassword (email hash : String) : Act Unit :=
  update email ({ · with password := hash })

/-- Looks a record up by its email. -/
def byEmail (email : String) : Act User := do
  found ((← Action.get).byEmail? email)

/-- Looks a record up by its id. -/
def byId (id : String) : Act User := do
  found ((← Action.get).byId? id)

/-- Lists records. -/
def list (query : UserQuery) : Act (Page User) := do
  return (← Action.get).page query

end AccountStore

end AccessControl
