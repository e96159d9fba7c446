import AccessControl.Page

/-!
# Groups and their members

A group has members of several types, in the order of their first assignment; the same id may be a
member under several types. The table keeps all memberships in one list without repetitions.

An assignment can die between two ids, because the ids come from the caller. What was assigned so
far stays, and the table is out of use from then on.
-/

namespace AccessControl

/-- An id is a member of a group under a type. -/
structure Membership where
  group : String
  memberType : String
  id : String
deriving DecidableEq, Repr

/-- All memberships in the order of their first assignment. -/
structure GroupTable where
  memberships : List Membership := []
  usable : Bool := true
deriving DecidableEq, Repr

/-- The ids of one assignment, and whether their source dies after the last of them. -/
structure IdSupply where
  ids : List String
  dies : Bool := false
deriving DecidableEq, Repr

namespace GroupTable

/-- Adds a membership unless it is there. -/
def add (table : GroupTable) (m : Membership) : GroupTable :=
  if table.memberships.contains m then table
  else { table with memberships := table.memberships ++ [m] }

/-- Adds the ids to a group under a type, in order. -/
def addAll (table : GroupTable) (group memberType : String) (ids : List String) : GroupTable :=
  ids.foldl (fun t id => t.add ⟨group, memberType, id⟩) table

/-- Takes an assignment up to where its supply ends or dies. -/
def assign (table : GroupTable) (group memberType : String) (supply : IdSupply) : GroupTable :=
  let after := table.addAll group memberType supply.ids
  { after with usable := after.usable && !supply.dies }

/-- The members of a group under a type. -/
def members (table : GroupTable) (group memberType : String) : List String :=
  (table.memberships.filter fun m => m.group == group && m.memberType == memberType).map (·.id)

end GroupTable

end AccessControl
