/-!
# Relation tuples

Every grant and every question about a grant is a triple: a subject holds a relation on an object.
Subjects and objects are opaque names. All tuples live in one namespace, `members`, and a tuple is
shown as `members:object#relation@subject`.
-/

namespace AccessControl

/-- The relations the account service speaks of. -/
inductive Relation where
  | member
  | create
deriving DecidableEq, Repr

/-- The name of a relation. -/
def Relation.name : Relation → String
  | .member => "member"
  | .create => "create"

/-- The objects the account service speaks of. -/
inductive Resource where
  /-- The collection every registered user is a member of. -/
  | users
  /-- The administrators, who may register others. -/
  | authorities
  /-- The resource type whose `create` relation opens registration. -/
  | user
deriving DecidableEq, Repr

/-- The name of a resource. -/
def Resource.name : Resource → String
  | .users => "users"
  | .authorities => "authorities"
  | .user => "user"

/-- The subject holds the relation on the object. -/
structure RelationTuple where
  subject : String
  object : String
  relation : String
deriving DecidableEq, Repr

namespace RelationTuple

/-- The namespace of all tuples. -/
def namespaceName : String := "members"

/-- The tuple of a subject, a known resource and a known relation. -/
def of (subject : String) (resource : Resource) (relation : Relation) : RelationTuple :=
  ⟨subject, resource.name, relation.name⟩

/-- The subject that stands for anyone in the question whether registration is open. -/
def anyone : String := "*"

/-- The question whether anyone may create users. -/
def bootstrap : RelationTuple :=
  of anyone .user .create

/-- The question whether a subject is an administrator. -/
def authority (subject : String) : RelationTuple :=
  of subject .authorities .member

/-- The grant that makes a subject a registered user. -/
def ownership (subject : String) : RelationTuple :=
  of subject .users .member

/-- The tuple as it is shown. -/
def display (t : RelationTuple) : String :=
  namespaceName ++ ":" ++ t.object ++ "#" ++ t.relation ++ "@" ++ t.subject

end RelationTuple

end AccessControl
