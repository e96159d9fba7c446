import AccessControl.Json.Shape
import AccessControl.Policy.Batch

/-!
# The JSON forms of relation tuples and batches of grants
-/

namespace AccessControl

open AccessControl.Json

/-- The relation of a given name. -/
def Relation.ofName? (name : String) : Option Relation :=
  [Relation.member, .create].find? (·.name == name)

/-- The resource of a given name. -/
def Resource.ofName? (name : String) : Option Resource :=
  [Resource.users, .authorities, .user].find? (·.name == name)

instance : ToJson Relation := ⟨fun r => .string r.name⟩
instance : ToJson Resource := ⟨fun r => .string r.name⟩

/-- Reads a relation. -/
def Relation.shape : Shape Relation :=
  Shape.choice Relation.ofName?

/-- Reads a resource. -/
def Resource.shape : Shape Resource :=
  Shape.choice Resource.ofName?

namespace RelationTuple

instance : ToJson RelationTuple where
  toJson t := .object [("subject", toJson t.subject), ("object", toJson t.object),
    ("relation", toJson t.relation)]

/-- What has been read of a tuple. -/
structure Draft where
  subject : Option String := none
  object : Option String := none
  relation : Option String := none

/-- The fields of a tuple. -/
def fields : List (Shape.Field Draft) :=
  [Shape.field "subject" Shape.string (·.subject) ({ · with subject := some · }),
    Shape.field "object" Shape.string (·.object) ({ · with object := some · }),
    Shape.field "relation" Shape.string (·.relation) ({ · with relation := some · })]

/-- Reads a tuple. -/
def shape : Shape RelationTuple :=
  Shape.record fields {} fun d => do return ⟨← d.subject, ← d.object, ← d.relation⟩

end RelationTuple

namespace GrantBatch

instance : ToJson GrantBatch where
  toJson b := .object [("subjects", toJson b.subjects), ("policies", toJson b.policies),
    ("object", toJson b.object)]

/-- What has been read of a batch. -/
structure Draft where
  subjects : Option (List String) := none
  policies : Option (List String) := none
  object : Option String := none

/-- The fields of a batch. -/
def fields : List (Shape.Field Draft) :=
  [Shape.field "subjects" (Shape.list Shape.string) (·.subjects) ({ · with subjects := some · }),
    Shape.field "policies" (Shape.list Shape.string) (·.policies) ({ · with policies := some · }),
    Shape.field "object" Shape.string (·.object) ({ · with object := some · })]

/-- Reads a batch. -/
def shape : Shape GrantBatch :=
  Shape.record fields {} fun d => do return ⟨← d.subjects, ← d.policies, ← d.object⟩

end GrantBatch

end AccessControl
