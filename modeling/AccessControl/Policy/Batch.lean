import AccessControl.Identity.Error
import AccessControl.Relation.Tuple

/-!
# Batches of grants

A batch grants each of its policies on one object to each of its subjects.
-/

namespace AccessControl

/-- A request to grant every policy on the object to every subject. -/
structure GrantBatch where
  subjects : List String
  policies : List String
  object : String
deriving DecidableEq, Repr

namespace GrantBatch

/-- Refuses a caller without a token, and a batch without subjects, policies or object. -/
def validate (batch : GrantBatch) (token : String) : Except IdentityError Unit :=
  if token = "" then .error .unauthorized
  else if batch.subjects = [] then .error (.malformedEntity .noSubjects)
  else if batch.policies = [] then .error (.malformedEntity .noPolicies)
  else if batch.object = "" then .error (.malformedEntity .emptyObject)
  else .ok ()

/-- The tuples of a batch, subject by subject. -/
def tuples (batch : GrantBatch) : List RelationTuple :=
  batch.subjects.flatMap fun subject =>
    batch.policies.map fun policy => ⟨subject, batch.object, policy⟩

end GrantBatch

end AccessControl
