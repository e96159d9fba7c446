/-!
# Failures of password hashing
-/

namespace AccessControl

/-- Why cost parameters are refused. -/
inductive CostError where
  | memoryTooSmall
  | timeTooSmall
  | tooFewThreads
  | tooManyThreads
deriving DecidableEq, Repr

/-- What is told of the failure. -/
def CostError.message : CostError → String
  | .memoryTooSmall => "memory cost is too small"
  | .timeTooSmall => "time cost is too small"
  | .tooFewThreads => "not enough threads"
  | .tooManyThreads => "too many threads"

/-- Why a password was not hashed, or not accepted. -/
inductive HashError where
  | invalidCosts (error : CostError)
  | failed (text : String)
  | malformedHash (text : String)
  | mismatch
deriving DecidableEq, Repr

/-- What is told of the failure. -/
def HashError.message : HashError → String
  | .invalidCosts error => "invalid Argon2 parameters: " ++ error.message
  | .failed text => "password hashing error: " ++ text
  | .malformedHash text => "stored password hash is malformed: " ++ text
  | .mismatch => "password does not match"

end AccessControl
