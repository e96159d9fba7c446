/-!
# Refusals of a policy agent

An agent that answers no and an agent that cannot answer refuse alike. What stands behind a failure
is kept for diagnosis only: a refusal carries a cause exactly when the agent could not answer.
-/

namespace AccessControl

/-- How an exchange with a remote agent failed. -/
inductive TransportFailure where
  /-- The address is not usable. -/
  | address
  /-- No connection was made. -/
  | connect
  /-- No answer came in time. -/
  | timeout
  /-- The connection ended without an answer. -/
  | closed
  /-- The answer had an error status. -/
  | status (code : Nat)
  /-- The answer could not be understood. -/
  | decode
deriving DecidableEq, Repr

/-- What stands behind an agent that could not answer. -/
inductive BackendCause where
  | note (text : String)
  | transport (failure : TransportFailure)
deriving DecidableEq, Repr

/-- The refusal of a policy agent. -/
inductive PolicyError where
  | denied
  | backend (cause : BackendCause)
deriving DecidableEq, Repr

/-- What is told of a refusal, whatever stands behind it. -/
def PolicyError.message (_ : PolicyError) : String :=
  "failed to perform authorization over the entity"

/-- What is told of a cause. -/
def BackendCause.message : BackendCause → String
  | .note text => text
  | .transport .address => "the address is not usable"
  | .transport .connect => "no connection could be made"
  | .transport .timeout => "no answer came in time"
  | .transport .closed => "the connection was closed"
  | .transport (.status code) => "the answer had status " ++ toString code
  | .transport .decode => "the answer could not be understood"

/-- What is told of the causes, outermost first. -/
def PolicyError.chain : PolicyError → List String
  | .denied => []
  | .backend cause => [cause.message]

end AccessControl
