import AccessControl.Action
import AccessControl.Policy.Error

/-!
# Policy agents

An agent answers questions about relation tuples and takes grants. Both requests carry a tuple; an
agent answers a question with yes by succeeding, and with no by refusing. Agents differ in their
state: a set of tuples in memory, or the connection to a remote service.
-/

namespace AccessControl

/-- A policy agent with state `α`. -/
structure PolicyAgent (α : Type) where
  /-- Succeeds when the tuple holds. -/
  check : RelationTuple → Action α PolicyError Unit
  /-- Grants the tuple. -/
  add : RelationTuple → Action α PolicyError Unit

/-- What keeps an agent from answering. -/
structure Outage where
  checks : Bool := false
  grants : Bool := false
deriving DecidableEq, Repr

/-- The agent behind a connection that can fail: while it fails nothing reaches the agent. -/
def PolicyAgent.withOutage {α : Type} (agent : PolicyAgent α) (cause : BackendCause) :
    PolicyAgent (α × Outage) where
  check t := do
    if (← Action.get).2.checks then Action.fail (.backend cause)
    else Action.zoom Prod.fst (fun s a => (a, s.2)) (agent.check t)
  add t := do
    if (← Action.get).2.grants then Action.fail (.backend cause)
    else Action.zoom Prod.fst (fun s a => (a, s.2)) (agent.add t)

end AccessControl
