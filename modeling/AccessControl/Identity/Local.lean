import AccessControl.Identity.GroupTable
import AccessControl.Identity.KeyTable
import AccessControl.Policy.Agent
import AccessControl.Policy.Batch

/-!
# The identity service in process

The service issues keys and resolves them, keeps groups, and puts questions and grants to a policy
agent. Its state holds the clock, the number of token strings drawn so far, the two tables and the
agent's own state. Token strings come from a given sequence, of which every successful issue takes
the next.

A question to the agent is answered with yes or no: the service does not tell a refusal from an
outage. A grant that fails is reported as the agent's refusal.
-/

namespace AccessControl

open AccessControl.Calendar

/-- What the identity service is set up with. -/
structure LocalIdentity (α : Type) where
  /-- How long keys of each kind live. -/
  lifetime : KeyKind → Duration := KeyLifetimes.standard.of
  /-- The token strings, in the order in which they are drawn. -/
  tokenAt : Nat → String
  agent : PolicyAgent α

/-- The state of the identity service. -/
structure IdentityState (α : Type) where
  now : Timestamp
  drawn : Nat := 0
  keys : KeyTable := KeyTable.empty
  groups : GroupTable := {}
  agent : α

/-- How an assignment can fail. -/
inductive AssignError where
  | refused (error : IdentityError)
  /-- The supply of ids died. -/
  | died
deriving DecidableEq, Repr

namespace LocalIdentity

variable {α : Type}

/-- An action of the identity service. -/
abbrev Act (α β : Type) := Action (IdentityState α) IdentityError β

/-- Runs an action of the agent; its refusals show through. -/
def ofAgent {β : Type} (action : Action α PolicyError β) : Act α β :=
  Action.mapError .authorization
    (Action.zoom IdentityState.agent (fun s a => { s with agent := a }) action)

/-- Issues a key of a kind to an identity, and answers its token. -/
def issue (service : LocalIdentity α) (id email : String) (kind : KeyKind) : Act α String := do
  if id = "" ∨ email = "" then
    Action.fail (.malformedEntity .keyWithoutOwner)
  else
    let s ← Action.get
    match s.now.add? (service.lifetime kind) with
    | none => Action.fail (.malformedEntity (.lifetimeOutOfRange kind))
    | some expiry =>
      let token := service.tokenAt s.drawn
      let claims : KeyClaims := ⟨id, email, kind, s.now, expiry⟩
      Action.set { s with drawn := s.drawn + 1, keys := s.keys.enroll token claims }
      Action.emit (.keyIssued kind)
      return token

/-- Resolves a token as of a given time. -/
def identifyAt (token : String) (now : Timestamp) : Act α Identity := do
  let s ← Action.get
  let (result, keys) := s.keys.resolve token now
  Action.set { s with keys := keys }
  Action.ofExcept result

/-- Resolves a token now. -/
def identify (token : String) : Act α Identity := do
  identifyAt token (← Action.get).now

/-- Forgets a token; answers whether it was there. -/
def revoke (token : String) : Act α Bool := do
  let s ← Action.get
  let (found, keys) := s.keys.revoke token
  Action.set { s with keys := keys }
  return found

/-- Adds members of a type to a group. -/
def assign (group memberType : String) (supply : IdSupply) :
    Action (IdentityState α) AssignError Unit := do
  let s ← Action.get
  if s.groups.usable then
    Action.set { s with groups := s.groups.assign group memberType supply }
    if supply.dies then Action.fail .died
  else
    Action.fail (.refused .unavailable)

/-- A window of the members of a group under a type, for a caller with a live token. -/
def members (token group : String) (offset limit : Nat) (memberType : String) :
    Act α (List String) := do
  let _ ← identify token
  let s ← Action.get
  if s.groups.usable then
    return window offset limit (s.groups.members group memberType)
  else
    Action.fail .unavailable

/-- Whether a tuple holds, as far as the agent says so. -/
def authorize (service : LocalIdentity α) (t : RelationTuple) : Act α Bool := do
  match ← Action.attempt (ofAgent (service.agent.check t)) with
  | .ok () => return true
  | .error _ => do
    Action.emit (.checkDenied t)
    return false

/-- Grants a tuple. -/
def addPolicy (service : LocalIdentity α) (t : RelationTuple) : Act α Bool := do
  ofAgent (service.agent.add t)
  return true

/-- Grants tuples one after the other, up to the first that fails. -/
def grantAll (service : LocalIdentity α) : List RelationTuple → Act α Unit
  | [] => return ()
  | t :: ts => do
    ofAgent (service.agent.add t)
    service.grantAll ts

/-- Grants a batch, for a caller who is an administrator before the batch. -/
def addPolicies (service : LocalIdentity α) (token : String) (batch : GrantBatch) : Act α Unit := do
  Action.ofExcept (batch.validate token)
  let caller ← identify token
  ofAgent (service.agent.check (RelationTuple.authority caller.id))
  service.grantAll batch.tuples

end LocalIdentity

end AccessControl
