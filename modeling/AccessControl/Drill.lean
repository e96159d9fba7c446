import AccessControl.Deployment

/-!
# Drills

A drill runs the account service over backing services that record every call and can be made to
fail. A call is recorded first; then, if a switch that belongs to it is on, it fails and the service
is not reached; otherwise it is passed on. Some switches do not make a call fail but change its
answer, as a faulty repository might.
-/

namespace AccessControl

/-- What can be made to go wrong. -/
inductive Switch where
  | agentCheck
  | agentAdd
  | issue
  | identify
  | members
  | authorize
  | addPolicy
  /-- Grants are answered with no. -/
  | addPolicyRefused
  | save
  | updateUser
  | byEmail
  | byId
  | list
  | updatePassword
  /-- Records that are looked up have an empty email. -/
  | blankEmail
  /-- A record that is looked up by id has another id. -/
  | otherId
  /-- A successful look-up by email makes the next one fail. -/
  | emailOnce
  /-- A listing is answered with another page, of a record with its password. -/
  | leaky
  | hash
  | mail
  | freshId
deriving DecidableEq, Repr

/-- A state with a record of the calls made on it, and the switches that are on. -/
structure Drill (σ : Type) where
  inner : σ
  switches : List Switch := []
  calls : List BackingCall := []

namespace Drill

variable {σ : Type}

/-- Turns a switch on or off. -/
def turn (switch : Switch) (on : Bool) (d : Drill σ) : Drill σ :=
  let others := d.switches.filter (· != switch)
  { d with switches := if on then switch :: others else others }

/-- Whether a switch is on. -/
def isOn (d : Drill σ) (switch : Switch) : Bool :=
  d.switches.contains switch

/-- The failure of a repository that is out of reach. -/
def repoOffline : AccountError :=
  .byNote .unavailable "repo offline"

/-- The switch that makes a call fail, and how. -/
def fault : (call : BackingCall) → Option (Switch × call.Failure)
  | .issue .. => some (.issue, .unavailable)
  | .identify _ => some (.identify, .unavailable)
  | .members .. => some (.members, .unavailable)
  | .authorize _ => some (.authorize, .unavailable)
  | .addPolicy _ => some (.addPolicy, .unavailable)
  | .save _ => some (.save, repoOffline)
  | .updateUser _ => some (.updateUser, repoOffline)
  | .byEmail _ => some (.byEmail, repoOffline)
  | .byId _ => some (.byId, repoOffline)
  | .list _ => some (.list, repoOffline)
  | .updatePassword .. => some (.updatePassword, repoOffline)
  | .hash _ => some (.hash, .failed "hasher offline")
  | .compare .. => none
  | .sendReset .. => some (.mail, "smtp relay refused connection")
  | .freshId => some (.freshId, "entropy source exhausted")

/-- The page of a leaky repository. -/
def leakyPage : Page User :=
  ⟨⟨99, 7, 3⟩, [{ id := "leak", email := "leak@x.com", password := "secret" }]⟩

/-- Empties the email of a record while the switch for it is on. -/
def blanked (d : Drill σ) (user : User) : User :=
  if d.isOn .blankEmail then { user with email := "" } else user

/-- Changes the id of a record while the switch for it is on. -/
def renamed (d : Drill σ) (user : User) : User :=
  if d.isOn .otherId then { user with id := "other" } else user

/-- Passes a call on. -/
def passOn (backing : Backing σ) (call : BackingCall) : Action (Drill σ) call.Failure call.Answer :=
  Action.zoom Drill.inner (fun d s => { d with inner := s }) (backing call)

/-- Answers a call that no switch makes fail, changed as the switches say. -/
def answer (backing : Backing σ) : (call : BackingCall) → Action (Drill σ) call.Failure call.Answer
  | .addPolicy tuple => do
    if (← Action.get).isOn .addPolicyRefused then return false
    else passOn backing (.addPolicy tuple)
  | .byEmail email => do
    let user : User ← passOn backing (.byEmail email)
    let d ← Action.get
    if d.isOn .emailOnce then Action.set (d.turn .byEmail true)
    return d.blanked user
  | .byId id => do
    let user : User ← passOn backing (.byId id)
    let d ← Action.get
    return d.renamed (d.blanked user)
  | .list query => do
    if (← Action.get).isOn .leaky then return leakyPage
    else passOn backing (.list query)
  | call => passOn backing call

/-- What stands behind the account service in a drill, over what stood there before. -/
def backing (behind : Backing σ) : Backing (Drill σ) := fun call => do
  Action.modify fun d => { d with calls := d.calls ++ [call] }
  match fault call with
  | some (switch, failure) =>
    if (← Action.get).isOn switch then Action.fail failure else answer behind call
  | none => answer behind call

/-- The agent's outage, as far as the switches say so. -/
def outage (d : Drill σ) : Outage :=
  { checks := d.isOn .agentCheck, grants := d.isOn .agentAdd }

/-- The refusal of an agent that is out of reach. -/
def agentOffline : BackendCause :=
  .note "backend offline"

end Drill

end AccessControl
