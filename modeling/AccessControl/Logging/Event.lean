import AccessControl.Identity.Basic
import AccessControl.Relation.Tuple

/-!
# What the library logs

Every event the library can emit is a value of `Event`; its level, message and fields are read off
the value. The events of policy agents are a type of their own, so that a log can be looked at
without them.
-/

namespace AccessControl

/-- How important an event is. -/
inductive Level where
  | error
  | warn
  | info
  | debug
  | trace
deriving DecidableEq, Repr

namespace Level

/-- All levels, the most important first. -/
def all : List Level :=
  [.error, .warn, .info, .debug, .trace]

/-- The name of a level. -/
def name : Level → String
  | .error => "ERROR"
  | .warn => "WARN"
  | .info => "INFO"
  | .debug => "DEBUG"
  | .trace => "TRACE"

/-- The place among the levels; 1 is the most important. -/
def rank : Level → Nat
  | .error => 1
  | .warn => 2
  | .info => 3
  | .debug => 4
  | .trace => 5

end Level

/-- What an agent was asked to do. -/
inductive AgentRequest where
  | check
  | add
deriving DecidableEq, Repr

/-- The name of a request. -/
def AgentRequest.name : AgentRequest → String
  | .check => "check"
  | .add => "add"

/-- An event of a policy agent: a request that could not be answered. -/
inductive AgentEvent where
  | requestFailed (request : AgentRequest) (tuple : RelationTuple)
  | unexpectedStatus (request : AgentRequest) (tuple : RelationTuple) (status : String)
deriving DecidableEq, Repr

/-- An event. -/
inductive Event where
  | agent (event : AgentEvent)
  | settingDefaulted (key default : String)
  | keyIssued (kind : KeyKind)
  | checkDenied (tuple : RelationTuple)
  | registrationOpen
  | ownershipRefused (userId reason : String)
  | userRegistered (userId : String)
  | mailPrepared (recipients : Nat) (host : String)
  | mailFailed (reason : String)
deriving DecidableEq, Repr

namespace Event

/-- How important the event is. -/
def level : Event → Level
  | .agent _ | .settingDefaulted .. | .ownershipRefused .. | .mailFailed _ => .warn
  | .userRegistered _ | .mailPrepared .. => .info
  | .keyIssued _ | .checkDenied _ | .registrationOpen => .debug

/-- The message of the event. -/
def message : Event → String
  | .agent (.requestFailed ..) => "policy backend request failed"
  | .agent (.unexpectedStatus ..) => "unexpected policy backend status"
  | .settingDefaulted .. => "environment variable not set; using default"
  | .keyIssued _ => "issued key"
  | .checkDenied _ => "policy check denied"
  | .registrationOpen => "bootstrap registration open"
  | .ownershipRefused .. => "ownership grant failed; registration aborted"
  | .userRegistered _ => "user registered"
  | .mailPrepared .. => "password reset email prepared (not sent)"
  | .mailFailed _ => "password reset delivery failed"

/-- The named fields of the event, as text. -/
def fields : Event → List (String × String)
  | .agent (.requestFailed request tuple) => [("op", request.name), ("tuple", tuple.display)]
  | .agent (.unexpectedStatus request tuple status) =>
    [("op", request.name), ("tuple", tuple.display), ("status", status)]
  | .settingDefaulted key default => [("key", key), ("default", default)]
  | .keyIssued kind => [("kind", kind.name)]
  | .checkDenied tuple => [("tuple", tuple.display)]
  | .registrationOpen => []
  | .ownershipRefused userId reason => [("user_id", userId), ("error", reason)]
  | .userRegistered userId => [("user_id", userId)]
  | .mailPrepared recipients host => [("recipients", toString recipients), ("host", host)]
  | .mailFailed reason => [("error", reason)]

/-- Whether a policy agent emitted the event. -/
def isAgent : Event → Bool
  | .agent _ => true
  | _ => false

end Event

end AccessControl
