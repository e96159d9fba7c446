import AccessControl.Http.Exchange
import AccessControl.Json.Shape
import AccessControl.Policy.Agent
import AccessControl.Settings.Load

/-!
# The remote policy agent

Questions and grants are sent to a service that keeps relation tuples: a question as a `GET` whose
query spells the tuple, a grant as a `PATCH` whose body lists what to insert. Reading and writing
have addresses of their own.

A question is answered with yes by a success whose body says so, and with no by such a body or by
status 403. A grant is taken unless the status is that of a failure. Whatever else happens refuses
the request with a cause and is logged.
-/

namespace AccessControl

open AccessControl.Http
open AccessControl.Json

/-- The addresses of the service, without slashes at their ends. -/
structure RemoteAgent where
  readBase : List Char
  writeBase : List Char
deriving DecidableEq, Repr

/-- A text without slashes at its end. -/
def withoutSlashes (cs : List Char) : List Char :=
  (cs.reverse.dropWhile (· == '/')).reverse

/-- The agent of some settings. -/
def RemoteAgent.ofSettings (settings : Settings.RemoteSettings) : RemoteAgent :=
  ⟨withoutSlashes settings.readUrl.toList, withoutSlashes settings.writeUrl.toList⟩

/-- A tuple as the service spells it. -/
def RelationTuple.wirePairs (t : RelationTuple) : List (String × String) :=
  [("namespace", RelationTuple.namespaceName), ("object", t.object), ("relation", t.relation),
    ("subject_id", t.subject)]

/-- The request to insert a tuple. -/
def RelationTuple.insertion (t : RelationTuple) : Value :=
  .array [.object [("action", .string "insert"),
    ("relation_tuple", .object (t.wirePairs.map fun (k, v) => (k, .string v)))]]

/-- The answer to a question, from its body. -/
def checkAnswer : Shape Bool :=
  Shape.record [Shape.field "allowed" Shape.bool id (fun _ b => some b)] none id

namespace RemoteAgent

/-- The question whether a tuple holds, if the address is one. -/
def checkRequest? (a : RemoteAgent) (t : RelationTuple) : Option Request :=
  (Url.ofChars? (a.readBase ++ "/relation-tuples/check".toList)).map fun url =>
    { method := .get
      url := url.withPairs (t.wirePairs.map fun (k, v) => (k.toList, v.toList)) }

/-- The grant of a tuple, if the address is one. -/
def grantRequest? (a : RemoteAgent) (t : RelationTuple) : Option Request :=
  (Url.ofChars? (a.writeBase ++ "/admin/relation-tuples".toList)).map fun url =>
    { method := .patch, url, contentType := some "application/json", body := t.insertion.text }

variable {σ α : Type}

/-- Refuses a request for want of an answer. -/
def refuse (request : AgentRequest) (t : RelationTuple) (failure : TransportFailure) :
    Action σ PolicyError α := do
  Action.emit (.agent (.requestFailed request t))
  Action.fail (.backend (.transport failure))

/-- What an answer to a question says. -/
def judgeCheck (t : RelationTuple) (response : Response) : Action σ PolicyError Unit :=
  if response.status = 403 then Action.fail .denied
  else if Status.isSuccess response.status then
    match checkAnswer.ofText response.content with
    | .ok true => return ()
    | .ok false => Action.fail .denied
    | .error _ => refuse .check t .decode
  else do
    let status := Status.display response.status
    Action.emit (.agent (.unexpectedStatus .check t status))
    Action.fail (.backend (.note ("unexpected status " ++ status ++ " from check")))

/-- What an answer to a grant says. -/
def judgeGrant (t : RelationTuple) (response : Response) : Action σ PolicyError Unit :=
  if Status.isFailure response.status then refuse .add t (.status response.status) else return ()

/-- The agent that asks a server. -/
def agent (a : RemoteAgent) (server : Server σ) : PolicyAgent σ where
  check t := do
    match ← Action.attempt (exchange server (a.checkRequest? t)) with
    | .ok response => judgeCheck t response
    | .error failure => refuse .check t failure
  add t := do
    match ← Action.attempt (exchange server (a.grantRequest? t)) with
    | .ok response => judgeGrant t response
    | .error failure => refuse .add t failure

end RemoteAgent

end AccessControl
