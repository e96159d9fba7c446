import AccessControl.Http.Status
import AccessControl.Http.Url
import AccessControl.Policy.Error
import AccessControl.Action

/-!
# Requests and answers

An exchange sends one request and takes one answer. A server is any way to answer requests, or to
fail to; redirects are answers like others.
-/

namespace AccessControl.Http

/-- What a request asks for. -/
inductive Method where
  | get
  | patch
deriving DecidableEq, Repr

/-- The name of a method. -/
def Method.name : Method → String
  | .get => "GET"
  | .patch => "PATCH"

/-- A request. -/
structure Request where
  method : Method
  url : Url
  contentType : Option String := none
  body : String := ""
deriving DecidableEq, Repr

/-- An answer. Its body is a text. Answers with bytes that are not UTF-8 are not represented, even
where those bytes stand in an entry of the body that is passed over. -/
structure Response where
  status : Nat
  body : String
deriving DecidableEq, Repr

/-- A way to answer requests. -/
abbrev Server (σ : Type) := Request → Action σ TransportFailure Response

/-- The body of an answer, if answers with its status have one. -/
def Response.content (r : Response) : String :=
  if Status.isBodiless r.status then "" else r.body

/-- Sends a request, if there is one with a usable address, and takes the answer. A provisional
answer is not the one waited for, and no other follows it. -/
def exchange {σ : Type} (server : Server σ) (request : Option Request) :
    Action σ TransportFailure Response :=
  match request with
  | none => Action.fail .address
  | some request =>
    if request.url.isUsable then do
      let response ← server request
      if Status.isProvisional response.status then Action.fail .closed else return response
    else
      Action.fail .address

end AccessControl.Http
