import AccessControl.Account.Service
import AccessControl.Proofs.Script

/-!
# Which calls a request can make

`ServiceCall.MayMake` is the table of requests and the backing calls that serving them can involve.
Every script keeps to it (`ServiceCall.script_only`), so what is to be known about all calls of a
request can be read off the table.
-/

namespace AccessControl

namespace Script

variable {α : Type} {p p' : BackingCall → Prop}

theorem Only.mono {script : Script α} (only : script.Only p) (imp : ∀ call, p call → p' call) :
    script.Only p' := by
  induction script with
  | answer x => trivial
  | fail error => trivial
  | emit event next ih => exact ih only
  | call request next ih => exact ⟨imp _ only.1, fun ending => ih ending (only.2 ending)⟩

/-! ## The steps of operations -/

theorem only_granted {answer : Script Bool} (only : answer.Only p) : (granted answer).Only p :=
  only_bind only fun _ => only_ite only_pure only_fail

theorem only_authorize {tuple : RelationTuple} (h : p (.authorize tuple)) :
    (authorize tuple).Only p :=
  only_granted (only_ask h)

theorem only_addPolicy {tuple : RelationTuple} (h : p (.addPolicy tuple)) :
    (addPolicy tuple).Only p :=
  only_granted (only_ask h)

/-- Checking a password against the policy makes no call. -/
theorem only_checkPassword (accepts : String → Bool) (password : String) :
    (checkPassword accepts password).Only p :=
  only_ite only_pure only_fail

/-- The gate of registration asks for authority and identifies the token. -/
theorem only_checkRegistration {token : String} (asks : ∀ tuple, p (.authorize tuple))
    (identifies : p (.identify token)) : (checkRegistration token).Only p := by
  refine only_bind (only_attempt (only_authorize (asks _))) fun ending => ?_
  cases ending with
  | ok _ => exact only_log
  | error _ =>
    refine only_ite only_fail (only_bind (only_ask identifies) fun caller => ?_)
    exact only_mapError (only_authorize (asks _))

/-- Granting ownership adds one policy. -/
theorem only_grantOwnership {id : String} (grants : p (.addPolicy (.ownership id))) :
    (grantOwnership id).Only p := by
  refine only_bind (only_attempt (only_addPolicy grants)) fun ending => ?_
  cases ending with
  | ok _ => exact only_pure
  | error _ => exact only_bind only_log fun _ => only_fail

/-- Authenticating looks the address up and compares the password. -/
theorem only_authenticate {email password : String} (looks : p (.byEmail email))
    (compares : ∀ hash, p (.compare password hash)) : (authenticate email password).Only p :=
  only_bind (only_ask looks) fun _ => only_bind (only_ask (compares _)) fun _ => only_pure

/-- Fetching an account looks its address up. -/
theorem only_existing {email : String} (looks : p (.byEmail email)) : (existing email).Only p :=
  only_bind (only_ask looks) fun _ => only_ite only_fail only_pure

/-- Sending a recovery mail makes one call. -/
theorem only_sendPasswordReset {host email token : String}
    (sends : p (.sendReset [email] host token)) : (sendPasswordReset host email token).Only p :=
  ⟨sends, fun
    | .ok () => only_pure
    | .error _ => only_bind only_log fun _ => only_fail⟩

end Script

/-! ## The operations -/

namespace ServiceCall

/-- Serving the request can involve the call. -/
def MayMake : ServiceCall → BackingCall → Prop
  | register .., .authorize _ | register .., .identify _ | register .., .freshId
  | register .., .addPolicy _ | register .., .hash _ | register .., .save _
  | login _, .byEmail _ | login _, .compare .. | login _, .issue ..
  | viewUser .., .identify _ | viewUser .., .byId _
  | viewProfile _, .identify _ | viewProfile _, .byEmail _
  | listUsers .., .identify _ | listUsers .., .list _
  | updateUser .., .identify _ | updateUser .., .updateUser _
  | generateResetToken .., .byEmail _ | generateResetToken .., .issue ..
  | generateResetToken .., .sendReset ..
  | resetPassword .., .identify _ | resetPassword .., .byEmail _ | resetPassword .., .hash _
  | resetPassword .., .updatePassword ..
  | changePassword .., .identify _ | changePassword .., .byEmail _ | changePassword .., .compare ..
  | changePassword .., .hash _ | changePassword .., .updatePassword ..
  | sendPasswordReset .., .sendReset ..
  | listMembers .., .identify _ | listMembers .., .members .. | listMembers .., .list _ => True
  | _, _ => False

open Script in
/-- No request makes other calls. -/
theorem script_only (accepts : String → Bool) (request : ServiceCall) :
    (request.script accepts).Only request.MayMake := by
  cases request with
  | register token user =>
    refine only_bind (only_checkRegistration (fun _ => trivial) trivial) fun _ => ?_
    refine only_bind only_ofExcept fun _ => only_bind (only_checkPassword _ _) fun _ => ?_
    refine only_bind (only_ask trivial) fun id => ?_
    refine only_bind (only_grantOwnership trivial) fun _ => ?_
    refine only_bind (only_ask trivial) fun hash => only_bind (only_ask trivial) fun saved => ?_
    exact only_bind only_log fun _ => only_pure
  | login user =>
    exact only_bind (only_authenticate trivial fun _ => trivial) fun _ => only_ask trivial
  | viewUser token id =>
    exact only_bind (only_ask trivial) fun _ => only_bind (only_ask trivial) fun _ => only_pure
  | viewProfile token =>
    exact only_bind (only_ask trivial) fun _ => only_bind (only_ask trivial) fun _ => only_pure
  | listUsers token offset limit email metadata =>
    exact only_bind (only_ask trivial) fun _ => only_bind (only_ask trivial) fun _ => only_pure
  | updateUser token user =>
    exact only_bind (only_ask trivial) fun _ => only_ask trivial
  | generateResetToken email host =>
    refine only_ite only_fail (only_bind (only_existing trivial) fun _ => ?_)
    exact only_bind (only_ask trivial) fun _ => only_sendPasswordReset trivial
  | resetPassword token password =>
    refine only_ite only_fail (only_bind (only_ask trivial) fun _ => ?_)
    refine only_bind (only_existing trivial) fun _ => only_bind (only_checkPassword _ _) fun _ => ?_
    exact only_bind (only_ask trivial) fun _ => only_ask trivial
  | changePassword token password old =>
    refine only_bind (only_ask trivial) fun caller => ?_
    refine only_bind (only_checkPassword _ _) fun _ => ?_
    refine only_bind (only_attempt (only_authenticate trivial fun _ => trivial)) fun ending => ?_
    cases ending with
    | error _ => exact only_fail
    | ok _ =>
      refine only_bind (only_existing trivial) fun _ => only_bind (only_ask trivial) fun _ => ?_
      exact only_ask trivial
  | sendPasswordReset host email token => exact only_sendPasswordReset trivial
  | listMembers token group offset limit metadata =>
    refine only_bind (only_ask trivial) fun _ => only_bind (only_ask trivial) fun _ => ?_
    exact only_ite only_pure (only_bind (only_ask trivial) fun _ => only_pure)

end ServiceCall

end AccessControl
