import AccessControl.Proofs.Account.Calls
import AccessControl.Proofs.Account.Transcript

/-!
# Requests that differ in passwords

Two calls are alike if they are the same up to passwords and hashes, and two exchanges are alike if
besides the calls ended the same up to these. Scripts are alike if they make alike calls, emit the
same events and come to related answers or to failures of the same kind, as long as their calls end
alike. Each way to compose scripts has its rule.

Requests that are the same up to passwords have alike scripts (`ServiceCall.Alike.script`): no
password or hash decides anything but whether it is empty, whether it is good enough, and what the
hasher says of it.
-/

namespace AccessControl

variable {α β γ δ σ τ : Type}

/-! ## Calls -/

/-- The same record, up to its password. -/
def User.Alike (user user' : User) : Prop :=
  user.redacted = user'.redacted

namespace User.Alike

variable {user user' : User}

theorem id_eq (alike : user.Alike user') : user.id = user'.id :=
  show user.redacted.id = user'.redacted.id from congrArg User.id alike

theorem email_eq (alike : user.Alike user') : user.email = user'.email :=
  show user.redacted.email = user'.redacted.email from congrArg User.email alike

theorem metadata_eq (alike : user.Alike user') : user.metadata = user'.metadata :=
  show user.redacted.metadata = user'.redacted.metadata from congrArg User.metadata alike

end User.Alike

/-- The same call, up to passwords and hashes. -/
inductive BackingCall.Alike : BackingCall → BackingCall → Prop
  | same (call : BackingCall) : Alike call call
  | save {user user' : User} (alike : user.Alike user') :
      Alike (.save user) (.save user')
  | updatePassword (email hash hash' : String) :
      Alike (.updatePassword email hash) (.updatePassword email hash')
  | hash (password password' : String) : Alike (.hash password) (.hash password')
  | compare (password password' hash hash' : String) :
      Alike (.compare password hash) (.compare password' hash')

/-- Alike calls, which ended the same up to passwords and hashes. The hasher may give any reason for
a failure. -/
inductive Exchange.Alike : Exchange → Exchange → Prop
  | same (e : Exchange) : Alike e e
  | byEmail (email : String) {u u' : User} (alike : u.Alike u') :
      Alike ⟨.byEmail email, .ok u⟩ ⟨.byEmail email, .ok u'⟩
  | byId (id : String) {u u' : User} (alike : u.Alike u') :
      Alike ⟨.byId id, .ok u⟩ ⟨.byId id, .ok u'⟩
  | save {user user' : User} (alike : user.Alike user')
      (ending : Except AccountError String) : Alike ⟨.save user, ending⟩ ⟨.save user', ending⟩
  | updatePassword (email hash hash' : String) (ending : Except AccountError Unit) :
      Alike ⟨.updatePassword email hash, ending⟩ ⟨.updatePassword email hash', ending⟩
  | hashed (password password' hash hash' : String) :
      Alike ⟨.hash password, .ok hash⟩ ⟨.hash password', .ok hash'⟩
  | unhashed (password password' : String) (failure failure' : HashError) :
      Alike ⟨.hash password, .error failure⟩ ⟨.hash password', .error failure'⟩
  | confirmed (password password' hash hash' : String) :
      Alike ⟨.compare password hash, .ok ()⟩ ⟨.compare password' hash', .ok ()⟩
  | unconfirmed (password password' hash hash' : String) (failure failure' : HashError) :
      Alike ⟨.compare password hash, .error failure⟩ ⟨.compare password' hash', .error failure'⟩

/-- A call that neither shows a record nor goes to the hasher. -/
def BackingCall.Plain : BackingCall → Prop
  | byEmail _ | byId _ | hash _ | compare .. => False
  | _ => True

namespace Exchange.Alike

variable {call call' : BackingCall}

theorem not_ok_error {x : call.Answer} {failure : call'.Failure} :
    ¬ Alike ⟨call, .ok x⟩ ⟨call', .error failure⟩ := by
  intro h
  cases h

theorem not_error_ok {failure : call.Failure} {x : call'.Answer} :
    ¬ Alike ⟨call, .error failure⟩ ⟨call', .ok x⟩ := by
  intro h
  cases h

/-- A plain call that is made twice and ends alike ends the same. -/
theorem ending_eq {ending ending' : Except call.Failure call.Answer} (plain : call.Plain)
    (h : Alike ⟨call, ending⟩ ⟨call, ending'⟩) : ending = ending' := by
  cases h with
  | same | save | updatePassword => rfl
  | _ => exact absurd plain id

end Exchange.Alike

/-! ## Scripts -/

/-- Both ended with related answers, or with failures of the same kind. -/
inductive EndsAlike (R : α → β → Prop) : Except AccountError α → Except AccountError β → Prop
  | ok {x : α} {y : β} (related : R x y) : EndsAlike R (.ok x) (.ok y)
  | error {error error' : AccountError} (kind : error.kind = error'.kind) :
      EndsAlike R (.error error) (.error error')

namespace Script

/-- The scripts go the same way as long as their calls end alike, and come to related answers. -/
inductive Alike (R : α → β → Prop) : Script α → Script β → Prop
  | answer {x : α} {y : β} (related : R x y) : Alike R (answer x) (answer y)
  | fail {error error' : AccountError} (kind : error.kind = error'.kind) :
      Alike R (fail error) (fail error')
  | emit (event : Event) {next : Script α} {next' : Script β} (rest : Alike R next next') :
      Alike R (emit event next) (emit event next')
  | call {request request' : BackingCall} (asked : request.Alike request')
      {next : Except request.Failure request.Answer → Script α}
      {next' : Except request'.Failure request'.Answer → Script β}
      (rest : ∀ ending ending', Exchange.Alike ⟨request, ending⟩ ⟨request', ending'⟩ →
        Alike R (next ending) (next' ending')) :
      Alike R (call request next) (call request' next')

namespace Alike

variable {R : α → β → Prop} {S : γ → δ → Prop}

/-- Sequences are alike when their first parts are and the rests are, on results that fit. -/
theorem bind {first : Script α} {first' : Script β} {next : α → Script γ} {next' : β → Script δ}
    (alike : Alike R first first') (rest : ∀ x y, R x y → Alike S (next x) (next' y)) :
    Alike S (first >>= next) (first' >>= next') := by
  show Alike S (first.bind next) (first'.bind next')
  induction alike with
  | answer related => exact rest _ _ related
  | fail kind => exact .fail kind
  | emit event _ ih => exact .emit event ih
  | call asked _ ih => exact .call asked ih

/-- What relates the results of two scripts may be weakened. -/
theorem imp {R' : α → β → Prop} {script : Script α} {script' : Script β}
    (alike : Alike R script script') (imp : ∀ x y, R x y → R' x y) : Alike R' script script' := by
  induction alike with
  | answer related => exact .answer (imp _ _ related)
  | fail kind => exact .fail kind
  | emit event _ ih => exact .emit event ih
  | call asked _ ih => exact .call asked ih

/-- Scripts whose errors are caught stay alike, errors of one kind included. -/
theorem attempt {script : Script α} {script' : Script β} (alike : Alike R script script') :
    Alike (EndsAlike R) script.attempt script'.attempt := by
  induction alike with
  | answer related => exact .answer (.ok related)
  | fail kind => exact .answer (.error kind)
  | emit event _ ih => exact .emit event ih
  | call asked _ ih => exact .call asked ih

/-- A plain script is alike to itself. -/
theorem self {script : Script α} (plain : script.Only BackingCall.Plain) :
    Alike Eq script script := by
  induction script with
  | answer x => exact .answer rfl
  | fail error => exact .fail rfl
  | emit event next ih => exact .emit event (ih plain)
  | call request next ih =>
    refine .call (.same request) fun ending ending' h => ?_
    obtain rfl := h.ending_eq plain.1
    exact ih ending (plain.2 ending)

/-- Two questions are alike when they are asked alike and alike answers and failures are reported
alike. -/
theorem ask {request request' : BackingCall} (asked : request.Alike request')
    {report : request.Failure → AccountError} {report' : request'.Failure → AccountError}
    {R : request.Answer → request'.Answer → Prop}
    (answers : ∀ x y, Exchange.Alike ⟨request, .ok x⟩ ⟨request', .ok y⟩ → R x y)
    (failures : ∀ failure failure',
      Exchange.Alike ⟨request, .error failure⟩ ⟨request', .error failure'⟩ →
        (report failure).kind = (report' failure').kind) :
    Alike R (Script.ask request report) (Script.ask request' report') := by
  refine .call asked fun ending ending' h => ?_
  cases ending with
  | ok x =>
    cases ending' with
    | ok y => exact .answer (answers x y h)
    | error failure => exact absurd h Exchange.Alike.not_ok_error
  | error failure =>
    cases ending' with
    | ok y => exact absurd h Exchange.Alike.not_error_ok
    | error failure' => exact .fail (failures failure failure' h)

/-- A choice on the same condition is alike when both of its branches are. -/
theorem ite {p p' : Prop} [Decidable p] [Decidable p'] {first second : Script α}
    {first' second' : Script β} (same : p ↔ p') (yes : Alike R first first')
    (no : Alike R second second') :
    Alike R (if p then first else second) (if p' then first' else second') := by
  by_cases h : p
  · rw [if_pos h, if_pos (same.mp h)]
    exact yes
  · rw [if_neg h, if_neg fun h' => h (same.mpr h')]
    exact no

end Alike

/-! ## The steps of operations -/

/-- Looking an email address up is alike to itself, with records alike as its results. -/
theorem alike_byEmail (kind : ErrorKind) (email : String) :
    Alike User.Alike (byEmail kind email) (byEmail kind email) := by
  refine .ask (.same (.byEmail email)) (fun u u' h => ?_) fun _ _ _ => ?_
  · cases h with
    | same => rfl
    | byEmail _ alike => exact alike
  · rfl

/-- Looking an id up is alike to itself, with records alike as its results. -/
theorem alike_byId (kind : ErrorKind) (id : String) :
    Alike User.Alike (ask (.byId id) (.byAccount kind)) (ask (.byId id) (.byAccount kind)) := by
  refine .ask (.same (.byId id)) (fun u u' h => ?_) fun _ _ _ => ?_
  · cases h with
    | same => rfl
    | byId _ alike => exact alike
  · rfl

/-- Hashing one password is alike to hashing any other, whatever hashes come back. -/
theorem alike_hash (password password' : String) :
    Alike (fun _ _ => True) (hash password) (hash password') :=
  .ask (.hash password password') (fun _ _ _ => trivial) fun _ _ _ => rfl

/-- Saving records that are alike is alike. -/
theorem alike_save {user user' : User} (alike : user.Alike user') :
    Alike Eq (ask (.save user) fun error => error) (ask (.save user') fun error => error) := by
  refine .ask (.save alike) (fun _ _ h => ?_) fun _ _ h => ?_ <;> cases h <;> rfl

/-- Writing one hash is alike to writing any other under the same address. -/
theorem alike_updatePassword (email hash hash' : String) :
    Alike Eq (ask (.updatePassword email hash) fun error => error)
      (ask (.updatePassword email hash') fun error => error) := by
  refine .ask (.updatePassword email hash hash') (fun _ _ _ => rfl) fun _ _ h => ?_
  cases h <;> rfl

/-- Issuing a key for records that are alike gives the same token. -/
theorem alike_issue (wrapped : ErrorKind) (kind : KeyKind) {u u' : User} (alike : u.Alike u') :
    Alike Eq (issue wrapped u kind) (issue wrapped u' kind) := by
  rw [issue, issue, alike.id_eq, alike.email_eq]
  exact .self (only_ask trivial)

/-- The account behind an email is found and its password is confirmed for both, or for none. -/
theorem alike_authenticate (email password password' : String) :
    Alike User.Alike (authenticate email password) (authenticate email password') := by
  refine (alike_byEmail _ email).bind fun stored stored' alike => ?_
  refine .bind (R := fun _ _ => True) ?_ fun _ _ _ => .answer alike
  exact .ask (.compare password password' stored.password stored'.password) (fun _ _ _ => trivial)
    fun _ _ _ => rfl

/-- Fetching an account by its address is alike to itself. -/
theorem alike_existing (email : String) :
    Alike User.Alike (existing email) (existing email) := by
  refine (alike_byEmail _ email).bind fun user user' alike => ?_
  exact .ite (by rw [alike.email_eq]) (.fail rfl) (.answer alike)

/-- A new password is stored under its hash for both, or for none. -/
theorem alike_renewal (email password password' : String) :
    Alike Eq (hash password >>= fun made => ask (.updatePassword email made) fun error => error)
      (hash password' >>= fun made => ask (.updatePassword email made) fun error => error) :=
  (alike_hash password password').bind fun made made' _ => alike_updatePassword email made made'

/-- Two passwords on which the policy agrees are checked alike. -/
theorem alike_checkPassword {accepts : String → Bool} {password password' : String}
    (good : accepts password = accepts password') :
    Alike Eq (checkPassword accepts password) (checkPassword accepts password') :=
  .ite (by rw [good]) (.answer rfl) (.fail rfl)

/-- Records that are alike are enrolled alike, whatever their passwords. -/
theorem alike_enrol {user user' : User} (alike : user.Alike user') :
    Alike Eq (enrol user) (enrol user') := by
  refine .bind (.self (only_ask trivial)) fun id _ hid => ?_
  obtain rfl := hid
  refine .bind (.self (only_grantOwnership trivial)) fun _ _ _ => ?_
  refine (alike_hash _ _).bind fun made made' _ => ?_
  have filled : User.Alike { user with id := id, password := made }
      { user' with id := id, password := made' } := by
    simp only [User.Alike, User.redacted, alike.email_eq, alike.metadata_eq]
  refine (alike_save filled).bind fun saved _ hsaved => ?_
  obtain rfl := hsaved
  exact .emit _ (.answer rfl)

end Script

/-! ## The operations -/

namespace ServiceCall

/-- The same request, up to passwords: they are empty in both or in none where that counts, and good
enough in both or in none. -/
inductive Alike (accepts : String → Bool) : ServiceCall → ServiceCall → Prop
  | same (request : ServiceCall) : Alike accepts request request
  | register (token : String) {user user' : User} (alike : user.Alike user')
      (empty : user.password = "" ↔ user'.password = "")
      (good : accepts user.password = accepts user'.password) :
      Alike accepts (.register token user) (.register token user')
  | login {user user' : User} (alike : user.Alike user') :
      Alike accepts (.login user) (.login user')
  | updateUser (token : String) {user user' : User} (alike : user.Alike user') :
      Alike accepts (.updateUser token user) (.updateUser token user')
  | resetPassword (token : String) {password password' : String}
      (good : accepts password = accepts password') :
      Alike accepts (.resetPassword token password) (.resetPassword token password')
  | changePassword (token old old' : String) {password password' : String}
      (good : accepts password = accepts password') :
      Alike accepts (.changePassword token password old) (.changePassword token password' old')

/-- What the answer to a request says. -/
inductive Reply where
  | text (value : String)
  | user (value : User)
  | page (value : Page User)
  | done

/-- What an answer to a request says. -/
def reply : (request : ServiceCall) → request.Answer → Reply
  | register .., id => .text id
  | login _, token => .text token
  | viewUser .., user => .user user
  | viewProfile _, user => .user user
  | listUsers .., page => .page page
  | listMembers .., page => .page page
  | updateUser .., _ => .done
  | generateResetToken .., _ => .done
  | resetPassword .., _ => .done
  | changePassword .., _ => .done
  | sendPasswordReset .., _ => .done

end ServiceCall

namespace Script

variable {accepts : String → Bool}

/-- Registrations are alike when their passwords are empty alike and accepted alike. -/
theorem alike_register (token : String) {user user' : User} (alike : user.Alike user')
    (empty : user.password = "" ↔ user'.password = "")
    (good : accepts user.password = accepts user'.password) :
    Alike Eq (register accepts token user) (register accepts token user') := by
  have valid : user.validate = user'.validate := by
    simp only [User.validate, alike.email_eq, empty]
  refine .bind (.self (only_checkRegistration (fun _ => trivial) trivial)) fun _ _ _ => ?_
  rw [valid]
  refine .bind (.self only_ofExcept) fun _ _ _ => ?_
  exact (alike_checkPassword good).bind fun _ _ _ => alike_enrol alike

/-- Logins under one address are alike, whatever is typed as the password. -/
theorem alike_login {user user' : User} (alike : user.Alike user') :
    Alike Eq (login user) (login user') := by
  rw [login, login, alike.email_eq]
  exact (alike_authenticate user'.email _ _).bind fun u u' hu => alike_issue _ _ hu

/-- Viewing a user is alike to itself, with equal results. -/
theorem alike_viewUser (token id : String) :
    Alike Eq (viewUser token id) (viewUser token id) := by
  refine .bind (.self (only_ask trivial)) fun _ _ _ => ?_
  refine (alike_byId _ id).bind fun u u' hu => .answer ?_
  show { u.redacted with id := id } = { u'.redacted with id := id }
  rw [show u.redacted = u'.redacted from hu]

/-- Viewing the own profile is alike to itself, with equal results. -/
theorem alike_viewProfile (token : String) :
    Alike Eq (viewProfile token) (viewProfile token) := by
  refine .bind (.self (only_ask trivial)) fun caller _ hcaller => ?_
  obtain rfl := hcaller
  refine (alike_byEmail _ caller.email).bind fun u u' hu => .answer ?_
  show { u.redacted with email := caller.email } = { u'.redacted with email := caller.email }
  rw [show u.redacted = u'.redacted from hu]

/-- Updates with records that are alike are alike, with equal results. -/
theorem alike_updateUser (token : String) {user user' : User} (alike : user.Alike user') :
    Alike Eq (updateUser token user) (updateUser token user') := by
  rw [updateUser, updateUser, alike.metadata_eq]
  exact .self (only_bind (only_ask trivial) fun _ => only_ask trivial)

/-- Asking for a recovery mail is alike to itself, with equal results. -/
theorem alike_generateResetToken (email host : String) :
    Alike Eq (generateResetToken email host) (generateResetToken email host) := by
  refine .ite Iff.rfl (.fail rfl) ((alike_existing email).bind fun u u' hu => ?_)
  refine (alike_issue _ _ hu).bind fun token _ htoken => ?_
  obtain rfl := htoken
  exact .self (only_sendPasswordReset trivial)

/-- Resets to passwords on which the policy agrees are alike. -/
theorem alike_resetPassword (token : String) {password password' : String}
    (good : accepts password = accepts password') :
    Alike Eq (resetPassword accepts token password) (resetPassword accepts token password') := by
  refine .ite Iff.rfl (.fail rfl) ?_
  refine .bind (.self (only_ask trivial)) fun caller _ hcaller => ?_
  obtain rfl := hcaller
  refine (alike_existing caller.email).bind fun _ _ _ => ?_
  exact (alike_checkPassword good).bind fun _ _ _ => alike_renewal caller.email _ _

/-- Changes to passwords on which the policy agrees are alike, whatever the old ones. -/
theorem alike_changePassword (token old old' : String) {password password' : String}
    (good : accepts password = accepts password') :
    Alike Eq (changePassword accepts token password old)
      (changePassword accepts token password' old') := by
  refine .bind (.self (only_ask trivial)) fun caller _ hcaller => ?_
  obtain rfl := hcaller
  refine (alike_checkPassword good).bind fun _ _ _ => ?_
  refine (alike_authenticate caller.email old old').attempt.bind fun ending ending' h => ?_
  cases h with
  | error kind => exact .fail rfl
  | ok related =>
    exact (alike_existing caller.email).bind fun _ _ _ => alike_renewal caller.email _ _

/-- No request goes another way for the passwords and hashes that its calls show. -/
theorem alike_self (accepts : String → Bool) (request : ServiceCall) :
    Alike Eq (request.script accepts) (request.script accepts) := by
  cases request with
  | register token user => exact alike_register token rfl Iff.rfl rfl
  | login user => exact alike_login rfl
  | viewUser token id => exact alike_viewUser token id
  | viewProfile token => exact alike_viewProfile token
  | listUsers token offset limit email metadata =>
    refine .self (only_bind (only_ask trivial) fun _ => ?_)
    exact only_bind (only_ask trivial) fun _ => only_pure
  | updateUser token user => exact alike_updateUser token rfl
  | generateResetToken email host => exact alike_generateResetToken email host
  | resetPassword token password => exact alike_resetPassword token rfl
  | changePassword token password old => exact alike_changePassword token old old rfl
  | sendPasswordReset host email token => exact .self (only_sendPasswordReset trivial)
  | listMembers token group offset limit metadata =>
    refine .self (only_bind (only_ask trivial) fun _ => only_bind (only_ask trivial) fun _ => ?_)
    exact only_ite only_pure (only_bind (only_ask trivial) fun _ => only_pure)

end Script

/-- Requests that are the same up to passwords have alike scripts. -/
theorem ServiceCall.Alike.script {accepts : String → Bool} {request request' : ServiceCall}
    (alike : request.Alike accepts request') :
    Script.Alike (fun x y => request.reply x = request'.reply y) (request.script accepts)
      (request'.script accepts) := by
  cases alike with
  | same => exact (Script.alike_self accepts request).imp fun _ _ h => congrArg request.reply h
  | register token alike empty good =>
    exact (Script.alike_register token alike empty good).imp fun _ _ h => congrArg Reply.text h
  | login alike => exact (Script.alike_login alike).imp fun _ _ h => congrArg Reply.text h
  | updateUser token alike => exact (Script.alike_updateUser token alike).imp fun _ _ _ => rfl
  | resetPassword token good => exact (Script.alike_resetPassword token good).imp fun _ _ _ => rfl
  | changePassword token old old' good =>
    exact (Script.alike_changePassword token old old' good).imp fun _ _ _ => rfl

end AccessControl
