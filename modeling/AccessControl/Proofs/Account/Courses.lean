import AccessControl.Proofs.Account.Steps

/-!
# The courses of requests

`Stops` is the table of the steps at which a request can stop. A row has the calls that were made up
to that step, and the failure that the request ends with. `Completes` has the calls of the requests
that get through, and what they answer. Both are about calls and how they ended alone: a request
takes one of these courses, and every one of them is taken (`Script.transcript_iff_ends`).
-/

namespace AccessControl

/-! ## The tables -/

/-- The token that a request resolves before anything else. A registration may come to resolve its
token, but not at first. -/
def ServiceCall.presents? : ServiceCall → Option String
  | viewUser token _ => some token
  | viewProfile token => some token
  | listUsers token .. => some token
  | updateUser token _ => some token
  | resetPassword token _ => if token = "" then none else some token
  | changePassword token .. => some token
  | listMembers token .. => some token
  | register .. | login _ | generateResetToken .. | sendPasswordReset .. => none

/-- How an operation stops: the calls that it made, and its failure. -/
inductive Stops (accepts : String → Bool) : ServiceCall → List Exchange → AccountError → Prop
  /-- The token does not resolve. -/
  | unresolved {request : ServiceCall} {token : String} {cause : IdentityError}
      (presented : request.presents? = some token) :
      Stops accepts request [⟨.identify token, .error cause⟩] (.byIdentity .unauthorized cause)
  | turnedAway {token : String} {user : User} {calls : List Exchange} {error : AccountError}
      (turned : TurnedAway token calls error) : Stops accepts (.register token user) calls error
  | invalid {token : String} {user : User} {gate : List Exchange} (passed : Gate token gate true)
      (invalid : user.validate ≠ .ok ()) :
      Stops accepts (.register token user) gate (.bare .malformedEntity)
  | weak {token : String} {user : User} {gate : List Exchange} (passed : Gate token gate true)
      (valid : user.validate = .ok ()) (weak : ¬ accepts user.password) :
      Stops accepts (.register token user) gate (.bare .passwordFormat)
  | unenrolled {token : String} {user : User} {gate calls : List Exchange} {error : AccountError}
      (passed : Gate token gate true) (acceptable : user.Acceptable accepts)
      (stops : EnrolmentStops user calls error) :
      Stops accepts (.register token user) (gate ++ calls) error
  /-- The account of someone who logs in is not found. -/
  | stranger {user : User} {cause : AccountError} :
      Stops accepts (.login user) [⟨.byEmail user.email, .error cause⟩]
        (.byAccount .unauthorized cause)
  /-- The password of someone who logs in is not confirmed. -/
  | mismatch {user stored : User} {cause : HashError} :
      Stops accepts (.login user) [⟨.byEmail user.email, .ok stored⟩,
        ⟨.compare user.password stored.password, .error cause⟩] (.byHash .unauthorized cause)
  | unissued {user stored : User} {cause : IdentityError} :
      Stops accepts (.login user) [⟨.byEmail user.email, .ok stored⟩,
        ⟨.compare user.password stored.password, .ok ()⟩,
        ⟨.issue stored.id stored.email .user, .error cause⟩] (.byIdentity .getToken cause)
  | unviewed {token id : String} {caller : Identity} {cause : AccountError} :
      Stops accepts (.viewUser token id) [⟨.identify token, .ok caller⟩, ⟨.byId id, .error cause⟩]
        (.byAccount .unauthorized cause)
  | unprofiled {token : String} {caller : Identity} {cause : AccountError} :
      Stops accepts (.viewProfile token)
        [⟨.identify token, .ok caller⟩, ⟨.byEmail caller.email, .error cause⟩]
        (.byAccount .unauthorized cause)
  | unlisted {token email : String} {offset limit : Nat} {metadata : Metadata} {caller : Identity}
      {error : AccountError} :
      Stops accepts (.listUsers token offset limit email metadata)
        [⟨.identify token, .ok caller⟩,
          ⟨.list { offset, limit, email := if email = "" then none else some email, metadata },
            .error error⟩] error
  | unchanged {token : String} {user : User} {caller : Identity} {error : AccountError} :
      Stops accepts (.updateUser token user) [⟨.identify token, .ok caller⟩,
        ⟨.updateUser { email := caller.email, metadata := user.metadata }, .error error⟩] error
  | unaddressed {host : String} :
      Stops accepts (.generateResetToken "" host) [] (.bare .missingEmail)
  /-- There is no account to be recovered. -/
  | unrecoverable {email host : String} {found : Except AccountError User} {error : AccountError}
      (addressed : email ≠ "") (missing : Missing found error) :
      Stops accepts (.generateResetToken email host) [⟨.byEmail email, found⟩] error
  | unrecovered {email host : String} {user : User} {cause : IdentityError}
      (addressed : email ≠ "") (there : user.email ≠ "") :
      Stops accepts (.generateResetToken email host) [⟨.byEmail email, .ok user⟩,
        ⟨.issue user.id user.email .recovery, .error cause⟩] (.byIdentity .recoveryToken cause)
  | unmailed {email host token reason : String} {user : User} (addressed : email ≠ "")
      (there : user.email ≠ "") :
      Stops accepts (.generateResetToken email host) [⟨.byEmail email, .ok user⟩,
        ⟨.issue user.id user.email .recovery, .ok token⟩,
        ⟨.sendReset [email] host token, .error reason⟩] (.byNote .emailDelivery reason)
  | tokenless {password : String} :
      Stops accepts (.resetPassword "" password) [] (.bare .missingResetToken)
  /-- The account of the caller is gone. -/
  | resetMissing {token password : String} {caller : Identity} {found : Except AccountError User}
      {error : AccountError} (named : token ≠ "") (missing : Missing found error) :
      Stops accepts (.resetPassword token password)
        [⟨.identify token, .ok caller⟩, ⟨.byEmail caller.email, found⟩] error
  | resetWeak {token password : String} {caller : Identity} {user : User} (named : token ≠ "")
      (there : user.email ≠ "") (weak : ¬ accepts password) :
      Stops accepts (.resetPassword token password)
        [⟨.identify token, .ok caller⟩, ⟨.byEmail caller.email, .ok user⟩] (.bare .passwordFormat)
  | unreset {token password : String} {caller : Identity} {user : User} {calls : List Exchange}
      {error : AccountError} (named : token ≠ "") (there : user.email ≠ "")
      (accepted : accepts password) (stops : RenewalStops caller.email password calls error) :
      Stops accepts (.resetPassword token password)
        (⟨.identify token, .ok caller⟩ :: ⟨.byEmail caller.email, .ok user⟩ :: calls) error
  | changeWeak {token password old : String} {caller : Identity} (weak : ¬ accepts password) :
      Stops accepts (.changePassword token password old) [⟨.identify token, .ok caller⟩]
        (.bare .passwordFormat)
  /-- The account of the caller is gone, and the old password cannot be confirmed. -/
  | oldUnknown {token password old : String} {caller : Identity} {cause : AccountError}
      (accepted : accepts password) :
      Stops accepts (.changePassword token password old)
        [⟨.identify token, .ok caller⟩, ⟨.byEmail caller.email, .error cause⟩] (.bare .unauthorized)
  | oldMismatch {token password old : String} {caller : Identity} {stored : User}
      {cause : HashError} (accepted : accepts password) :
      Stops accepts (.changePassword token password old)
        [⟨.identify token, .ok caller⟩, ⟨.byEmail caller.email, .ok stored⟩,
          ⟨.compare old stored.password, .error cause⟩] (.bare .unauthorized)
  /-- The account of the caller is gone behind the confirmation of the old password. -/
  | changeMissing {token password old : String} {caller : Identity} {stored : User}
      {found : Except AccountError User} {error : AccountError} (accepted : accepts password)
      (missing : Missing found error) :
      Stops accepts (.changePassword token password old)
        [⟨.identify token, .ok caller⟩, ⟨.byEmail caller.email, .ok stored⟩,
          ⟨.compare old stored.password, .ok ()⟩, ⟨.byEmail caller.email, found⟩] error
  | changeUndone {token password old : String} {caller : Identity} {stored user : User}
      {calls : List Exchange} {error : AccountError} (accepted : accepts password)
      (there : user.email ≠ "") (stops : RenewalStops caller.email password calls error) :
      Stops accepts (.changePassword token password old)
        (⟨.identify token, .ok caller⟩ :: ⟨.byEmail caller.email, .ok stored⟩ ::
          ⟨.compare old stored.password, .ok ()⟩ :: ⟨.byEmail caller.email, .ok user⟩ :: calls)
        error
  | unsent {host email token reason : String} :
      Stops accepts (.sendPasswordReset host email token)
        [⟨.sendReset [email] host token, .error reason⟩] (.byNote .emailDelivery reason)
  | unenumerated {token group : String} {offset limit : Nat} {metadata : Metadata}
      {caller : Identity} {cause : IdentityError} :
      Stops accepts (.listMembers token group offset limit metadata)
        [⟨.identify token, .ok caller⟩,
          ⟨.members token group offset limit Script.userMembers, .error cause⟩]
        (.byIdentity .authorization cause)
  | membersUnlisted {token group : String} {offset limit : Nat} {metadata : Metadata}
      {caller : Identity} {ids : List String} {error : AccountError} (inhabited : ids ≠ []) :
      Stops accepts (.listMembers token group offset limit metadata)
        [⟨.identify token, .ok caller⟩,
          ⟨.members token group offset limit Script.userMembers, .ok ids⟩,
          ⟨.list { offset := 0, limit := ids.length, ids := some ids, metadata }, .error error⟩]
        error

/-- How an operation gets through: the calls that it made, none of which failed for it, and its
answer. -/
inductive Completes (accepts : String → Bool) :
    (request : ServiceCall) → List Exchange → request.Answer → Prop
  | registered {token : String} {user : User} {gate : List Exchange} {id hash saved : String}
      (passed : Gate token gate true) (acceptable : user.Acceptable accepts) :
      Completes accepts (.register token user)
        (gate ++ [⟨.freshId, .ok id⟩, ⟨.addPolicy (.ownership id), .ok true⟩,
          ⟨.hash user.password, .ok hash⟩,
          ⟨.save { user with id := id, password := hash }, .ok saved⟩]) saved
  | loggedIn {user stored : User} {token : String} :
      Completes accepts (.login user) [⟨.byEmail user.email, .ok stored⟩,
        ⟨.compare user.password stored.password, .ok ()⟩,
        ⟨.issue stored.id stored.email .user, .ok token⟩] token
  | viewed {token id : String} {caller : Identity} {stored : User} :
      Completes accepts (.viewUser token id)
        [⟨.identify token, .ok caller⟩, ⟨.byId id, .ok stored⟩] { stored.redacted with id := id }
  | profiled {token : String} {caller : Identity} {stored : User} :
      Completes accepts (.viewProfile token)
        [⟨.identify token, .ok caller⟩, ⟨.byEmail caller.email, .ok stored⟩]
        { stored.redacted with email := caller.email }
  | listed {token email : String} {offset limit : Nat} {metadata : Metadata} {caller : Identity}
      {page : Page User} :
      Completes accepts (.listUsers token offset limit email metadata)
        [⟨.identify token, .ok caller⟩,
          ⟨.list { offset, limit, email := if email = "" then none else some email, metadata },
            .ok page⟩] ((page.withWindow offset limit).map User.redacted)
  | changed {token : String} {user : User} {caller : Identity} :
      Completes accepts (.updateUser token user) [⟨.identify token, .ok caller⟩,
        ⟨.updateUser { email := caller.email, metadata := user.metadata }, .ok ()⟩] ()
  | mailed {email host token : String} {user : User} (addressed : email ≠ "")
      (there : user.email ≠ "") :
      Completes accepts (.generateResetToken email host) [⟨.byEmail email, .ok user⟩,
        ⟨.issue user.id user.email .recovery, .ok token⟩,
        ⟨.sendReset [email] host token, .ok ()⟩] ()
  | reset {token password hash : String} {caller : Identity} {user : User} (named : token ≠ "")
      (there : user.email ≠ "") (accepted : accepts password) :
      Completes accepts (.resetPassword token password)
        [⟨.identify token, .ok caller⟩, ⟨.byEmail caller.email, .ok user⟩,
          ⟨.hash password, .ok hash⟩, ⟨.updatePassword caller.email hash, .ok ()⟩] ()
  | renewed {token password old hash : String} {caller : Identity} {stored user : User}
      (accepted : accepts password) (there : user.email ≠ "") :
      Completes accepts (.changePassword token password old)
        [⟨.identify token, .ok caller⟩, ⟨.byEmail caller.email, .ok stored⟩,
          ⟨.compare old stored.password, .ok ()⟩, ⟨.byEmail caller.email, .ok user⟩,
          ⟨.hash password, .ok hash⟩, ⟨.updatePassword caller.email hash, .ok ()⟩] ()
  | sent {host email token : String} :
      Completes accepts (.sendPasswordReset host email token)
        [⟨.sendReset [email] host token, .ok ()⟩] ()
  | memberless {token group : String} {offset limit : Nat} {metadata : Metadata}
      {caller : Identity} :
      Completes accepts (.listMembers token group offset limit metadata)
        [⟨.identify token, .ok caller⟩,
          ⟨.members token group offset limit Script.userMembers, .ok []⟩] (Page.empty offset limit)
  | membersListed {token group : String} {offset limit : Nat} {metadata : Metadata}
      {caller : Identity} {ids : List String} {page : Page User} (inhabited : ids ≠ []) :
      Completes accepts (.listMembers token group offset limit metadata)
        [⟨.identify token, .ok caller⟩,
          ⟨.members token group offset limit Script.userMembers, .ok ids⟩,
          ⟨.list { offset := 0, limit := ids.length, ids := some ids, metadata }, .ok page⟩]
        ((page.withWindow offset limit).map User.redacted)

/-- The calls of a request, and how it ends: it stops, or it gets through. -/
def Ends (accepts : String → Bool) (request : ServiceCall) (calls : List Exchange) :
    Except AccountError request.Answer → Prop
  | .ok x => Completes accepts request calls x
  | .error error => Stops accepts request calls error

/-! ## Operations -/

namespace Script

variable {calls : List Exchange} {accepts : String → Bool}

/-- A script that begins with a check of a password stops there, or the password is good enough. -/
theorem Transcript.checkPassword_cases {β : Type} {password : String} {next : Unit → Script β}
    {result : Except AccountError β}
    (h : (checkPassword accepts password >>= next).Transcript calls result) :
    ¬ accepts password ∧ calls = [] ∧ result = .error (.bare .passwordFormat) ∨
      accepts password ∧ (next ()).Transcript calls result := by
  obtain ⟨_, hcheck, rfl⟩ | ⟨_, _, _, hcheck, hrest, rfl⟩ := transcript_bind.mp h <;>
    obtain ⟨rfl, ⟨accepted, hresult⟩ | ⟨weak, hresult⟩⟩ := transcript_checkPassword.mp hcheck <;>
    cases hresult
  · exact Or.inl ⟨weak, rfl, rfl⟩
  · exact Or.inr ⟨accepted, hrest⟩

/-- A script that begins with a look-up stops there, or goes on with the record that was found. -/
theorem Transcript.existing_cases {β : Type} {email : String} {next : User → Script β}
    {result : Except AccountError β} (h : (existing email >>= next).Transcript calls result) :
    (∃ found error, Missing found error ∧ calls = [⟨.byEmail email, found⟩] ∧
        result = .error error) ∨
      ∃ user later, user.email ≠ "" ∧ calls = ⟨.byEmail email, .ok user⟩ :: later ∧
        (next user).Transcript later result := by
  obtain ⟨_, hfind, rfl⟩ | ⟨_, _, _, hfind, hrest, rfl⟩ := transcript_bind.mp h <;>
    obtain ⟨found, rfl, ⟨error, missing, hresult⟩ | ⟨user, rfl, there, hresult⟩⟩ :=
      transcript_existing.mp hfind <;> cases hresult
  · exact Or.inl ⟨found, _, missing, rfl, rfl⟩
  · exact Or.inr ⟨_, _, there, rfl, hrest⟩

/-- What a registration comes to is what its calls call for. -/
theorem register_ends {token : String} {user : User} {result : Except AccountError String}
    (h : (register accepts token user).Transcript calls result) :
    Ends accepts (.register token user) calls result := by
  obtain ⟨_, hgate, rfl⟩ | ⟨_, gate, _, hgate, hpassed, rfl⟩ := transcript_bind.mp h <;>
    obtain ⟨passed, hresult⟩ | ⟨error, turned, hresult⟩ := transcript_checkRegistration.mp hgate <;>
    cases hresult
  · exact Stops.turnedAway turned
  -- behind the gate, no call is made before the user is acceptable
  cases valid : user.validate with
  | error error =>
    rw [valid] at hpassed
    obtain ⟨rfl, rfl⟩ := transcript_fail.mp hpassed
    obtain ⟨invalid, rfl⟩ := User.validate_eq_error_iff.mp valid
    rw [List.append_nil]
    exact Stops.invalid passed invalid
  | ok _ =>
    rw [valid] at hpassed
    obtain ⟨weak, rfl, rfl⟩ | ⟨accepted, henrol⟩ := Transcript.checkPassword_cases hpassed
    · rw [List.append_nil]
      exact Stops.weak passed valid weak
    obtain ⟨error, stops, rfl⟩ | ⟨id, hash, saved, rfl, rfl⟩ := transcript_enrol.mp henrol
    · exact Stops.unenrolled passed ⟨valid, accepted⟩ stops
    · exact Completes.registered passed ⟨valid, accepted⟩

/-- What a reset comes to is what its calls call for. -/
theorem resetPassword_ends {token password : String} {result : Except AccountError Unit}
    (h : (resetPassword accepts token password).Transcript calls result) :
    Ends accepts (.resetPassword token password) calls result := by
  obtain ⟨rfl, hfail⟩ | ⟨named, hgo⟩ := transcript_ite.mp h
  · obtain ⟨rfl, rfl⟩ := transcript_fail.mp hfail
    exact Stops.tokenless
  obtain ⟨cause, rfl, rfl⟩ | ⟨caller, _, rfl, hcaller⟩ := transcript_ask_bind.mp hgo
  · exact Stops.unresolved (if_neg named)
  obtain ⟨found, error, missing, rfl, rfl⟩ | ⟨user, _, there, rfl, hthere⟩ :=
    Transcript.existing_cases hcaller
  · exact Stops.resetMissing named missing
  obtain ⟨weak, rfl, rfl⟩ | ⟨accepted, hstore⟩ := Transcript.checkPassword_cases hthere
  · exact Stops.resetWeak named there weak
  obtain ⟨error, stops, rfl⟩ | ⟨made, rfl, rfl⟩ := transcript_renewal.mp hstore
  · exact Stops.unreset named there accepted stops
  · exact Completes.reset named there accepted

/-- What a change of password comes to is what its calls call for. -/
theorem changePassword_ends {token password old : String} {result : Except AccountError Unit}
    (h : (changePassword accepts token password old).Transcript calls result) :
    Ends accepts (.changePassword token password old) calls result := by
  obtain ⟨cause, rfl, rfl⟩ | ⟨caller, _, rfl, hcaller⟩ := transcript_ask_bind.mp h
  · exact Stops.unresolved rfl
  obtain ⟨weak, rfl, rfl⟩ | ⟨accepted, hrest⟩ := Transcript.checkPassword_cases hcaller
  · exact Stops.changeWeak weak
  -- a failure to confirm the old password is answered with another one, whatever it was
  obtain ⟨_, hold, _⟩ | ⟨_, _, _, hold, hconfirmed, rfl⟩ := transcript_bind.mp hrest <;>
    obtain ⟨_, hold, hresult⟩ := transcript_attempt.mp hold <;> cases hresult
  obtain ⟨cause, rfl, rfl⟩ | ⟨stored, cause | _, rfl, rfl⟩ := transcript_authenticate.mp hold
  · obtain ⟨rfl, rfl⟩ := transcript_fail.mp hconfirmed
    exact Stops.oldUnknown accepted
  · obtain ⟨rfl, rfl⟩ := transcript_fail.mp hconfirmed
    exact Stops.oldMismatch accepted
  obtain ⟨found, error, missing, rfl, rfl⟩ | ⟨user, _, there, rfl, hstore⟩ :=
    Transcript.existing_cases hconfirmed
  · exact Stops.changeMissing accepted missing
  obtain ⟨error, stops, rfl⟩ | ⟨made, rfl, rfl⟩ := transcript_renewal.mp hstore
  · exact Stops.changeUndone accepted there stops
  · exact Completes.renewed accepted there

/-- What asking for a recovery mail comes to is what its calls call for. -/
theorem generateResetToken_ends {email host : String} {result : Except AccountError Unit}
    (h : (generateResetToken email host).Transcript calls result) :
    Ends accepts (.generateResetToken email host) calls result := by
  obtain ⟨rfl, hfail⟩ | ⟨addressed, hgo⟩ := transcript_ite.mp h
  · obtain ⟨rfl, rfl⟩ := transcript_fail.mp hfail
    exact Stops.unaddressed
  obtain ⟨found, error, missing, rfl, rfl⟩ | ⟨user, _, there, rfl, hrest⟩ :=
    Transcript.existing_cases hgo
  · exact Stops.unrecoverable addressed missing
  obtain ⟨cause, rfl, rfl⟩ | ⟨token, _, rfl, hsend⟩ := transcript_ask_bind.mp hrest
  · exact Stops.unrecovered addressed there
  obtain ⟨reason | _, rfl, rfl⟩ := transcript_sendPasswordReset.mp hsend
  · exact Stops.unmailed addressed there
  · exact Completes.mailed addressed there

/-- Whatever a request does, it stops or gets through as in the tables. -/
theorem ends_of_transcript {request : ServiceCall} {result : Except AccountError request.Answer}
    (h : (request.script accepts).Transcript calls result) :
    Ends accepts request calls result := by
  cases request with
  | register token user => exact register_ends h
  | login user =>
    obtain ⟨_, hfirst, rfl⟩ | ⟨_, _, _, hfirst, hrest, rfl⟩ := transcript_bind.mp h <;>
      obtain ⟨cause, rfl, hresult⟩ | ⟨stored, cause | _, rfl, hresult⟩ :=
        transcript_authenticate.mp hfirst <;> cases hresult
    · exact Stops.stranger
    · exact Stops.mismatch
    obtain ⟨cause | token, rfl, rfl⟩ := transcript_ask.mp hrest
    · exact Stops.unissued
    · exact Completes.loggedIn
  | viewUser token id =>
    obtain ⟨cause, rfl, rfl⟩ | ⟨caller, _, rfl, hcaller⟩ := transcript_ask_bind.mp h
    · exact Stops.unresolved rfl
    obtain ⟨cause, rfl, rfl⟩ | ⟨stored, _, rfl, hstored⟩ := transcript_ask_bind.mp hcaller
    · exact Stops.unviewed
    obtain ⟨rfl, rfl⟩ := transcript_pure.mp hstored
    exact Completes.viewed
  | viewProfile token =>
    obtain ⟨cause, rfl, rfl⟩ | ⟨caller, _, rfl, hcaller⟩ := transcript_ask_bind.mp h
    · exact Stops.unresolved rfl
    obtain ⟨cause, rfl, rfl⟩ | ⟨stored, _, rfl, hstored⟩ := transcript_ask_bind.mp hcaller
    · exact Stops.unprofiled
    obtain ⟨rfl, rfl⟩ := transcript_pure.mp hstored
    exact Completes.profiled
  | listUsers token offset limit email metadata =>
    obtain ⟨cause, rfl, rfl⟩ | ⟨caller, _, rfl, hcaller⟩ := transcript_ask_bind.mp h
    · exact Stops.unresolved rfl
    obtain ⟨error, rfl, rfl⟩ | ⟨page, _, rfl, hpage⟩ := transcript_ask_bind.mp hcaller
    · exact Stops.unlisted
    obtain ⟨rfl, rfl⟩ := transcript_pure.mp hpage
    exact Completes.listed
  | updateUser token user =>
    obtain ⟨cause, rfl, rfl⟩ | ⟨caller, _, rfl, hcaller⟩ := transcript_ask_bind.mp h
    · exact Stops.unresolved rfl
    obtain ⟨error | _, rfl, rfl⟩ := transcript_ask.mp hcaller
    · exact Stops.unchanged
    · exact Completes.changed
  | generateResetToken email host => exact generateResetToken_ends h
  | resetPassword token password => exact resetPassword_ends h
  | changePassword token password old => exact changePassword_ends h
  | sendPasswordReset host email token =>
    obtain ⟨reason | _, rfl, rfl⟩ := transcript_sendPasswordReset.mp h
    · exact Stops.unsent
    · exact Completes.sent
  | listMembers token group offset limit metadata =>
    obtain ⟨cause, rfl, rfl⟩ | ⟨caller, _, rfl, hcaller⟩ := transcript_ask_bind.mp h
    · exact Stops.unresolved rfl
    obtain ⟨cause, rfl, rfl⟩ | ⟨ids, _, rfl, hids⟩ := transcript_ask_bind.mp hcaller
    · exact Stops.unenumerated
    obtain ⟨rfl, hpure⟩ | ⟨inhabited, hlist⟩ := transcript_ite.mp hids
    · obtain ⟨rfl, rfl⟩ := transcript_pure.mp hpure
      exact Completes.memberless
    obtain ⟨error, rfl, rfl⟩ | ⟨page, _, rfl, hpage⟩ := transcript_ask_bind.mp hlist
    · exact Stops.membersUnlisted inhabited
    obtain ⟨rfl, rfl⟩ := transcript_pure.mp hpage
    exact Completes.membersListed inhabited

/-! ## Every row is met -/

section Rows

variable {α β : Type} {result : Except AccountError β}

/-- A question that is answered stands in front of the rest. -/
theorem Transcript.ask_then {request : BackingCall} {report : request.Failure → AccountError}
    {next : request.Answer → Script β} {x : request.Answer}
    (rest : (next x).Transcript calls result) :
    (ask request report >>= next).Transcript (⟨request, .ok x⟩ :: calls) result :=
  .call (.ok x) rest

/-- An accepted password leaves no trace in front of the rest. -/
theorem Transcript.checkPassword_then {password : String} {next : Unit → Script β}
    (accepted : accepts password) (rest : (next ()).Transcript calls result) :
    (checkPassword accepts password >>= next).Transcript calls result :=
  transcript_bind.mpr
    (Or.inr ⟨(), [], calls, transcript_checkPassword.mpr ⟨rfl, Or.inl ⟨accepted, rfl⟩⟩, rest, rfl⟩)

/-- A password that is too weak ends a script without a call. -/
theorem Transcript.checkPassword_stops {password : String} {next : Unit → Script β}
    (weak : ¬ accepts password) :
    (checkPassword accepts password >>= next).Transcript [] (.error (.bare .passwordFormat)) :=
  transcript_bind.mpr
    (Or.inl ⟨_, transcript_checkPassword.mpr ⟨rfl, Or.inr ⟨weak, rfl⟩⟩, rfl⟩)

/-- An account that is there stands in front of the rest. -/
theorem Transcript.existing_then {email : String} {user : User} {next : User → Script β}
    (there : user.email ≠ "") (rest : (next user).Transcript calls result) :
    (existing email >>= next).Transcript (⟨.byEmail email, .ok user⟩ :: calls) result :=
  transcript_bind.mpr (Or.inr ⟨user, [_], calls,
    transcript_existing.mpr ⟨_, rfl, Or.inr ⟨user, rfl, there, rfl⟩⟩, rest, rfl⟩)

/-- An account that is missing ends a script behind the lookup. -/
theorem Transcript.existing_stops {email : String} {found : Except AccountError User}
    {error : AccountError} {next : User → Script β} (missing : Missing found error) :
    (existing email >>= next).Transcript [⟨.byEmail email, found⟩] (.error error) :=
  transcript_bind.mpr
    (Or.inl ⟨_, transcript_existing.mpr ⟨found, rfl, Or.inl ⟨error, missing, rfl⟩⟩, rfl⟩)

/-- Behind a script that was tried and failed, there need not be any call. -/
theorem Transcript.attempt_failed {script : Script α} {error : AccountError}
    {next : Except AccountError α → Script β} (failed : script.Transcript calls (.error error))
    (rest : (next (.error error)).Transcript [] result) :
    (script.attempt >>= next).Transcript calls result :=
  transcript_bind.mpr (Or.inr ⟨.error error, calls, [], transcript_attempt.mpr ⟨_, failed, rfl⟩,
    rest, calls.append_nil.symm⟩)

/-- A confirmed password lets a change of it go on. -/
theorem Transcript.confirmed_then {email password : String} {stored : User}
    {next : Except AccountError User → Script β}
    (rest : (next (.ok stored)).Transcript calls result) :
    ((authenticate email password).attempt >>= next).Transcript
      (⟨.byEmail email, .ok stored⟩ :: ⟨.compare password stored.password, .ok ()⟩ :: calls)
      result := by
  refine transcript_bind.mpr (Or.inr ⟨.ok stored, [_, _], calls, ?_, rest, rfl⟩)
  exact transcript_attempt.mpr
    ⟨_, transcript_authenticate.mpr (Or.inr ⟨stored, .ok (), rfl, rfl⟩), rfl⟩

/-- Behind an open gate a registration goes on with its user. -/
theorem Transcript.register_then {token : String} {user : User} {gate : List Exchange}
    {result : Except AccountError String} (passed : Gate token gate true)
    (rest : (ofExcept user.validate >>= fun _ => checkPassword accepts user.password >>= fun _ =>
      enrol user).Transcript calls result) :
    (register accepts token user).Transcript (gate ++ calls) result :=
  transcript_bind.mpr (Or.inr ⟨(), gate, calls,
    transcript_checkRegistration.mpr (Or.inl ⟨passed, rfl⟩), rest, rfl⟩)

end Rows

/-- An acceptable record is enrolled behind the gate. -/
theorem transcript_register_of_acceptable {token : String} {user : User} {gate : List Exchange}
    {result : Except AccountError String} (passed : Gate token gate true)
    (acceptable : user.Acceptable accepts) (rest : (enrol user).Transcript calls result) :
    (register accepts token user).Transcript (gate ++ calls) result := by
  refine .register_then passed ?_
  rw [acceptable.1]
  exact Transcript.checkPassword_then acceptable.2 rest

/-- Calls that stop a request are a transcript of it. -/
theorem transcript_of_stops {request : ServiceCall} {error : AccountError}
    (stops : Stops accepts request calls error) :
    (request.script accepts).Transcript calls (.error error) := by
  cases stops with
  | unresolved presented =>
    cases request with
    | register | login | generateResetToken | sendPasswordReset => cases presented
    | resetPassword token password =>
      by_cases unnamed : token = ""
      · cases (if_pos unnamed).symm.trans presented
      · obtain rfl := Option.some.inj ((if_neg unnamed).symm.trans presented)
        exact transcript_ite.mpr (Or.inr ⟨unnamed, .call _ (.fail _)⟩)
    | _ =>
      cases presented
      exact .call _ (.fail _)
  | turnedAway turned =>
    exact transcript_bind.mpr
      (Or.inl ⟨_, transcript_checkRegistration.mpr (Or.inr ⟨_, turned, rfl⟩), rfl⟩)
  | invalid passed invalid =>
    rw [← List.append_nil calls]
    refine .register_then passed ?_
    rw [User.validate_eq_error_iff.mpr ⟨invalid, rfl⟩]
    exact .fail _
  | weak passed valid weak =>
    rw [← List.append_nil calls]
    refine .register_then passed ?_
    rw [valid]
    exact Transcript.checkPassword_stops weak
  | unenrolled passed acceptable stops =>
    exact transcript_register_of_acceptable passed acceptable
      (transcript_enrol.mpr (Or.inl ⟨_, stops, rfl⟩))
  | stranger => exact .call _ (.fail _)
  | mismatch =>
    refine .call _ ?_
    exact .call _ (.fail _)
  | unissued =>
    refine .call _ ?_
    refine .call _ ?_
    exact .call _ (.fail _)
  | unviewed | unprofiled | unlisted | unchanged =>
    refine .ask_then ?_
    exact .call _ (.fail _)
  | unaddressed => exact .fail _
  | unrecoverable addressed missing =>
    exact transcript_ite.mpr (Or.inr ⟨addressed, .existing_stops missing⟩)
  | unrecovered addressed there =>
    refine transcript_ite.mpr (Or.inr ⟨addressed, .existing_then there ?_⟩)
    exact .call _ (.fail _)
  | unmailed addressed there =>
    refine transcript_ite.mpr (Or.inr ⟨addressed, .existing_then there (.ask_then ?_)⟩)
    exact transcript_sendPasswordReset.mpr ⟨_, rfl, rfl⟩
  | tokenless => exact .fail _
  | resetMissing named missing =>
    exact transcript_ite.mpr (Or.inr ⟨named, .ask_then (.existing_stops missing)⟩)
  | resetWeak named there weak =>
    refine transcript_ite.mpr (Or.inr ⟨named, .ask_then (.existing_then there ?_)⟩)
    exact .checkPassword_stops weak
  | unreset named there accepted stops =>
    refine transcript_ite.mpr (Or.inr ⟨named, .ask_then (.existing_then there ?_)⟩)
    exact .checkPassword_then accepted (transcript_renewal.mpr (Or.inl ⟨_, stops, rfl⟩))
  | changeWeak weak => exact .ask_then (.checkPassword_stops weak)
  | oldUnknown accepted =>
    exact .ask_then (.checkPassword_then accepted
      (.attempt_failed (transcript_authenticate.mpr (Or.inl ⟨_, rfl, rfl⟩)) (.fail _)))
  | oldMismatch accepted =>
    exact .ask_then (.checkPassword_then accepted
      (.attempt_failed (transcript_authenticate.mpr (Or.inr ⟨_, .error _, rfl, rfl⟩)) (.fail _)))
  | changeMissing accepted missing =>
    refine .ask_then (.checkPassword_then accepted (.confirmed_then ?_))
    exact .existing_stops missing
  | changeUndone accepted there stops =>
    refine .ask_then (.checkPassword_then accepted (.confirmed_then (.existing_then there ?_)))
    exact transcript_renewal.mpr (Or.inl ⟨_, stops, rfl⟩)
  | unsent => exact transcript_sendPasswordReset.mpr ⟨_, rfl, rfl⟩
  | unenumerated =>
    refine .ask_then ?_
    exact .call _ (.fail _)
  | membersUnlisted inhabited =>
    refine .ask_then (.ask_then (transcript_ite.mpr (Or.inr ⟨inhabited, ?_⟩)))
    exact .call _ (.fail _)

/-- Calls that get a request through are a transcript of it. -/
theorem transcript_of_completes {request : ServiceCall} {x : request.Answer}
    (completes : Completes accepts request calls x) :
    (request.script accepts).Transcript calls (.ok x) := by
  cases completes with
  | registered passed acceptable =>
    refine transcript_register_of_acceptable passed acceptable ?_
    exact transcript_enrol.mpr (Or.inr ⟨_, _, _, rfl, rfl⟩)
  | loggedIn =>
    refine .call _ ?_
    refine .call _ ?_
    refine .call _ ?_
    exact .answer _
  | viewed | profiled | listed | changed =>
    refine .ask_then ?_
    refine .call _ ?_
    exact .answer _
  | mailed addressed there =>
    refine transcript_ite.mpr (Or.inr ⟨addressed, .existing_then there (.ask_then ?_)⟩)
    exact transcript_sendPasswordReset.mpr ⟨_, rfl, rfl⟩
  | reset named there accepted =>
    refine transcript_ite.mpr (Or.inr ⟨named, .ask_then (.existing_then there ?_)⟩)
    exact .checkPassword_then accepted (transcript_renewal.mpr (Or.inr ⟨_, rfl, rfl⟩))
  | renewed accepted there =>
    refine .ask_then (.checkPassword_then accepted (.confirmed_then (.existing_then there ?_)))
    exact transcript_renewal.mpr (Or.inr ⟨_, rfl, rfl⟩)
  | sent => exact transcript_sendPasswordReset.mpr ⟨_, rfl, rfl⟩
  | memberless => exact .ask_then (.ask_then (transcript_ite.mpr (Or.inl ⟨rfl, .answer _⟩)))
  | membersListed inhabited =>
    refine .ask_then (.ask_then (transcript_ite.mpr (Or.inr ⟨inhabited, .ask_then ?_⟩)))
    exact .answer _

/-- The courses of the tables are those that requests can take. -/
theorem transcript_iff_ends {request : ServiceCall} {result : Except AccountError request.Answer} :
    (request.script accepts).Transcript calls result ↔ Ends accepts request calls result := by
  refine ⟨ends_of_transcript, fun h => ?_⟩
  cases result with
  | error error => exact transcript_of_stops h
  | ok x => exact transcript_of_completes h

end Script

end AccessControl
