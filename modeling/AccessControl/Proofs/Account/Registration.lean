import AccessControl.Proofs.Account.Exchanges

/-!
# The order of a registration

A registration first goes through a *gate*: it asks whether registration is open, and only if it is
not, who the caller is and whether the caller is an administrator. Only behind the gate, and only
for a well-formed record, does it *enrol* the user: it draws an id, grants ownership of it, hashes
the password and saves the record, and it stops at the first of these calls that does not give
leave.

`register_exchanges` says that the calls of a registration are always those of a gate, followed by
those of an enrolment if there is one, whatever stands behind the service.
-/

namespace AccessControl

variable {σ : Type}

/-- The calls of a gate, and whether they let the registration pass. -/
inductive Gate (token : String) : List Exchange → Bool → Prop
  /-- Registration is open. -/
  | opened : Gate token [⟨.authorize .bootstrap, .ok true⟩] true
  /-- Nobody is named who could register others. -/
  | anonymous {answer : Except IdentityError Bool} (closed : answer ≠ .ok true)
      (unnamed : token = "") : Gate token [⟨.authorize .bootstrap, answer⟩] false
  /-- The token does not resolve. -/
  | unresolved {answer : Except IdentityError Bool} (error : IdentityError)
      (closed : answer ≠ .ok true) (named : token ≠ "") :
      Gate token [⟨.authorize .bootstrap, answer⟩, ⟨.identify token, .error error⟩] false
  /-- The caller is an administrator, or is not. -/
  | resolved {answer : Except IdentityError Bool} (caller : Identity)
      {verdict : Except IdentityError Bool} {passes : Bool} (closed : answer ≠ .ok true)
      (named : token ≠ "") (judged : passes = true ↔ verdict = .ok true) :
      Gate token [⟨.authorize .bootstrap, answer⟩, ⟨.identify token, .ok caller⟩,
        ⟨.authorize (.authority caller.id), verdict⟩] passes

/-- The calls that enrol a user, and how they end. -/
inductive Enrolment (user : User) : List Exchange → Except AccountError String → Prop
  | undrawn (failure : String) {error : AccountError} :
      Enrolment user [⟨.freshId, .error failure⟩] (.error error)
  | ungranted (id : String) {answer : Except IdentityError Bool} {error : AccountError}
      (refused : answer ≠ .ok true) :
      Enrolment user [⟨.freshId, .ok id⟩, ⟨.addPolicy (.ownership id), answer⟩] (.error error)
  | unhashed (id : String) (failure : HashError) {error : AccountError} :
      Enrolment user [⟨.freshId, .ok id⟩, ⟨.addPolicy (.ownership id), .ok true⟩,
        ⟨.hash user.password, .error failure⟩] (.error error)
  | saved (id hash : String) {ending : Except AccountError String} :
      Enrolment user [⟨.freshId, .ok id⟩, ⟨.addPolicy (.ownership id), .ok true⟩,
        ⟨.hash user.password, .ok hash⟩,
        ⟨.save { user with id := id, password := hash }, ending⟩] ending

/-- The user has an address and a password, and the password is good enough. -/
def User.Acceptable (user : User) (accepts : String → Bool) : Prop :=
  user.validate = .ok () ∧ accepts user.password = true

/-- The calls of a registration, and how it ends. -/
inductive Registration (accepts : String → Bool) (token : String) (user : User) :
    List Exchange → Except AccountError String → Prop
  | stopped {gate : List Exchange} {error : AccountError} (refused : Gate token gate false) :
      Registration accepts token user gate (.error error)
  | malformed {gate : List Exchange} {error : AccountError} (passed : Gate token gate true)
      (unacceptable : ¬ user.Acceptable accepts) :
      Registration accepts token user gate (.error error)
  | enrolled {gate calls : List Exchange} {result : Except AccountError String}
      (passed : Gate token gate true) (acceptable : user.Acceptable accepts)
      (enrolment : Enrolment user calls result) :
      Registration accepts token user (gate ++ calls) result

/-! ## The calls of each part -/

namespace Script

variable {backing : Backing σ} {s : σ} {earlier : List Exchange}

/-- A question or a grant gives leave exactly if it is answered with yes. -/
theorem ensures_granted {answer : Script Bool} {post : Except AccountError Unit → σ → Prop}
    (h : answer.Ensures backing s fun
      | .ok true, s' => post (.ok ()) s'
      | _, s' => ∀ error, post (.error error) s') :
    (granted answer).Ensures backing s post := by
  rw [granted, ensures_bind]
  unfold Ensures at h ⊢
  cases hresult : (answer.run backing s).result with
  | error error =>
    rw [hresult] at h
    exact h error
  | ok yes =>
    rw [hresult] at h
    cases yes with
    | true => exact h
    | false => exact h _

/-- A question for authority goes on behind a yes, and ends in an error behind anything else. -/
theorem ensures_authorize {tuple : RelationTuple} {post : Except AccountError Unit → σ → Prop}
    (yes : (backing (.authorize tuple) s).result = .ok true →
      post (.ok ()) (backing (.authorize tuple) s).state)
    (no : (backing (.authorize tuple) s).result ≠ .ok true →
      ∀ error, post (.error error) (backing (.authorize tuple) s).state) :
    (authorize tuple).Ensures backing s post := by
  apply ensures_granted
  refine ensures_ask.mpr ⟨fun answer h => ?_, fun error h => ?_⟩
  · cases answer with
    | true => exact yes h
    | false => exact no (by simp [h])
  · exact no (by simp [h])

/-- A policy goes on behind a yes, and ends in an error behind anything else. -/
theorem ensures_addPolicy {tuple : RelationTuple} {post : Except AccountError Unit → σ → Prop}
    (yes : (backing (.addPolicy tuple) s).result = .ok true →
      post (.ok ()) (backing (.addPolicy tuple) s).state)
    (no : (backing (.addPolicy tuple) s).result ≠ .ok true →
      ∀ error, post (.error error) (backing (.addPolicy tuple) s).state) :
    (addPolicy tuple).Ensures backing s post := by
  apply ensures_granted
  refine ensures_ask.mpr ⟨fun answer h => ?_, fun error h => ?_⟩
  · cases answer with
    | true => exact yes h
    | false => exact no (by simp [h])
  · exact no (by simp [h])

/-- The gate lets a registration pass exactly if the check of it succeeds. -/
theorem checkRegistration_exchanges (token : String) :
    (checkRegistration token).Ensures backing.recorded (s, earlier) fun result s' =>
      ∃ calls, s'.2 = earlier ++ calls ∧ Gate token calls result.isOk := by
  rw [checkRegistration, ensures_bind, ensures_attempt]
  refine ensures_authorize (fun hopen => ?_) fun hclosed error => ?_
  · rw [onward_ok, ensures_log]
    exact ⟨_, Backing.recorded_log hopen, .opened⟩
  · rw [onward_ok, ensures_ite]
    have hasked : (backing.recorded (.authorize .bootstrap) (s, earlier)).state.2 =
        earlier ++ [⟨.authorize .bootstrap, (backing (.authorize .bootstrap) s).result⟩] :=
      Backing.recorded_log rfl
    refine ⟨fun unnamed => ?_, fun named => ?_⟩
    · rw [ensures_fail]
      exact ⟨_, hasked, .anonymous hclosed unnamed⟩
    · rw [ensures_bind, identify, ensures_ask]
      refine ⟨fun caller hcaller => ?_, fun error herror => ?_⟩
      · rw [onward_ok, ensures_mapError]
        have hresolved := Backing.recorded_snoc hasked hcaller
        refine ensures_authorize (fun hyes => ?_) fun hno error => ?_
        · exact ⟨_, Backing.recorded_snoc hresolved rfl,
            .resolved caller hclosed named (iff_of_true rfl hyes)⟩
        · exact ⟨_, Backing.recorded_snoc hresolved rfl,
            .resolved caller hclosed named (iff_of_false Bool.false_ne_true hno)⟩
      · rw [onward_error]
        exact ⟨_, Backing.recorded_snoc hasked herror, .unresolved error hclosed named⟩

/-- What follows behind the gate for an acceptable user is an enrolment. -/
theorem enrol_exchanges (user : User) :
    (enrol user).Ensures backing.recorded (s, earlier) fun result s' =>
      ∃ calls, s'.2 = earlier ++ calls ∧ Enrolment user calls result := by
  rw [enrol, ensures_bind, ensures_ask]
  refine ⟨fun id hid => ?_, fun failure hfailure => ?_⟩
  · have hdrawn := Backing.recorded_log hid
    rw [onward_ok, ensures_bind, grantOwnership, ensures_bind, ensures_attempt]
    refine ensures_addPolicy (fun hyes => ?_) fun hno error => ?_
    · have hgranted := Backing.recorded_snoc hdrawn hyes
      rw [onward_ok, ensures_pure, onward_ok, ensures_bind, hash, ensures_ask]
      refine ⟨fun hash hhash => ?_, fun failure hfailure => ?_⟩
      · have hhashed := Backing.recorded_snoc hgranted hhash
        rw [onward_ok, ensures_bind, ensures_ask]
        refine ⟨fun saved hsaved => ?_, fun error herror => ?_⟩
        · rw [onward_ok, ensures_bind, ensures_log, onward_ok, ensures_pure]
          exact ⟨_, Backing.recorded_snoc hhashed hsaved, .saved id hash⟩
        · rw [onward_error]
          exact ⟨_, Backing.recorded_snoc hhashed herror, .saved id hash⟩
      · rw [onward_error]
        exact ⟨_, Backing.recorded_snoc hgranted hfailure, .unhashed id failure⟩
    · rw [onward_ok, ensures_bind, ensures_log, onward_ok, ensures_fail, onward_error]
      exact ⟨_, Backing.recorded_snoc hdrawn rfl, .ungranted id hno⟩
  · rw [onward_error]
    exact ⟨_, Backing.recorded_log hfailure, .undrawn failure⟩

end Script

/-- The calls of a registration are those of a gate and of an enrolment. -/
theorem AccountService.register_exchanges (service : AccountService σ) (token : String)
    (user : User) (s : σ) :
    Registration service.accepts token user (service.exchanges (.register token user) s)
      (service.serve (.register token user) s).result := by
  refine exchanges_of_ensures
    (fun (result : Except AccountError (ServiceCall.register token user).Answer) calls =>
      Registration service.accepts token user calls result) ?_
  show (Script.register service.accepts token user).Ensures _ _ _
  rw [Script.register, Script.ensures_bind]
  apply (Script.checkRegistration_exchanges token).mono
  rintro result s' ⟨gate, hgate, gated⟩
  rw [List.nil_append] at hgate
  cases result with
  | error error =>
    rw [Script.onward_error, hgate]
    exact .stopped gated
  | ok _ =>
    rw [Script.onward_ok, Script.ensures_bind, Script.ensures_ofExcept]
    cases hvalid : user.validate with
    | error error =>
      rw [Script.onward_error, hgate]
      exact .malformed gated fun acceptable => by cases hvalid.symm.trans acceptable.1
    | ok _ =>
      rw [Script.onward_ok, Script.ensures_bind, Script.checkPassword, Script.ensures_ite]
      refine ⟨fun accepted => ?_, fun refused => ?_⟩
      · rw [Script.ensures_pure, Script.onward_ok]
        apply (Script.enrol_exchanges user).mono
        rintro result s'' ⟨calls, hcalls, enrolment⟩
        rw [hcalls, hgate]
        exact .enrolled gated ⟨hvalid, accepted⟩ enrolment
      · rw [Script.ensures_fail, Script.onward_error, hgate]
        exact .malformed gated fun acceptable => refused acceptable.2

/-! ## What the calls tell -/

/-- The bootstrap question asks for no one's authority. -/
theorem RelationTuple.bootstrap_ne_authority (subject : String) :
    bootstrap ≠ authority subject := by
  intro h
  exact absurd (congrArg object h) (show Resource.user.name ≠ Resource.authorities.name by decide)

section Calls

variable {token : String} {user : User} {accepts : String → Bool} {gate calls : List Exchange}
  {passes : Bool} {result : Except AccountError String}

/-- A gate lets pass if registration is open or the caller is an administrator. -/
theorem Gate.passes_iff (gated : Gate token gate passes) :
    passes = true ↔ ⟨.authorize .bootstrap, .ok true⟩ ∈ gate ∨ token ≠ "" ∧
      ∃ caller, ⟨.identify token, .ok caller⟩ ∈ gate ∧
        ⟨.authorize (.authority caller.id), .ok true⟩ ∈ gate := by
  cases gated with
  | opened => simp
  | anonymous closed unnamed => simp [unnamed, Ne.symm closed]
  | unresolved error closed named => simp [Ne.symm closed]
  | resolved caller closed named judged =>
    simp [closed, named, judged, RelationTuple.bootstrap_ne_authority, eq_comm]

/-- A gate only asks who may register users. -/
theorem Gate.call_cases (gated : Gate token gate passes) {e : Exchange} (he : e ∈ gate) :
    (∃ tuple, e.call = .authorize tuple) ∨ e.call = .identify token ∧ token ≠ "" := by
  cases gated <;> simp only [List.mem_cons, List.not_mem_nil, or_false] at he <;> grind

/-- An enrolment neither asks nor looks who the caller is. -/
theorem Enrolment.call_cases (enrolment : Enrolment user calls result) {e : Exchange}
    (he : e ∈ calls) :
    (∀ tuple, e.call ≠ .authorize tuple) ∧ ∀ token, e.call ≠ .identify token := by
  cases enrolment <;> simp only [List.mem_cons, List.not_mem_nil, or_false] at he <;> grind

/-- Every enrolment draws an id. -/
theorem Enrolment.draws (enrolment : Enrolment user calls result) :
    ∃ ending, ⟨.freshId, ending⟩ ∈ calls := by
  cases enrolment <;> exact ⟨_, List.mem_cons_self⟩

/-- A record is saved behind its grant and its hash, and nothing happens behind that. -/
theorem Enrolment.eq_of_saves (enrolment : Enrolment user calls result) {saved : User}
    {ending : Except AccountError String} (h : ⟨.save saved, ending⟩ ∈ calls) :
    ∃ id hash, saved = { user with id := id, password := hash } ∧ result = ending ∧
      calls = [⟨.freshId, .ok id⟩, ⟨.addPolicy (.ownership id), .ok true⟩,
        ⟨.hash user.password, .ok hash⟩, ⟨.save saved, ending⟩] := by
  cases enrolment with
  | undrawn | ungranted | unhashed => simp at h
  | saved id hash =>
    simp only [List.mem_cons, List.not_mem_nil, or_false] at h
    rcases h with h | h | h | h <;> cases h
    exact ⟨id, hash, rfl, rfl, rfl⟩

/-- An enrolment that succeeds saved a record under the id that it answers. -/
theorem Enrolment.saves_of_ok {id : String} (enrolment : Enrolment user calls (.ok id)) :
    ∃ saved, ⟨.save saved, .ok id⟩ ∈ calls := by
  cases enrolment with
  | saved fresh hash =>
    refine ⟨{ user with id := fresh, password := hash }, ?_⟩
    simp only [List.mem_cons, true_or, or_true]

/-- An id is drawn exactly behind a gate that lets pass, for an acceptable user. -/
theorem Registration.draws_iff (registration : Registration accepts token user calls result) :
    (∃ ending, ⟨.freshId, ending⟩ ∈ calls) ↔
      (⟨.authorize .bootstrap, .ok true⟩ ∈ calls ∨ token ≠ "" ∧
        ∃ caller, ⟨.identify token, .ok caller⟩ ∈ calls ∧
          ⟨.authorize (.authority caller.id), .ok true⟩ ∈ calls) ∧ user.Acceptable accepts := by
  -- no gate draws an id, so everything hangs on whether there is an enrolment
  have hgate : ∀ {gate passes}, Gate token gate passes → ¬ ∃ ending, ⟨.freshId, ending⟩ ∈ gate := by
    rintro gate passes gated ⟨ending, h⟩
    rcases gated.call_cases h with ⟨_, h⟩ | ⟨h, _⟩ <;> cases h
  cases registration with
  | stopped refused =>
    refine iff_of_false (hgate refused) fun h => ?_
    exact absurd (refused.passes_iff.mpr h.1) Bool.false_ne_true
  | malformed passed unacceptable =>
    exact iff_of_false (hgate passed) fun h => unacceptable h.2
  | enrolled passed acceptable enrolment =>
    obtain ⟨ending, hdraws⟩ := enrolment.draws
    refine iff_of_true ⟨ending, List.mem_append_right _ hdraws⟩ ⟨?_, acceptable⟩
    refine (passed.passes_iff.mp rfl).imp (List.mem_append_left _) ?_
    rintro ⟨named, caller, hcaller, hverdict⟩
    exact ⟨named, caller, List.mem_append_left _ hcaller, List.mem_append_left _ hverdict⟩

/-- The saved record has the id that ownership was granted of, and the hash that was made last. -/
theorem Registration.eq_of_saves (registration : Registration accepts token user calls result)
    {saved : User} {ending : Except AccountError String} (h : ⟨.save saved, ending⟩ ∈ calls) :
    result = ending ∧ ∃ id hash gate, saved = { user with id := id, password := hash } ∧
      calls = gate ++ [⟨.freshId, .ok id⟩, ⟨.addPolicy (.ownership id), .ok true⟩,
        ⟨.hash user.password, .ok hash⟩, ⟨.save saved, ending⟩] := by
  have hgate : ∀ {gate passes}, Gate token gate passes → ⟨.save saved, ending⟩ ∉ gate := by
    rintro gate passes gated h
    rcases gated.call_cases h with ⟨_, h⟩ | ⟨h, _⟩ <;> cases h
  cases registration with
  | stopped refused => exact absurd h (hgate refused)
  | malformed passed unacceptable => exact absurd h (hgate passed)
  | enrolled passed acceptable enrolment =>
    rcases List.mem_append.mp h with h | h
    · exact absurd h (hgate passed)
    · obtain ⟨id, hash, hsaved, hresult, hcalls⟩ := enrolment.eq_of_saves h
      exact ⟨hresult, id, hash, _, hsaved, congrArg _ hcalls⟩

/-- A registration succeeds exactly if its record was saved, with what the repository answered. -/
theorem Registration.ok_iff (registration : Registration accepts token user calls result)
    {id : String} : result = .ok id ↔ ∃ saved, ⟨.save saved, .ok id⟩ ∈ calls := by
  constructor
  · rintro rfl
    cases registration with
    | enrolled passed acceptable enrolment =>
      obtain ⟨saved, hsaved⟩ := enrolment.saves_of_ok
      exact ⟨saved, List.mem_append_right _ hsaved⟩
  · rintro ⟨saved, hsaved⟩
    exact (registration.eq_of_saves hsaved).1

/-- Without a token nobody is looked up. -/
theorem Registration.not_identifies (registration : Registration accepts "" user calls result)
    (token : String) (ending : Except IdentityError Identity) :
    ⟨.identify token, ending⟩ ∉ calls := by
  have hgate : ∀ {gate passes}, Gate "" gate passes → ⟨.identify token, ending⟩ ∉ gate := by
    intro gate passes gated h
    rcases gated.call_cases h with ⟨_, h⟩ | ⟨_, h⟩
    · cases h
    · exact h rfl
  cases registration with
  | stopped refused => exact hgate refused
  | malformed passed unacceptable => exact hgate passed
  | enrolled passed acceptable enrolment =>
    intro h
    rcases List.mem_append.mp h with h | h
    · exact hgate passed h
    · exact (enrolment.call_cases h).2 token rfl

end Calls

/-! ## Open registration -/

namespace Script

variable {backing : Backing σ} {s : σ} {accepts : String → Bool} {user : User}

/-- While registration is open, the gate does not look at the token. -/
theorem checkRegistration_run_of_open (token : String)
    (hopen : (backing (.authorize .bootstrap) s).result = .ok true) :
    (checkRegistration token).run backing s =
      ((authorize .bootstrap).attempt >>= fun _ => log .registrationOpen).run backing s := by
  have hpasses : (authorize .bootstrap).Ensures backing s fun result _ => result = .ok () :=
    ensures_authorize (fun _ => rfl) fun hclosed => absurd hopen hclosed
  rw [Ensures] at hpasses
  simp only [checkRegistration, run_bind, run_attempt, Action.bind_run, Action.attempt_run, hpasses]

/-- While registration is open, the token makes no difference. -/
theorem register_run_of_open (token token' : String)
    (hopen : (backing (.authorize .bootstrap) s).result = .ok true) :
    (register accepts token user).run backing s = (register accepts token' user).run backing s := by
  simp only [register, run_bind, Action.bind_run, checkRegistration_run_of_open _ hopen]

end Script

end AccessControl
