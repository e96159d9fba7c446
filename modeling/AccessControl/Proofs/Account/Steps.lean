import AccessControl.Proofs.Account.Registration
import AccessControl.Proofs.Account.Transcript

/-!
# The steps of requests

What the steps that requests are made of do: which calls they make, and how they end on it. The
steps that can fail in more than one way have a table of their failures. A record is *missing* if it
is not found, or if it is found without an email.
-/

namespace AccessControl

/-! ## Failures -/

/-- A question or a grant that is not answered with yes, and the failure this is for the one who
asked. -/
inductive Refused : Except IdentityError Bool → AccountError → Prop
  | no : Refused (.ok false) (.bare .authorization)
  | unanswered (cause : IdentityError) :
      Refused (.error cause) (.byIdentity .authorization cause)

/-- Whatever is not a yes is a refusal. -/
theorem exists_refused_iff {answer : Except IdentityError Bool} :
    (∃ error, Refused answer error) ↔ answer ≠ .ok true := by
  constructor
  · rintro ⟨_, ⟨_ | _⟩⟩ <;> simp
  · intro h
    rcases answer with cause | _ | _
    · exact ⟨_, .unanswered cause⟩
    · exact ⟨_, .no⟩
    · exact absurd rfl h

/-- A look-up that finds no record to work with, and the failure this is. -/
inductive Missing : Except AccountError User → AccountError → Prop
  | unfound (cause : AccountError) : Missing (.error cause) (.byAccount .userNotFound cause)
  | blank {user : User} (blank : user.email = "") : Missing (.ok user) (.bare .userNotFound)

/-- How a registration is turned away before its user is looked at. -/
inductive TurnedAway : String → List Exchange → AccountError → Prop
  /-- Nobody is named who could register others. -/
  | anonymous {answer : Except IdentityError Bool} (closed : answer ≠ .ok true) :
      TurnedAway "" [⟨.authorize .bootstrap, answer⟩] (.bare .unauthorized)
  /-- The token does not resolve. -/
  | unresolved {token : String} {answer : Except IdentityError Bool} {cause : IdentityError}
      (closed : answer ≠ .ok true) (named : token ≠ "") :
      TurnedAway token [⟨.authorize .bootstrap, answer⟩, ⟨.identify token, .error cause⟩]
        (.byIdentity .unauthorized cause)
  /-- The caller is not known as an administrator. -/
  | unprivileged {token : String} {answer verdict : Except IdentityError Bool} {caller : Identity}
      {cause : AccountError} (closed : answer ≠ .ok true) (named : token ≠ "")
      (refused : Refused verdict cause) :
      TurnedAway token [⟨.authorize .bootstrap, answer⟩, ⟨.identify token, .ok caller⟩,
        ⟨.authorize (.authority caller.id), verdict⟩] (.byAccount .unauthorized cause)

/-- How an enrolment stops. -/
inductive EnrolmentStops (user : User) : List Exchange → AccountError → Prop
  | undrawn {reason : String} :
      EnrolmentStops user [⟨.freshId, .error reason⟩] (.byNote .createUser reason)
  | ungranted {id : String} {answer : Except IdentityError Bool} {error : AccountError}
      (refused : Refused answer error) :
      EnrolmentStops user [⟨.freshId, .ok id⟩, ⟨.addPolicy (.ownership id), answer⟩] error
  | unhashed {id : String} {cause : HashError} :
      EnrolmentStops user [⟨.freshId, .ok id⟩, ⟨.addPolicy (.ownership id), .ok true⟩,
        ⟨.hash user.password, .error cause⟩] (.byHash .malformedEntity cause)
  | unsaved {id hash : String} {error : AccountError} :
      EnrolmentStops user [⟨.freshId, .ok id⟩, ⟨.addPolicy (.ownership id), .ok true⟩,
        ⟨.hash user.password, .ok hash⟩,
        ⟨.save { user with id := id, password := hash }, .error error⟩] error

/-- How a new password is not stored, behind the calls that led there. -/
inductive RenewalStops (email password : String) : List Exchange → AccountError → Prop
  | unhashed {cause : HashError} :
      RenewalStops email password [⟨.hash password, .error cause⟩] (.byHash .malformedEntity cause)
  | unstored {hash : String} {error : AccountError} :
      RenewalStops email password
        [⟨.hash password, .ok hash⟩, ⟨.updatePassword email hash, .error error⟩] error

/-- A record that is not valid is malformed, and nothing else. -/
theorem User.validate_eq_error_iff {user : User} {error : AccountError} :
    user.validate = .error error ↔ user.validate ≠ .ok () ∧ error = .bare .malformedEntity := by
  unfold validate
  by_cases hemail : Email.isEmail user.email.toList <;> by_cases hpassword : user.password = "" <;>
    simp [hemail, hpassword, eq_comm]

/-! ## Transcripts of steps -/

/-- How a question or a grant ends for the one who asked. -/
def Judged (answer : Except IdentityError Bool) (result : Except AccountError Unit) : Prop :=
  answer = .ok true ∧ result = .ok () ∨ ∃ error, Refused answer error ∧ result = .error error

namespace Script

variable {calls : List Exchange} {result : Except AccountError Unit}

/-- A call that is to be answered with yes is all that is done. -/
theorem transcript_granted {answer : Script Bool} {exchange : Except IdentityError Bool → Exchange}
    (asks : ∀ {calls result}, answer.Transcript calls result ↔ ∃ ending, calls = [exchange ending] ∧
      result = ending.mapError (.byIdentity .authorization)) :
    (granted answer).Transcript calls result ↔
      ∃ ending, calls = [exchange ending] ∧ Judged ending result := by
  rw [granted, transcript_bind]
  constructor
  · rintro (⟨error, h, rfl⟩ | ⟨yes, earlier, later, h, hnext, rfl⟩)
    · obtain ⟨_ | _, rfl, herror⟩ := asks.mp h <;> cases herror
      exact ⟨_, rfl, Or.inr ⟨_, .unanswered _, rfl⟩⟩
    · obtain ⟨_ | _, rfl, hyes⟩ := asks.mp h <;> cases hyes
      cases yes with
      | true =>
        obtain ⟨rfl, rfl⟩ := transcript_pure.mp hnext
        exact ⟨_, rfl, Or.inl ⟨rfl, rfl⟩⟩
      | false =>
        obtain ⟨rfl, rfl⟩ := transcript_fail.mp hnext
        exact ⟨_, rfl, Or.inr ⟨_, .no, rfl⟩⟩
  · rintro ⟨ending, rfl, ⟨rfl, rfl⟩ | ⟨error, ⟨_ | cause⟩, rfl⟩⟩
    · exact Or.inr ⟨true, _, [], asks.mpr ⟨_, rfl, rfl⟩, transcript_pure.mpr ⟨rfl, rfl⟩, rfl⟩
    · exact Or.inr ⟨false, _, [], asks.mpr ⟨_, rfl, rfl⟩, transcript_fail.mpr ⟨rfl, rfl⟩, rfl⟩
    · exact Or.inl ⟨_, asks.mpr ⟨_, rfl, rfl⟩, rfl⟩

/-- To authorize is one question, and its answer is judged. -/
theorem transcript_authorize {tuple : RelationTuple} :
    (authorize tuple).Transcript calls result ↔
      ∃ answer, calls = [⟨.authorize tuple, answer⟩] ∧ Judged answer result :=
  transcript_granted transcript_ask

/-- To add a policy is one call, and its answer is judged. -/
theorem transcript_addPolicy {tuple : RelationTuple} :
    (addPolicy tuple).Transcript calls result ↔
      ∃ answer, calls = [⟨.addPolicy tuple, answer⟩] ∧ Judged answer result :=
  transcript_granted transcript_ask

/-- Behind a first question that is not answered with yes, the token decides. -/
theorem transcript_checkRegistration_of_closed {token : String}
    {answer : Except IdentityError Bool} (closed : answer ≠ .ok true)
    (rest : (if token = "" then fail (.bare .unauthorized) else do
      let caller ← identify token
      (authorize (.authority caller.id)).mapError (.byAccount .unauthorized)).Transcript
        calls result) :
    (checkRegistration token).Transcript (⟨.authorize .bootstrap, answer⟩ :: calls) result := by
  obtain ⟨refusal, refused⟩ := exists_refused_iff.mpr closed
  have asked : (authorize .bootstrap).Transcript [⟨.authorize .bootstrap, answer⟩]
      (.error refusal) := transcript_authorize.mpr ⟨answer, rfl, Or.inr ⟨_, refused, rfl⟩⟩
  exact transcript_bind.mpr
    (Or.inr ⟨.error refusal, _, calls, transcript_attempt.mpr ⟨_, asked, rfl⟩, rest, rfl⟩)

/-- Registration goes on behind an open gate, and stops where it is turned away. -/
theorem transcript_checkRegistration {token : String} :
    (checkRegistration token).Transcript calls result ↔
      Gate token calls true ∧ result = .ok () ∨
        ∃ error, TurnedAway token calls error ∧ result = .error error := by
  constructor
  · intro h
    obtain ⟨_, hfirst, _⟩ | ⟨_, _, _, hfirst, hrest, rfl⟩ := transcript_bind.mp h <;>
      obtain ⟨_, hasked, hending⟩ := transcript_attempt.mp hfirst <;> cases hending
    obtain ⟨answer, rfl, ⟨rfl, rfl⟩ | ⟨refusal, refused, rfl⟩⟩ := transcript_authorize.mp hasked
    · obtain ⟨rfl, rfl⟩ := transcript_log.mp hrest
      exact Or.inl ⟨.opened, rfl⟩
    · have closed : answer ≠ .ok true := exists_refused_iff.mp ⟨_, refused⟩
      obtain ⟨rfl, hfail⟩ | ⟨named, hgo⟩ := transcript_ite.mp hrest
      · obtain ⟨rfl, rfl⟩ := transcript_fail.mp hfail
        exact Or.inr ⟨_, .anonymous closed, rfl⟩
      · obtain ⟨cause, rfl, rfl⟩ | ⟨caller, _, rfl, hjudged⟩ := transcript_ask_bind.mp hgo
        · exact Or.inr ⟨_, .unresolved closed named, rfl⟩
        · obtain ⟨_, hjudge, rfl⟩ := transcript_mapError.mp hjudged
          obtain ⟨verdict, rfl, ⟨rfl, rfl⟩ | ⟨cause, refused, rfl⟩⟩ :=
            transcript_authorize.mp hjudge
          · exact Or.inl ⟨.resolved caller closed named (iff_of_true rfl rfl), rfl⟩
          · exact Or.inr ⟨_, .unprivileged closed named refused, rfl⟩
  · rintro (⟨gate, rfl⟩ | ⟨error, turned, rfl⟩)
    · cases gate with
      | opened =>
        refine .call _ ?_
        exact .emit (.answer ())
      | resolved caller closed named judged =>
        obtain rfl := judged.mp rfl
        refine transcript_checkRegistration_of_closed closed ?_
        rw [if_neg named]
        exact transcript_ask_bind.mpr (Or.inr ⟨caller, _, rfl, transcript_mapError.mpr
          ⟨_, transcript_authorize.mpr ⟨_, rfl, Or.inl ⟨rfl, rfl⟩⟩, rfl⟩⟩)
    · cases turned with
      | anonymous closed => exact transcript_checkRegistration_of_closed closed (.fail _)
      | unresolved closed named =>
        refine transcript_checkRegistration_of_closed closed ?_
        rw [if_neg named]
        exact .call _ (.fail _)
      | unprivileged closed named refused =>
        refine transcript_checkRegistration_of_closed closed ?_
        rw [if_neg named]
        exact transcript_ask_bind.mpr (Or.inr ⟨_, _, rfl, transcript_mapError.mpr
          ⟨_, transcript_authorize.mpr ⟨_, rfl, Or.inr ⟨_, refused, rfl⟩⟩, rfl⟩⟩)

/-- To grant ownership is one call, and its answer is judged. -/
theorem transcript_grantOwnership {id : String} :
    (grantOwnership id).Transcript calls result ↔
      ∃ answer, calls = [⟨.addPolicy (.ownership id), answer⟩] ∧ Judged answer result := by
  constructor
  · intro h
    obtain ⟨_, hfirst, _⟩ | ⟨_, _, _, hfirst, hrest, rfl⟩ := transcript_bind.mp h <;>
      obtain ⟨_, hasked, hending⟩ := transcript_attempt.mp hfirst <;> cases hending
    obtain ⟨answer, rfl, judged⟩ := transcript_addPolicy.mp hasked
    obtain ⟨rfl, rfl⟩ | ⟨refusal, refused, rfl⟩ := judged
    · obtain ⟨rfl, rfl⟩ := transcript_pure.mp hrest
      exact ⟨_, rfl, Or.inl ⟨rfl, rfl⟩⟩
    · obtain _ | _ | ⟨_ | _⟩ := hrest
      exact ⟨answer, rfl, Or.inr ⟨refusal, refused, rfl⟩⟩
  · rintro ⟨answer, rfl, judged⟩
    have asked := transcript_attempt.mpr
      ⟨result, transcript_addPolicy.mpr ⟨answer, rfl, judged⟩, rfl⟩
    refine transcript_bind.mpr (Or.inr ⟨result, _, [], asked, ?_, rfl⟩)
    obtain ⟨_, rfl⟩ | ⟨refusal, _, rfl⟩ := judged
    · exact .answer ()
    · exact .emit (.fail refusal)

/-- An enrolment stops, or its record is saved. -/
theorem transcript_enrol {user : User} {result : Except AccountError String} :
    (enrol user).Transcript calls result ↔
      (∃ error, EnrolmentStops user calls error ∧ result = .error error) ∨
        ∃ id hash saved, result = .ok saved ∧
          calls = [⟨.freshId, .ok id⟩, ⟨.addPolicy (.ownership id), .ok true⟩,
            ⟨.hash user.password, .ok hash⟩,
            ⟨.save { user with id := id, password := hash }, .ok saved⟩] := by
  constructor
  · intro h
    obtain ⟨reason, rfl, rfl⟩ | ⟨id, _, rfl, hdrawn⟩ := transcript_ask_bind.mp h
    · exact Or.inl ⟨_, .undrawn, rfl⟩
    obtain ⟨error, hgrant, rfl⟩ | ⟨_, _, _, hgrant, hgranted, rfl⟩ := transcript_bind.mp hdrawn <;>
      obtain ⟨answer, rfl, ⟨rfl, hresult⟩ | ⟨refusal, refused, hresult⟩⟩ :=
        transcript_grantOwnership.mp hgrant <;> cases hresult
    · exact Or.inl ⟨_, .ungranted refused, rfl⟩
    obtain ⟨cause, rfl, rfl⟩ | ⟨hash, _, rfl, hhashed⟩ := transcript_ask_bind.mp hgranted
    · exact Or.inl ⟨_, .unhashed, rfl⟩
    obtain ⟨error, rfl, rfl⟩ | ⟨saved, _, rfl, hsaved⟩ := transcript_ask_bind.mp hhashed
    · exact Or.inl ⟨_, .unsaved, rfl⟩
    obtain _ | _ | ⟨⟨⟩⟩ := hsaved
    exact Or.inr ⟨id, hash, saved, rfl, rfl⟩
  · rintro (⟨error, stops, rfl⟩ | ⟨id, hash, saved, rfl, rfl⟩)
    · cases stops with
      | undrawn => exact .call _ (.fail _)
      | ungranted refused =>
        refine transcript_ask_bind.mpr
          (Or.inr ⟨_, _, rfl, transcript_bind.mpr (Or.inl ⟨_, ?_, rfl⟩)⟩)
        exact transcript_grantOwnership.mpr ⟨_, rfl, Or.inr ⟨_, refused, rfl⟩⟩
      | unhashed =>
        refine .call _ ?_
        refine .call _ ?_
        exact .call _ (.fail _)
      | unsaved =>
        refine .call _ ?_
        refine .call _ ?_
        refine .call _ ?_
        exact .call _ (.fail _)
    · refine .call _ ?_
      refine .call _ ?_
      refine .call _ ?_
      refine .call _ ?_
      exact .emit (.answer saved)

/-- A new password is stored under its hash, or it is not stored. -/
theorem transcript_renewal {email password : String} :
    (hash password >>= fun made => ask (.updatePassword email made) fun e => e).Transcript
        calls result ↔
      (∃ error, RenewalStops email password calls error ∧ result = .error error) ∨
        ∃ made, result = .ok () ∧
          calls = [⟨.hash password, .ok made⟩, ⟨.updatePassword email made, .ok ()⟩] := by
  constructor
  · intro h
    obtain ⟨cause, rfl, rfl⟩ | ⟨made, _, rfl, hmade⟩ := transcript_ask_bind.mp h
    · exact Or.inl ⟨_, .unhashed, rfl⟩
    obtain ⟨error | _, rfl, rfl⟩ := transcript_ask.mp hmade
    · exact Or.inl ⟨_, .unstored, rfl⟩
    · exact Or.inr ⟨made, rfl, rfl⟩
  · rintro (⟨error, stops, rfl⟩ | ⟨made, rfl, rfl⟩)
    · cases stops with
      | unhashed => exact .call _ (.fail _)
      | unstored =>
        refine .call _ ?_
        exact .call _ (.fail _)
    · refine .call _ ?_
      refine .call _ ?_
      exact .answer ()

/-- A look-up finds no record to work with, or it finds one. -/
theorem transcript_existing {email : String} {result : Except AccountError User} :
    (existing email).Transcript calls result ↔
      ∃ found, calls = [⟨.byEmail email, found⟩] ∧
        ((∃ error, Missing found error ∧ result = .error error) ∨
          ∃ user, found = .ok user ∧ user.email ≠ "" ∧ result = .ok user) := by
  constructor
  · intro h
    obtain ⟨cause, rfl, rfl⟩ | ⟨user, _, rfl, hfound⟩ := transcript_ask_bind.mp h
    · exact ⟨_, rfl, Or.inl ⟨_, .unfound cause, rfl⟩⟩
    obtain ⟨blank, hfail⟩ | ⟨there, hpure⟩ := transcript_ite.mp hfound
    · obtain ⟨rfl, rfl⟩ := transcript_fail.mp hfail
      exact ⟨_, rfl, Or.inl ⟨_, .blank blank, rfl⟩⟩
    · obtain ⟨rfl, rfl⟩ := transcript_pure.mp hpure
      exact ⟨_, rfl, Or.inr ⟨user, rfl, there, rfl⟩⟩
  · rintro ⟨found, rfl, ⟨error, missing, rfl⟩ | ⟨user, rfl, there, rfl⟩⟩
    · cases missing with
      | unfound => exact .call _ (.fail _)
      | blank blank =>
        refine .call _ ?_
        exact transcript_ite.mpr (Or.inl ⟨blank, .fail _⟩)
    · refine .call _ ?_
      exact transcript_ite.mpr (Or.inr ⟨there, .answer user⟩)

/-- The account of the password that is to be confirmed is not found, or the password is not
confirmed, or both are fine. -/
theorem transcript_authenticate {email password : String} {result : Except AccountError User} :
    (authenticate email password).Transcript calls result ↔
      (∃ cause, calls = [⟨.byEmail email, .error cause⟩] ∧
        result = .error (.byAccount .unauthorized cause)) ∨
      ∃ stored verdict, calls = [⟨.byEmail email, .ok stored⟩,
          ⟨.compare password stored.password, verdict⟩] ∧
        result = (verdict.map fun () => stored).mapError (.byHash .unauthorized) := by
  constructor
  · intro h
    obtain ⟨cause, rfl, rfl⟩ | ⟨stored, _, rfl, hstored⟩ := transcript_ask_bind.mp h
    · exact Or.inl ⟨cause, rfl, rfl⟩
    obtain ⟨cause, rfl, rfl⟩ | ⟨_, _, rfl, hpure⟩ := transcript_ask_bind.mp hstored
    · exact Or.inr ⟨stored, _, rfl, rfl⟩
    · obtain ⟨rfl, rfl⟩ := transcript_pure.mp hpure
      exact Or.inr ⟨stored, _, rfl, rfl⟩
  · rintro (⟨cause, rfl, rfl⟩ | ⟨stored, verdict, rfl, rfl⟩)
    · exact .call _ (.fail _)
    · refine .call _ ?_
      refine .call _ ?_
      cases verdict with
      | error cause => exact .fail _
      | ok _ => exact .answer stored

/-- To send a recovery mail is one call, and its failure is one of delivery. -/
theorem transcript_sendPasswordReset {host email token : String} :
    (sendPasswordReset host email token).Transcript calls result ↔
      ∃ ending, calls = [⟨.sendReset [email] host token, ending⟩] ∧
        result = ending.mapError (.byNote .emailDelivery) := by
  constructor
  · rintro (_ | _ | _ | ⟨reason | _, h⟩)
    · obtain _ | _ | ⟨⟨⟩⟩ := h
      exact ⟨_, rfl, rfl⟩
    · obtain ⟨rfl, rfl⟩ := transcript_pure.mp h
      exact ⟨_, rfl, rfl⟩
  · rintro ⟨reason | _, rfl, rfl⟩
    · refine .call _ ?_
      exact .emit (.fail _)
    · refine .call _ ?_
      exact .answer ()

/-- A password is checked without any call. -/
theorem transcript_checkPassword {accepts : String → Bool} {password : String} :
    (checkPassword accepts password).Transcript calls result ↔ calls = [] ∧
      (accepts password ∧ result = .ok () ∨
        ¬ accepts password ∧ result = .error (.bare .passwordFormat)) := by
  rw [checkPassword, transcript_ite, transcript_pure, transcript_fail]
  exact ⟨by rintro (⟨h, rfl, hr⟩ | ⟨h, rfl, hr⟩) <;> simp [h, hr],
    by rintro ⟨rfl, ⟨h, hr⟩ | ⟨h, hr⟩⟩ <;> simp [h, hr]⟩

end Script

end AccessControl
