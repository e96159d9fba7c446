import AccessControl.Proofs.Account.Failures
import AccessControl.Rehearsal

/-!
# A store that is out of reach

A request fails with the first call of the repository that fails. What its caller is told is fixed
by the request and the call (`ServiceCall.report`): writes and listings pass the failure on, and
look-ups wrap it. A look-up for someone who logs in or asks for a record is reported as one of
missing credentials; a look-up of the account whose password is to be set is reported as an unknown
user, and so is not told from a store that cannot be reached
(`AccountService.store_failure_reported`, `Rehearsal.offline_store_hides_account`).
-/

namespace AccessControl

variable {σ : Type}

/-- How a call of the repository failed. -/
def Exchange.storeFailure? : Exchange → Option AccountError
  | ⟨.save _, .error cause⟩ => some cause
  | ⟨.updateUser _, .error cause⟩ => some cause
  | ⟨.updatePassword .., .error cause⟩ => some cause
  | ⟨.byEmail _, .error cause⟩ => some cause
  | ⟨.byId _, .error cause⟩ => some cause
  | ⟨.list _, .error cause⟩ => some cause
  | _ => none

/-- The call confirmed a password. -/
def Exchange.confirms : Exchange → Bool
  | ⟨.compare .., .ok _⟩ => true
  | _ => false

namespace ServiceCall

/-- A look-up by email made for the request is one of the account whose password is to be set. When
the old password is asked for, only the look-up behind its confirmation is such a one. -/
def seeksOwner (calls : List Exchange) : ServiceCall → Bool
  | generateResetToken .. | resetPassword .. => true
  | changePassword .. => calls.any Exchange.confirms
  | _ => false

/-- What the caller of a request is told of a call of the repository that failed. -/
def report (request : ServiceCall) (calls : List Exchange) (call : BackingCall)
    (cause : AccountError) : AccountError :=
  match call, request with
  | .byId _, _ => .byAccount .unauthorized cause
  | .byEmail _, changePassword .. =>
    if calls.any Exchange.confirms then .byAccount .userNotFound cause else .bare .unauthorized
  | .byEmail _, _ =>
    if request.seeksOwner calls then .byAccount .userNotFound cause
    else .byAccount .unauthorized cause
  | _, _ => cause

end ServiceCall

section Tables

variable {accepts : String → Bool} {request : ServiceCall} {calls : List Exchange}
  {error cause : AccountError} {e : Exchange}

/-- A call of the repository that fails is a step at which a request stops. -/
theorem Exchange.denied_of_storeFailure? (h : e.storeFailure? = some cause) :
    e.Denied ∧ e.call ≠ .authorize .bootstrap := by
  obtain ⟨call, failure | answer⟩ := e
  · cases call with
    | save | updateUser | updatePassword | byEmail | byId | list => exact ⟨trivial, nofun⟩
    | _ => cases h
  · cases call <;> cases h

/-- No call of the repository failed if no call was denied. -/
theorem Clear.storeFailure?_ne (clear : Clear calls) (he : e ∈ calls) :
    e.storeFailure? ≠ some cause := by
  intro h
  obtain ⟨denied, hother⟩ := Exchange.denied_of_storeFailure? h
  exact hother (clear e he denied)

/-- A failure of the repository comes last. -/
theorem Stops.getLast?_eq (stops : Stops accepts request calls error) (he : e ∈ calls)
    (h : e.storeFailure? = some cause) : calls.getLast? = some e := by
  have hne : calls ≠ [] := List.ne_nil_of_mem he
  rw [← List.dropLast_concat_getLast hne, List.mem_append, List.mem_singleton] at he
  obtain he | rfl := he
  · exact absurd h (stops.clear.storeFailure?_ne he)
  · exact List.getLast?_eq_some_getLast hne

/-- A request that stops at a failure of the repository fails with its report. -/
theorem Stops.eq_report (stops : Stops accepts request calls error) (he : e ∈ calls)
    (h : e.storeFailure? = some cause) : error = request.report calls e.call cause := by
  have hlast := stops.getLast?_eq he h
  cases stops with
  | turnedAway turned => cases turned <;> cases hlast <;> cases h
  | invalid passed | weak passed => exact absurd h (passed.clear.storeFailure?_ne he)
  | unenrolled passed acceptable stops =>
    rw [List.getLast?_append] at hlast
    cases stops <;> cases hlast <;> cases h
    rfl
  | unreset named there accepted stops => cases stops <;> cases hlast <;> cases h; rfl
  | changeUndone accepted there stops => cases stops <;> cases hlast <;> cases h; rfl
  | unrecoverable addressed missing => cases missing <;> cases hlast <;> cases h; rfl
  | resetMissing named missing => cases missing <;> cases hlast <;> cases h; rfl
  | changeMissing accepted missing => cases missing <;> cases hlast <;> cases h; rfl
  | stranger | unviewed | unprofiled | unlisted | unchanged | oldUnknown | membersUnlisted =>
    cases hlast
    cases h
    rfl
  | unaddressed | tokenless => cases hlast
  | _ =>
    cases hlast
    cases h

end Tables

namespace ServiceCall

variable {calls : List Exchange} {call : BackingCall} {cause : AccountError}

/-- An outage of the store is reported as a missing user only where an owner is looked up by
address. -/
theorem report_kind (request : ServiceCall) (hcause : cause.kind = .unavailable) :
    (request.report calls call cause).kind ≠ .notFound ∧
      ((request.report calls call cause).kind = .userNotFound ↔
        (∃ email, call = .byEmail email) ∧ request.seeksOwner calls = true) := by
  cases call with
  | byEmail email =>
    cases request with
    | changePassword =>
      cases hconfirmed : calls.any Exchange.confirms <;>
        simp [report, seeksOwner, hconfirmed, AccountError.kind]
    | _ => simp [report, seeksOwner, AccountError.kind]
  | byId id => simp [report, AccountError.kind]
  | _ => simp [report, hcause]

end ServiceCall

/-- Whatever stands behind the service, a request that meets a failure of the repository fails with
its report. A repository that is out of reach is never reported as a missing entity, but it is
reported as an unknown user exactly in look-ups by email of the account whose password is to be
set. -/
theorem AccountService.store_failure_reported (service : AccountService σ) (request : ServiceCall)
    (s : σ) {e : Exchange} {cause : AccountError} (he : e ∈ service.exchanges request s)
    (h : e.storeFailure? = some cause) :
    let calls := service.exchanges request s
    let error := request.report calls e.call cause
    (service.serve request s).result = .error error ∧
      (cause.kind = .unavailable → error.kind ≠ .notFound ∧
        (error.kind = .userNotFound ↔
          (∃ email, e.call = .byEmail email) ∧ request.seeksOwner calls = true)) := by
  intro calls error
  refine ⟨?_, request.report_kind⟩
  have ends : Ends service.accepts request calls (service.serve request s).result :=
    Script.ends_of_transcript (service.transcript_exchanges request s)
  cases hresult : (service.serve request s).result with
  | ok x =>
    rw [hresult] at ends
    exact absurd h (Completes.clear ends |>.storeFailure?_ne he)
  | error failure =>
    rw [hresult] at ends
    rw [Stops.eq_report ends he h]

namespace Rehearsal

/-- The service of a rehearsal that takes every password. -/
def lenientService : AccountService Rehearsal :=
  service (deployment .standard (plainHasher Bench) (silentMailer Bench) fun _ => true)

/-- A rehearsal with one account, a key for it, and a repository that fails look-ups by email. -/
def offline : Rehearsal :=
  let claims : KeyClaims := ⟨"u1", "a@x.com", .user, ⟨0, 0, by decide⟩, ⟨60, 0, by decide⟩⟩
  let world : Stage :=
    { identity := { now := ⟨0, 0, by decide⟩, keys := ⟨[("t", claims)]⟩, agent := (.empty, {}) }
      accounts := ⟨[{ id := "u1", email := "a@x.com" }]⟩
      outside := {} }
  turn .byEmail true { inner := world }

/-- A reset stops at the look-up of the account behind its token. -/
theorem reset_stops_at_look_up :
    let request := ServiceCall.resetPassword "t" "new"
    let e : Exchange := ⟨.byEmail "a@x.com", .error Drill.repoOffline⟩
    e ∈ lenientService.exchanges request offline ∧
      (lenientService.serve request offline).result =
        .error (.byAccount .userNotFound Drill.repoOffline) := by
  intro request e
  have he : e ∈ lenientService.exchanges request offline := by
    have hlast : (lenientService.exchanges request offline)[1]? = some e := rfl
    exact List.mem_of_getElem? hlast
  exact ⟨he, (lenientService.store_failure_reported request offline he rfl).1⟩

/-- There is an account with the email, its look-up is answered that the store is out of reach, and
the caller is told that there is no such user. -/
theorem offline_store_hides_account :
    let request := ServiceCall.generateResetToken "a@x.com" "x.com"
    offline.inner.accounts.users.map (·.email) = ["a@x.com"] ∧
      lenientService.exchanges request offline =
        [⟨.byEmail "a@x.com", .error Drill.repoOffline⟩] ∧
      Drill.repoOffline.kind = .unavailable ∧
      ∃ error, (lenientService.serve request offline).result = .error error ∧
        error.kind = .userNotFound :=
  ⟨rfl, rfl, rfl, _, rfl, rfl⟩

end Rehearsal

end AccessControl
