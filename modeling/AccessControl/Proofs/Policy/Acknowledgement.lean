import AccessControl.Deployment
import AccessControl.Proofs.Account.Registration
import AccessControl.Proofs.Identity.Relay
import AccessControl.Proofs.Policy.Parity

/-!
# Grants that a server acknowledged

The remote agent takes a grant as made unless the server's answer has the status of a failure. It
does not ask for the status of a success, as it does when it puts a question: with a status that is
neither, an answer refuses a question and makes a grant (`RemoteAgent.acknowledges_iff`).

So a registration over the remote agent writes a record only behind an answer of the server to the
grant of its ownership (`RemoteAgent.saved_behind_answer`), but this answer can be a redirect
(`RemoteAgent.registers_on_redirect`).
-/

namespace AccessControl

open AccessControl.Http

variable {σ α ω : Type}

/-! ## Exchanges with a server -/

namespace Http

/-- What a server was asked, and how each request ended. -/
abbrev ServerLog := List (Request × Except TransportFailure Response)

/-- The server that records every request behind those recorded before. -/
def Server.recorded (server : Server σ) : Server (σ × ServerLog) := fun request s =>
  let o := server request s.1
  ⟨o.result, o.events, o.state, s.2 ++ [(request, o.result)]⟩

/-- An exchange comes to an answer if the server gave this answer to a request with a usable
address, and it is not a provisional one. -/
theorem exchange_eq_ok_iff {server : Server σ} {request? : Option Request} {response : Response}
    {s : σ} : (exchange server request? s).result = .ok response ↔
      ∃ request, request? = some request ∧ request.url.isUsable = true ∧
        (server request s).result = .ok response ∧
        Status.isProvisional response.status = false := by
  constructor
  · intro h
    cases request? with
    | none => cases h
    | some request =>
      rw [exchange] at h
      split at h
      case isFalse => cases h
      case isTrue husable =>
        rw [Action.bind_run] at h
        rcases hserver : server request s with ⟨failure | answer, events, s'⟩ <;> rw [hserver] at h
        · cases h
        · cases hstatus : Status.isProvisional answer.status <;> simp only [hstatus] at h <;>
            cases h
          exact ⟨request, rfl, husable, congrArg Outcome.result hserver, hstatus⟩
  · rintro ⟨request, rfl, husable, hresult, hstatus⟩
    exact (exchange_run husable hresult hstatus).1

/-- A request with a usable address reaches the server, whatever it answers. -/
theorem exchange_state_of_isUsable (server : Server σ) {request : Request}
    (husable : request.url.isUsable = true) (s : σ) :
    (exchange server (some request) s).state = (server request s).state := by
  simp only [exchange, if_pos husable, Action.bind_run]
  rcases server request s with ⟨failure | answer, events, s'⟩
  · rfl
  · simp only
    split <;> rfl

/-- An exchange leaves the server as it was, or as its request left it. -/
theorem exchange_state (server : Server σ) (request? : Option Request) (s : σ) :
    (exchange server request? s).state = s ∨
      ∃ request, request? = some request ∧
        (exchange server request? s).state = (server request s).state := by
  cases request? with
  | none => exact Or.inl rfl
  | some request =>
    by_cases husable : request.url.isUsable = true
    · exact Or.inr ⟨request, rfl, exchange_state_of_isUsable server husable s⟩
    · rw [exchange, if_neg husable]
      exact Or.inl rfl

/-- An answer that an exchange came to is recorded behind what was recorded before. -/
theorem exchange_recorded (server : Server σ) (request? : Option Request) (s : σ × ServerLog) :
    ∃ asked, (exchange server.recorded request? s).state.2 = s.2 ++ asked ∧
      ∀ response, (exchange server.recorded request? s).result = .ok response →
        ∃ request, request? = some request ∧ (request, .ok response) ∈ asked := by
  cases h : (exchange server.recorded request? s).result with
  | error failure =>
    obtain hstate | ⟨request, _, hstate⟩ := exchange_state server.recorded request? s
    · exact ⟨[], by rw [hstate, List.append_nil], by simp⟩
    · exact ⟨[(request, (server request s.1).result)], by rw [hstate]; rfl, by simp⟩
  | ok response =>
    obtain ⟨request, rfl, husable, hresult, hstatus⟩ := exchange_eq_ok_iff.mp h
    refine ⟨[(request, .ok response)], ?_, ?_⟩
    · rw [(exchange_run husable hresult hstatus).2, ← hresult]
      rfl
    · rintro _ ⟨⟩
      exact ⟨request, rfl, List.mem_singleton_self _⟩

end Http

/-! ## What the agent takes for an acknowledgement -/

namespace RemoteAgent

/-- An answer with this status makes a grant. -/
def Acknowledges (code : Nat) : Prop :=
  Status.isProvisional code = false ∧ Status.isFailure code = false

instance : DecidablePred Acknowledges :=
  fun _ => inferInstanceAs (Decidable (_ ∧ _))

/-- Not only successes make a grant. -/
theorem acknowledges_iff {code : Nat} :
    Acknowledges code ↔ Status.isSuccess code = true ∨ code < 100 ∨ code = 101 ∨
      (300 ≤ code ∧ code < 400) ∨ 600 ≤ code := by
  simp only [Acknowledges, Status.isProvisional, Status.isFailure, Status.isSuccess,
    Bool.and_eq_false_iff, Bool.and_eq_true, decide_eq_false_iff_not, decide_eq_true_eq,
    bne_eq_false_iff_eq]
  omega

variable {a : RemoteAgent} {server : Server σ} {t : RelationTuple} {s : σ}

/-- A check leaves the server as its exchange does. -/
theorem check_state (a : RemoteAgent) (server : Server σ) (t : RelationTuple) (s : σ) :
    ((a.agent server).check t s).state = (exchange server (a.checkRequest? t) s).state := by
  simp only [agent, Action.bind_run, Action.attempt_run]
  cases (exchange server (a.checkRequest? t) s).result with
  | error failure => rfl
  | ok response =>
    simp only [judgeCheck]
    split_ifs
    · rfl
    · rcases checkAnswer.ofText response.content with _ | _ | _ <;> rfl
    · rfl

/-- A grant comes to what the exchange came to, and fails with the status of a failure. -/
theorem add_run (a : RemoteAgent) (server : Server σ) (t : RelationTuple) (s : σ) :
    ((a.agent server).add t s).result =
        (match (exchange server (a.grantRequest? t) s).result with
          | .ok response =>
            if Status.isFailure response.status then
              .error (.backend (.transport (.status response.status)))
            else .ok ()
          | .error failure => .error (.backend (.transport failure))) ∧
      ((a.agent server).add t s).state = (exchange server (a.grantRequest? t) s).state := by
  simp only [agent, Action.bind_run, Action.attempt_run]
  cases (exchange server (a.grantRequest? t) s).result with
  | error failure => exact ⟨rfl, rfl⟩
  | ok response =>
    simp only [judgeGrant]
    split_ifs <;> exact ⟨rfl, rfl⟩

/-- A grant is made exactly by an answer that acknowledges it. -/
theorem add_eq_ok_iff : ((a.agent server).add t s).result = .ok () ↔
    ∃ request response, a.grantRequest? t = some request ∧ request.url.isUsable = true ∧
      (server request s).result = .ok response ∧ Acknowledges response.status := by
  rw [(add_run a server t s).1]
  constructor
  · intro h
    cases hexchange : (exchange server (a.grantRequest? t) s).result with
    | error failure =>
      rw [hexchange] at h
      cases h
    | ok response =>
      obtain ⟨request, hrequest, husable, hresult, hstatus⟩ := exchange_eq_ok_iff.mp hexchange
      refine ⟨request, response, hrequest, husable, hresult, hstatus, ?_⟩
      rw [hexchange] at h
      by_contra hfailure
      simp [hfailure] at h
  · rintro ⟨request, response, hrequest, husable, hresult, hstatus, hfailure⟩
    rw [exchange_eq_ok_iff.mpr ⟨request, hrequest, husable, hresult, hstatus⟩]
    simp [hfailure]

/-- A grant that is not made is refused for want of an answer. -/
theorem add_eq_error_of_ne (h : ((a.agent server).add t s).result ≠ .ok ()) :
    ∃ failure, ((a.agent server).add t s).result = .error (.backend (.transport failure)) := by
  rw [(add_run a server t s).1] at h ⊢
  cases hexchange : (exchange server (a.grantRequest? t) s).result with
  | error failure => exact ⟨failure, rfl⟩
  | ok response =>
    rw [hexchange] at h
    cases hfailure : Status.isFailure response.status with
    | true => exact ⟨_, if_pos hfailure⟩
    | false => simp [hfailure] at h

/-- The grant of a tuple was asked for, and acknowledged. -/
def Acknowledged (a : RemoteAgent) (t : RelationTuple) (asked : ServerLog) : Prop :=
  ∃ request response, a.grantRequest? t = some request ∧ (request, .ok response) ∈ asked ∧
    Acknowledges response.status

/-- A grant that is made was acknowledged. -/
theorem add_recorded (a : RemoteAgent) (server : Server σ) (t : RelationTuple)
    (s : σ × ServerLog) :
    ∃ asked, ((a.agent server.recorded).add t s).state.2 = s.2 ++ asked ∧
      (((a.agent server.recorded).add t s).result = .ok () → a.Acknowledged t asked) := by
  obtain ⟨asked, hasked, hanswered⟩ := exchange_recorded server (a.grantRequest? t) s
  refine ⟨asked, by rw [(add_run a _ t s).2, hasked], fun h => ?_⟩
  obtain ⟨request, response, hrequest, husable, hresult, acknowledges⟩ := add_eq_ok_iff.mp h
  obtain ⟨request', hrequest', hmem⟩ := hanswered response
    (exchange_eq_ok_iff.mpr ⟨request, hrequest, husable, hresult, acknowledges.1⟩)
  exact ⟨request', response, hrequest', hmem, acknowledges⟩

end RemoteAgent

/-! ## Registrations over the remote agent -/

/-- A grant that the identity service answers with yes was made by its agent. -/
theorem LocalIdentity.add_of_addPolicy {service : LocalIdentity α} {t : RelationTuple}
    {s : IdentityState α} (h : (service.addPolicy t s).result = .ok true) :
    (service.agent.add t s.agent).result = .ok () := by
  rw [(service.addPolicy_run t s).1] at h
  cases hadd : (service.agent.add t s.agent).result with
  | ok _ => rfl
  | error error =>
    rw [hadd] at h
    cases h

namespace RemoteAgent

variable (a : RemoteAgent) (server : Server σ) (lifetime : KeyKind → Calendar.Duration)
  (tokenAt : Nat → String) (others : Backing ω) (accepts : String → Bool)

/-- The identity service before the remote agent, which asks a recorded server. -/
def identity : LocalIdentity (σ × ServerLog) :=
  ⟨lifetime, tokenAt, a.agent server.recorded⟩

/-- The account service over this identity service, with anything beside it. -/
def accountService : AccountService (IdentityState (σ × ServerLog) × ω) :=
  ⟨(a.identity server lifetime tokenAt).inFrontOf others, accepts⟩

/-- A grant that is answered with yes was acknowledged, while it was made. -/
theorem granted_recorded (call : BackingCall) (s : IdentityState (σ × ServerLog) × ω) :
    let o := (a.identity server lifetime tokenAt).inFrontOf others call s
    ∃ asked, o.state.1.agent.2 = s.1.agent.2 ++ asked ∧
      ∀ t, Exchange.mk call o.result = .granted t → a.Acknowledged t asked := by
  intro o
  have quiet (h : o.state.1.agent = s.1.agent) :
      o.state.1.agent.2 = s.1.agent.2 ++ [] := by rw [h, List.append_nil]
  -- only questions and grants reach the agent, and only a grant can be granted
  cases call with
  | authorize t =>
    obtain ⟨asked, hasked, _⟩ := exchange_recorded server (a.checkRequest? t) s.1.agent
    refine ⟨asked, ?_, fun t' h => by cases h⟩
    have hstate : o.state.1.agent = ((a.agent server.recorded).check t s.1.agent).state :=
      congrArg IdentityState.agent
        ((a.identity server lifetime tokenAt).authorize_run t s.1).2
    rw [hstate, check_state, hasked]
  | addPolicy t =>
    obtain ⟨asked, hasked, hacknowledged⟩ := add_recorded a server t s.1.agent
    have hstate := ((a.identity server lifetime tokenAt).addPolicy_run t s.1).2
    refine ⟨asked, (congrArg (·.agent.2) hstate).trans hasked, fun t' h => ?_⟩
    obtain ⟨hyes, rfl⟩ : o.result = .ok true ∧ t' = t := by
      generalize o.result = ending at h
      cases h
      exact ⟨rfl, rfl⟩
    exact hacknowledged (LocalIdentity.add_of_addPolicy hyes)
  | issue id email kind =>
    refine ⟨[], quiet ?_, fun t h => by cases h⟩
    show ((a.identity server lifetime tokenAt).issue id email kind s.1).state.agent = s.1.agent
    rw [LocalIdentity.issue_run]
    split_ifs
    · rfl
    · split <;> rfl
  | members token group offset limit memberType =>
    refine ⟨[], quiet ?_, fun t h => by cases h⟩
    show (LocalIdentity.members token group offset limit memberType s.1).state.agent = s.1.agent
    rw [LocalIdentity.members_state]
  | _ => exact ⟨[], quiet rfl, fun t h => by cases h⟩

/-- Whatever a request grants was acknowledged, while the request was served. -/
theorem exchanges_recorded (request : ServiceCall) (s : IdentityState (σ × ServerLog) × ω) :
    let service := a.accountService server lifetime tokenAt others accepts
    ∃ asked, (service.serve request s).state.1.agent.2 = s.1.agent.2 ++ asked ∧
      ∀ t, .granted t ∈ service.exchanges request s → a.Acknowledged t asked := by
  intro service
  refine AccountService.exchanges_induction
    (motive := fun s calls s' => ∃ asked, s'.1.agent.2 = s.1.agent.2 ++ asked ∧
      ∀ t, .granted t ∈ calls → a.Acknowledged t asked) (fun s => ?_) ?_ request s
  · exact ⟨[], (List.append_nil _).symm, by simp⟩
  · rintro s call calls s' ⟨later, hlater, hmade⟩
    obtain ⟨asked, hasked, hgranted⟩ :=
      a.granted_recorded server lifetime tokenAt others call s
    refine ⟨asked ++ later, ?_, fun t ht => ?_⟩
    · rw [hlater, ← List.append_assoc, ← hasked]
      rfl
    · obtain ht | ht := List.mem_cons.mp ht
      · obtain ⟨request, response, hrequest, hmem, hstatus⟩ := hgranted t ht.symm
        exact ⟨request, response, hrequest, List.mem_append_left _ hmem, hstatus⟩
      · obtain ⟨request, response, hrequest, hmem, hstatus⟩ := hmade t ht
        exact ⟨request, response, hrequest, List.mem_append_right _ hmem, hstatus⟩

/-- The remote agent makes a grant exactly if the server answers it, neither provisionally nor with
the status of a failure, and refuses it for want of an answer otherwise. Behind the remote agent a
registration writes a record only if, while it was served, the grant of ownership of this record
was answered so. Among the statuses in question are those of successes, but also 101 and those of
redirects. -/
theorem saved_behind_answer :
    (∀ code, Acknowledges code ↔ Status.isSuccess code = true ∨ code < 100 ∨ code = 101 ∨
      (300 ≤ code ∧ code < 400) ∨ 600 ≤ code) ∧
    (∀ t s, ((a.agent server).add t s).result = .ok () ↔
      ∃ request response, a.grantRequest? t = some request ∧ request.url.isUsable = true ∧
        (server request s).result = .ok response ∧ Acknowledges response.status) ∧
    (∀ t s, ((a.agent server).add t s).result ≠ .ok () →
      ∃ failure,
        ((a.agent server).add t s).result = .error (.backend (.transport failure))) ∧
    ∀ token user saved ending s,
      let service := a.accountService server lifetime tokenAt others accepts
      ⟨.save saved, ending⟩ ∈ service.exchanges (.register token user) s →
      ∃ asked, (service.serve (.register token user) s).state.1.agent.2 =
          s.1.agent.2 ++ asked ∧ a.Acknowledged (.ownership saved.id) asked := by
  refine ⟨fun code => acknowledges_iff, fun t s => add_eq_ok_iff, fun t s => add_eq_error_of_ne, ?_⟩
  intro token user saved ending s service hsaved
  obtain ⟨asked, hasked, hgranted⟩ :=
    a.exchanges_recorded server lifetime tokenAt others accepts (.register token user) s
  refine ⟨asked, hasked, hgranted _ ?_⟩
  obtain ⟨_, id, hash, gate, rfl, hcalls⟩ :=
    (service.register_exchanges token user s).eq_of_saves hsaved
  rw [hcalls]
  exact List.mem_append_right _ (List.mem_cons_of_mem _ List.mem_cons_self)

/-! ## A redirect -/

/-- A server that answers every question with yes and every grant with a redirect. -/
def redirecting : Server Unit := fun request =>
  match request.method with
  | .get => return TupleServer.answer true
  | .patch => return ⟨302, ""⟩

/-- The agent takes a redirect for an acknowledgement, and a registration writes its record. -/
theorem registers_on_redirect :
    let agent := (⟨"http://127.0.0.1:4466".toList, "http://127.0.0.1:4467".toList⟩ :
      RemoteAgent).agent redirecting
    let d : Deployment Unit Unit :=
      { identity := { tokenAt := fun _ => "token", agent }
        hasher := plainHasher Unit
        mailer := silentMailer Unit
        ids := ⟨return "id-1"⟩
        accepts := fun password => password.length ≥ 8 }
    let o := d.service.serve (.register "" { email := "a@x.com", password := "password" })
      { identity := { now := ⟨0, 0, by decide⟩, agent := () }, outside := () }
    Status.isSuccess 302 = false ∧ (agent.add (.ownership "id-1") ()).result = .ok () ∧
      o.result = .ok "id-1" ∧ o.state.accounts.users.map (·.id) = ["id-1"] := by
  decide +kernel

end RemoteAgent

end AccessControl
