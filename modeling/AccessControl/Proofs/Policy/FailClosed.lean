import AccessControl.Proofs.Policy.Acknowledgement
import AccessControl.Proofs.Policy.CheckBody

/-!
# Remote questions fail closed

A question to a server is answered with yes only by a success whose body says so, and with a plain
no only by a success whose body says so or by status 403 (`RemoteAgent.CheckCourse`). Everything
else that can come back is a refusal with a cause.

The log tells the two refusals apart: a request that was refused with a cause leaves one warning
that names the request and its tuple, and no other request leaves anything
(`RemoteAgent.perform_visible`, and `RemoteAgent.fails_closed` for whole lists of requests).
-/

namespace AccessControl

open AccessControl.Http
open AccessControl.Json

variable {σ α : Type}

/-! ## Lists of requests -/

/-- A request to an agent, how it ended, and what was logged meanwhile. -/
structure Attempt where
  request : AgentRequest
  tuple : RelationTuple
  ending : Except PolicyError Unit
  events : List Event

/-- The event is a warning that names a request and its tuple. -/
def Event.WarnsOf (event : Event) (request : AgentRequest) (t : RelationTuple) : Prop :=
  event.level = .warn ∧ ("op", request.name) ∈ event.fields ∧ ("tuple", t.display) ∈ event.fields

/-- A refusal with a cause left one warning, and any other ending nothing. -/
def Attempt.Visible (attempt : Attempt) : Prop :=
  match attempt.ending with
  | .error (.backend _) => ∃ event, attempt.events = [event] ∧
      event.WarnsOf attempt.request attempt.tuple
  | _ => attempt.events = []

/-- Requests that are put one after the other, with all that is seen of them. -/
def PolicyAgent.attempts (agent : PolicyAgent α) :
    List (AgentRequest × RelationTuple) → α → List Attempt
  | [], _ => []
  | (request, t) :: requests, a =>
    let o := agent.perform (request, t) a
    ⟨request, t, o.result, o.events⟩ :: agent.attempts requests o.state

/-- The attempts are the requests that were made, in their order. -/
theorem PolicyAgent.attempts_requests (agent : PolicyAgent α)
    (requests : List (AgentRequest × RelationTuple)) (a : α) :
    (agent.attempts requests a).map (fun e => (e.request, e.tuple)) = requests := by
  induction requests generalizing a with
  | nil => rfl
  | cons request requests ih =>
    obtain ⟨request, t⟩ := request
    rw [attempts, List.map_cons, ih]

/-- What holds of each request from every state holds of all requests of a list. -/
theorem PolicyAgent.attempts_forall {agent : PolicyAgent α} {P : Attempt → Prop}
    (h : ∀ request t a, let o := agent.perform (request, t) a
      P ⟨request, t, o.result, o.events⟩) (requests : List (AgentRequest × RelationTuple)) (a : α) :
    ∀ e ∈ agent.attempts requests a, P e := by
  induction requests generalizing a with
  | nil => simp [attempts]
  | cons request requests ih =>
    obtain ⟨request, t⟩ := request
    exact List.forall_mem_cons.mpr ⟨h request t a, ih _⟩

/-! ## Servers -/

/-- The server that answers, or fails to, in the way that a function says. It does not log. -/
def Http.Server.replying (reply : Request → σ → Except TransportFailure Response × σ) : Server σ :=
  fun request s => ⟨(reply request s).1, [], (reply request s).2⟩

/-- An exchange with a server that replies emits no event of its own. -/
theorem Http.exchange_replying (reply : Request → σ → Except TransportFailure Response × σ)
    (request? : Option Request) (s : σ) :
    (exchange (Server.replying reply) request? s).events = [] := by
  cases request? with
  | none => rfl
  | some request =>
    rw [exchange]
    split
    · rw [Action.bind_run, Server.replying]
      rcases (reply request s).1 with failure | response
      · rfl
      · dsimp only
        split <;> rfl
    · rfl

namespace RemoteAgent

variable {a : RemoteAgent} {reply : Request → σ → Except TransportFailure Response × σ}
  {t : RelationTuple} {s : σ}

/-- The text behind the base address is an address, the question about a tuple is short enough to be
sent there, and this is what comes back. -/
def IsAnswered (a : RemoteAgent) (reply : Request → σ → Except TransportFailure Response × σ)
    (t : RelationTuple) (s : σ) (response : Response) : Prop :=
  ∃ url, Url.ofChars? (a.readBase ++ "/relation-tuples/check".toList) = some url ∧
    (questionAt url t).url.isUsable = true ∧ (reply (questionAt url t) s).1 = .ok response

/-- A success, with a body that says whether the tuple is allowed. -/
def SucceedsWith (response : Response) (allowed : Bool) : Prop :=
  Status.isSuccess response.status = true ∧ checkAnswer.ofText response.content = .ok allowed

/-- A denial: status 403 whatever the body, or a success with a body that says no. -/
def Denies (response : Response) : Prop :=
  response.status = 403 ∨ SucceedsWith response false

/-- How an answer to a question is judged, and what is logged of it. -/
inductive Judgement (t : RelationTuple) (response : Response) :
    Except PolicyError Unit → List Event → Prop
  | granted (told : SucceedsWith response true) : Judgement t response (.ok ()) []
  | denied (denies : Denies response) : Judgement t response (.error .denied) []
  | unclear {cause : BackendCause} {event : Event} (ungranted : ¬ SucceedsWith response true)
      (undenied : ¬ Denies response) (warns : event.WarnsOf .check t) :
      Judgement t response (.error (.backend cause)) [event]

/-- A request that failed is warned of. -/
theorem warnsOf_requestFailed (request : AgentRequest) (t : RelationTuple) :
    (Event.agent (.requestFailed request t)).WarnsOf request t := by
  simp [Event.WarnsOf, Event.level, Event.fields]

/-- An unexpected status is warned of. -/
theorem warnsOf_unexpectedStatus (request : AgentRequest) (t : RelationTuple) (status : String) :
    (Event.agent (.unexpectedStatus request t status)).WarnsOf request t := by
  simp [Event.WarnsOf, Event.level, Event.fields]

/-- A response to a check is judged as it should be. -/
theorem judgeCheck_judgement (t : RelationTuple) (response : Response) (s : σ) :
    Judgement t response (judgeCheck t response s).result (judgeCheck t response s).events := by
  by_cases hforbidden : response.status = 403
  · rw [judgeCheck, if_pos hforbidden]
    exact .denied (Or.inl hforbidden)
  by_cases hsuccess : Status.isSuccess response.status = true
  · rw [judgeCheck, if_neg hforbidden, if_pos hsuccess]
    rcases hbody : checkAnswer.ofText response.content with fault | _ | _
    · refine .unclear (fun told => ?_) (fun denies => ?_) (warnsOf_requestFailed .check t)
      · cases hbody.symm.trans told.2
      · obtain h | told := denies
        · exact hforbidden h
        · cases hbody.symm.trans told.2
    · exact .denied (Or.inr ⟨hsuccess, hbody⟩)
    · exact .granted ⟨hsuccess, hbody⟩
  · rw [judgeCheck, if_neg hforbidden, if_neg hsuccess]
    refine .unclear (fun told => hsuccess told.1) (fun denies => ?_)
      (warnsOf_unexpectedStatus .check t (Status.display response.status))
    exact denies.elim hforbidden fun told => hsuccess told.1

/-- A provisional status is neither that of a success nor 403. -/
theorem not_judged_of_provisional {response : Response}
    (h : Status.isProvisional response.status = true) :
    ¬ SucceedsWith response true ∧ ¬ Denies response := by
  simp only [Status.isProvisional, Bool.and_eq_true, decide_eq_true_eq] at h
  have hsuccess : ∀ b, ¬ SucceedsWith response b := by
    rintro b ⟨hstatus, _⟩
    simp only [Status.isSuccess, Bool.and_eq_true, decide_eq_true_eq] at hstatus
    omega
  refine ⟨hsuccess true, ?_⟩
  rintro (hforbidden | told)
  · omega
  · exact hsuccess false told

/-- A check is answered by at most one response. -/
theorem IsAnswered.unique {response response' : Response} (h : a.IsAnswered reply t s response)
    (h' : a.IsAnswered reply t s response') : response = response' := by
  obtain ⟨url, hurl, _, hreply⟩ := h
  obtain ⟨url', hurl', _, hreply'⟩ := h'
  cases hurl.symm.trans hurl'
  cases hreply.symm.trans hreply'
  rfl

/-- A response that succeeds with a yes denies nothing. -/
theorem SucceedsWith.not_denies {response : Response} (told : SucceedsWith response true) :
    ¬ Denies response := by
  rintro (hforbidden | told')
  · have hstatus := told.1
    rw [hforbidden] at hstatus
    cases hstatus
  · cases told.2.symm.trans told'.2

/-- How a question ends, and what is logged of it. -/
inductive CheckCourse (a : RemoteAgent)
    (reply : Request → σ → Except TransportFailure Response × σ) (t : RelationTuple) (s : σ) :
    Except PolicyError Unit → List Event → Prop
  | granted {response : Response} (answered : a.IsAnswered reply t s response)
      (told : SucceedsWith response true) : CheckCourse a reply t s (.ok ()) []
  | denied {response : Response} (answered : a.IsAnswered reply t s response)
      (denies : Denies response) : CheckCourse a reply t s (.error .denied) []
  | failed {cause : BackendCause} {event : Event}
      (unjudged : ∀ response, a.IsAnswered reply t s response →
        ¬ SucceedsWith response true ∧ ¬ Denies response)
      (warns : event.WarnsOf .check t) : CheckCourse a reply t s (.error (.backend cause)) [event]

/-- The question that is sent is the one about the tuple at the address that the base gives. -/
theorem isAnswered_iff {response : Response} : a.IsAnswered reply t s response ↔
    ∃ request, a.checkRequest? t = some request ∧ request.url.isUsable = true ∧
      (reply request s).1 = .ok response := by
  simp only [IsAnswered, checkRequest?, Option.map_eq_some_iff]
  constructor
  · rintro ⟨url, hurl, husable, hreply⟩
    exact ⟨questionAt url t, ⟨url, hurl, rfl⟩, husable, hreply⟩
  · rintro ⟨_, ⟨url, hurl, rfl⟩, husable, hreply⟩
    exact ⟨url, hurl, husable, hreply⟩

/-- Every question takes one of these courses. -/
theorem check_course (a : RemoteAgent)
    (reply : Request → σ → Except TransportFailure Response × σ) (t : RelationTuple) (s : σ) :
    let o := (a.agent (Server.replying reply)).check t s
    CheckCourse a reply t s o.result o.events := by
  have hsilent := exchange_replying reply (a.checkRequest? t) s
  simp only [agent, Action.bind_run, Action.attempt_run, hsilent, List.nil_append]
  cases hresult : (exchange (Server.replying reply) (a.checkRequest? t) s).result with
  | error failure =>
    refine .failed (fun response hanswered => ?_) (warnsOf_requestFailed .check t)
    obtain ⟨request, hrequest, husable, hreply⟩ := isAnswered_iff.mp hanswered
    -- the exchange did not come to this answer, so it was a provisional one
    cases hstatus : Status.isProvisional response.status with
    | true => exact not_judged_of_provisional hstatus
    | false =>
      have hok : (exchange (Server.replying reply) (a.checkRequest? t) s).result = .ok response :=
        exchange_eq_ok_iff.mpr ⟨request, hrequest, husable, hreply, hstatus⟩
      cases hresult.symm.trans hok
  | ok response =>
    obtain ⟨request, hrequest, husable, hreply, _⟩ := exchange_eq_ok_iff.mp hresult
    have answered : a.IsAnswered reply t s response :=
      isAnswered_iff.mpr ⟨request, hrequest, husable, hreply⟩
    dsimp only
    have judgement := judgeCheck_judgement t response
      (exchange (Server.replying reply) (a.checkRequest? t) s).state
    generalize judgeCheck t response _ = o at judgement ⊢
    obtain ⟨ending, events, s'⟩ := o
    cases judgement with
    | granted told => exact .granted answered told
    | denied denies => exact .denied answered denies
    | unclear ungranted undenied warns =>
      refine .failed (fun response' answered' => ?_) warns
      rw [← answered.unique answered']
      exact ⟨ungranted, undenied⟩

section Courses

variable {ending : Except PolicyError Unit} {events : List Event}

/-- A check ends well exactly when it is answered with a yes. -/
theorem CheckCourse.eq_ok_iff (course : CheckCourse a reply t s ending events) :
    ending = .ok () ↔ ∃ response, a.IsAnswered reply t s response ∧ SucceedsWith response true := by
  cases course with
  | granted answered told => exact iff_of_true rfl ⟨_, answered, told⟩
  | denied answered denies =>
    refine iff_of_false (by simp) ?_
    rintro ⟨response, answered', told⟩
    exact told.not_denies (answered.unique answered' ▸ denies)
  | failed unjudged =>
    refine iff_of_false (by simp) ?_
    rintro ⟨response, answered, told⟩
    exact (unjudged response answered).1 told

/-- A check is denied exactly when it is answered with a denial. -/
theorem CheckCourse.eq_denied_iff (course : CheckCourse a reply t s ending events) :
    ending = .error .denied ↔ ∃ response, a.IsAnswered reply t s response ∧ Denies response := by
  cases course with
  | granted answered told =>
    refine iff_of_false (by simp) ?_
    rintro ⟨response, answered', denies⟩
    exact told.not_denies (answered.unique answered' ▸ denies)
  | denied answered denies => exact iff_of_true rfl ⟨_, answered, denies⟩
  | failed unjudged =>
    refine iff_of_false (by simp) ?_
    rintro ⟨response, answered, denies⟩
    exact (unjudged response answered).2 denies

/-- A check that fails otherwise is warned of, once. -/
theorem CheckCourse.visible (course : CheckCourse a reply t s ending events) :
    (Attempt.mk .check t ending events).Visible := by
  cases course with
  | granted => exact rfl
  | denied => exact rfl
  | failed _ warns => exact ⟨_, rfl, warns⟩

end Courses

/-- A grant is visible as an attempt, whatever the server replies. -/
theorem add_visible (a : RemoteAgent)
    (reply : Request → σ → Except TransportFailure Response × σ) (t : RelationTuple) (s : σ) :
    let o := (a.agent (Server.replying reply)).add t s
    (Attempt.mk .add t o.result o.events).Visible := by
  have hsilent := exchange_replying reply (a.grantRequest? t) s
  simp only [agent, Action.bind_run, Action.attempt_run, hsilent, List.nil_append]
  cases (exchange (Server.replying reply) (a.grantRequest? t) s).result with
  | error failure => exact ⟨_, rfl, warnsOf_requestFailed .add t⟩
  | ok response =>
    simp only [judgeGrant]
    split
    · exact ⟨_, rfl, warnsOf_requestFailed .add t⟩
    · exact rfl

/-- Each request leaves one warning or nothing, by how it ends. -/
theorem perform_visible (a : RemoteAgent)
    (reply : Request → σ → Except TransportFailure Response × σ) (request : AgentRequest)
    (t : RelationTuple) (s : σ) :
    let o := (a.agent (Server.replying reply)).perform (request, t) s
    (Attempt.mk request t o.result o.events).Visible := by
  cases request with
  | check => exact (a.check_course reply t s).visible
  | add => exact a.add_visible reply t s

/-- However the server answers a question, or fails to: the question is answered with yes exactly if
the answer is a success whose body says so, with a plain no exactly if it is a success whose body
says so or has status 403, and is refused with a cause otherwise. A body that is the text of a JSON
value says what the value tells, and nothing if it tells nothing.

In every list of requests, each one that is refused with a cause leaves one warning that names the
request and its tuple, and every other one leaves nothing. -/
theorem fails_closed (a : RemoteAgent)
    (reply : Request → σ → Except TransportFailure Response × σ) (s : σ) :
    let agent := a.agent (Server.replying reply)
    (∀ t, let result := (agent.check t s).result
      (result = .ok () ↔ ∃ response, a.IsAnswered reply t s response ∧ SucceedsWith response true) ∧
        (result = .error .denied ↔ ∃ response, a.IsAnswered reply t s response ∧ Denies response) ∧
        (result = .ok () ∨ result = .error .denied ∨ ∃ cause, result = .error (.backend cause))) ∧
      (∀ v : Value, v.FloatFree → ∀ b, checkAnswer.ofText v.text = .ok b ↔ v.StatesAllowed b) ∧
      ∀ requests, let attempts := agent.attempts requests s
        attempts.map (fun e => (e.request, e.tuple)) = requests ∧ ∀ e ∈ attempts, e.Visible := by
  intro agent
  refine ⟨fun t => ?_, fun v free b => checkAnswer_ofText free b, fun requests => ?_⟩
  · have course := a.check_course reply t s
    refine ⟨course.eq_ok_iff, course.eq_denied_iff, ?_⟩
    rcases (agent.check t s).result with (_ | cause) | _
    · exact Or.inr (Or.inl rfl)
    · exact Or.inr (Or.inr ⟨cause, rfl⟩)
    · exact Or.inl rfl
  · exact ⟨agent.attempts_requests requests s,
      agent.attempts_forall (a.perform_visible reply) requests s⟩

/-- A success whose body says yes is a yes. Other entries of a body do not matter to an answer, but
one that says yes twice is none. -/
theorem repeated_yes_is_no_answer :
    let entry : String × Value := ("allowed", .bool true)
    let once := Value.object [("note", .array [.null]), entry]
    let twice := Value.object [entry, entry]
    let a : RemoteAgent := ⟨"http://acl".toList, "http://acl".toList⟩
    let replying (body : String) := a.agent (Server.replying fun _ s => (.ok ⟨200, body⟩, s))
    let t : RelationTuple := ⟨"ann", "staff", "member"⟩
    once.FloatFree ∧ twice.FloatFree ∧ checkAnswer.ofText once.text = .ok true ∧
      checkAnswer.ofText twice.text ≠ .ok true ∧
      ((replying "\x7b\"allowed\":true\x7d").check t ()).result = .ok () ∧
      ((replying twice.text).check t ()).result ≠ .ok () := by
  intro entry once twice a replying t
  have hentry : entry.2.FloatFree := .bool true
  have hnote : (Value.array [.null]).FloatFree := .array (by simp [Value.FloatFree.null])
  have honce : once.FloatFree := .object (by simp [hnote, hentry])
  have htwice : twice.FloatFree := .object (by simp [hentry])
  have states : (Value.object ([("note", .array [.null])] ++ entry :: [])).StatesAllowed true :=
    .object (by simp) (by simp)
  have hnone : ¬ twice.StatesAllowed true := fun states => absurd states.count (by simp [entry])
  have law (body : String) := fails_closed a (fun _ s => (.ok ⟨200, body⟩, s)) ()
  have hbody := (law "").2.1
  have hasked (body : String) :
      a.IsAnswered (fun _ s => (.ok ⟨200, body⟩, s)) t () ⟨200, body⟩ :=
    ⟨{ scheme := .http, host := .domain "acl".toList, path := TupleServer.asking },
      by decide +kernel, by decide +kernel, rfl⟩
  refine ⟨honce, htwice, (hbody once honce true).mpr states,
    fun h => hnone ((hbody twice htwice true).mp h), ?_, fun h => ?_⟩
  · exact ((law _).1 t).1.mpr ⟨_, hasked _, rfl, TupleServer.ofText_answer true⟩
  · obtain ⟨response, hresponse, _, hyes⟩ := ((law _).1 t).1.mp h
    cases hresponse.unique (hasked _)
    exact hnone ((hbody twice htwice true).mp hyes)

end RemoteAgent

end AccessControl
