import AccessControl.Proofs.Account.Grants
import AccessControl.Proofs.Account.InStep

/-!
# Outages and denials

A question that the policy agent cannot answer is answered with no. So two agents that concur in
their answers are told apart by nothing behind the identity service: calls to it are in step
(`LocalIdentity.guarding_inStep`), hence so are requests to the account service in front of it.

A failed question opens nothing either: if some questions of a registration that were answered with
yes fail instead, and everything else answers as before, the registration fails if it failed before
(`Registration.fails_of_fewer`).
-/

namespace AccessControl

open AccessControl.Calendar

variable {α β τ ω : Type}

/-! ## The identity service with another agent -/

namespace IdentityState

/-- Two states are the same but for the agents, which hold the same tuples and were asked as
often. -/
structure Parallel (tuples : α → τ) (tuples' : β → τ) (s : IdentityState (α × List AgentExchange))
    (s' : IdentityState (β × List AgentExchange)) : Prop where
  apart : s.withAgent () = s'.withAgent ()
  granted : tuples s.agent.1 = tuples' s'.agent.1
  asked : s.agent.2.length = s'.agent.2.length

/-- States that are the same but for the agents differ in nothing else. -/
theorem withAgent_eq_of_apart {s : IdentityState α} {s' : IdentityState β}
    (apart : s.withAgent () = s'.withAgent ()) : s.withAgent s'.agent = s' := by
  obtain ⟨hnow, hdrawn, hkeys, hgroups, _⟩ := IdentityState.mk.inj apart
  rw [withAgent, hnow, hdrawn, hkeys, hgroups]

end IdentityState

/-- The call does not reach the agent. -/
def BackingCall.SparesAgent (call : BackingCall) : Prop :=
  (∀ t, call ≠ .authorize t) ∧ ∀ t, call ≠ .addPolicy t

/-- A call asks the agent for a check or for a grant, or spares it. -/
theorem BackingCall.agent_cases (call : BackingCall) :
    (∃ t, call = .authorize t) ∨ (∃ t, call = .addPolicy t) ∨ call.SparesAgent := by
  cases call with
  | authorize t => exact Or.inl ⟨t, rfl⟩
  | addPolicy t => exact Or.inr (Or.inl ⟨t, rfl⟩)
  | _ => exact Or.inr (Or.inr ⟨by simp, by simp⟩)

namespace LocalIdentity

/-- A question is answered with yes or no, whatever the agent says beyond that. -/
theorem inFrontOf_authorize (service : LocalIdentity α) (others : Backing ω) (t : RelationTuple)
    (s : IdentityState α) (o : ω) :
    service.inFrontOf others (.authorize t) (s, o) =
      let asked := service.agent.check t s.agent
      ⟨.ok asked.result.isOk,
        asked.events ++ if asked.result.isOk then [] else [.checkDenied t],
        ({ s with agent := asked.state }, o)⟩ := by
  simp only [inFrontOf, onCall?, authorize, Action.bind_run, Action.attempt_run, ofAgent,
    Action.mapError_run, Action.zoom_run]
  cases (service.agent.check t s.agent).result <;> rfl

/-- Through the identity service, a policy is one grant of the agent, and its error is passed on. -/
theorem inFrontOf_addPolicy (service : LocalIdentity α) (others : Backing ω) (t : RelationTuple)
    (s : IdentityState α) (o : ω) :
    service.inFrontOf others (.addPolicy t) (s, o) =
      let asked := service.agent.add t s.agent
      ⟨(asked.result.map fun _ => true).mapError .authorization, asked.events,
        ({ s with agent := asked.state }, o)⟩ := by
  simp only [inFrontOf, onCall?, addPolicy, Action.bind_run, ofAgent, Action.mapError_run,
    Action.zoom_run]
  cases (service.agent.add t s.agent).result with
  | error error => rfl
  | ok _ => simp [Except.map, Except.mapError]

/-- A call that does not reach the agent leaves it as it is, and does the same with another one. -/
theorem inFrontOf_withAgent (service : LocalIdentity α) (agent : PolicyAgent β)
    (others : Backing ω) {call : BackingCall} (spares : call.SparesAgent) (s : IdentityState α)
    (a : β) (o : ω) :
    let done := service.inFrontOf others call (s, o)
    done.state.1.agent = s.agent ∧
      (service.withAgent agent).inFrontOf others call (s.withAgent a, o) =
        ⟨done.result, done.events, (done.state.1.withAgent a, done.state.2)⟩ := by
  cases call with
  | authorize t => exact absurd rfl (spares.1 t)
  | addPolicy t => exact absurd rfl (spares.2 t)
  | issue id email kind =>
    simp only [inFrontOf, onCall?, Action.zoom_run, issue_run]
    split
    · exact ⟨rfl, rfl⟩
    · simp only [withAgent, IdentityState.withAgent]
      cases s.now.add? (service.lifetime kind) with
      | none => exact ⟨rfl, rfl⟩
      | some expiry => exact ⟨rfl, rfl⟩
  | members token group offset limit memberType =>
    simp only [inFrontOf, onCall?, Action.zoom_run, members, Action.bind_run, identify_run,
      IdentityState.withAgent]
    cases (s.keys.resolve token s.now).1 with
    | error error => exact ⟨rfl, rfl⟩
    | ok caller =>
      simp only [Action.get_run]
      split <;> exact ⟨rfl, rfl⟩
  | _ => exact ⟨rfl, rfl⟩

/-- Recording what the agent is asked changes nothing else. -/
theorem recording_projects (service : LocalIdentity α) (others : Backing ω) :
    (service.recording.inFrontOf others).Projects (service.inFrontOf others)
      fun p => (p.1.withAgent p.1.agent.1, p.2) := by
  rintro call ⟨s, o⟩
  obtain ⟨t, rfl⟩ | ⟨t, rfl⟩ | spares := call.agent_cases
  · rw [inFrontOf_authorize, inFrontOf_authorize]
    rfl
  · rw [inFrontOf_addPolicy, inFrontOf_addPolicy]
    rfl
  · obtain ⟨hagent, hdone⟩ :=
      service.recording.inFrontOf_withAgent service.agent others spares s s.agent.1 o
    refine hdone.trans ?_
    simp only [hagent]

/-- What the agent was asked is never forgotten. -/
theorem log_grows (service : LocalIdentity α) (others : Backing ω) (call : BackingCall)
    (p : IdentityState (α × List AgentExchange) × ω) :
    p.1.agent.2 <+: (service.recording.inFrontOf others call p).state.1.agent.2 := by
  obtain ⟨s, o⟩ := p
  obtain ⟨t, rfl⟩ | ⟨t, rfl⟩ | spares := call.agent_cases
  · rw [inFrontOf_authorize]
    exact List.prefix_append _ _
  · rw [inFrontOf_addPolicy]
    exact List.prefix_append _ _
  · obtain ⟨hagent, _⟩ :=
      service.recording.inFrontOf_withAgent service.agent others spares s s.agent.1 o
    simp only [hagent, List.prefix_rfl]

section InStep

variable {service : LocalIdentity α} {agent : PolicyAgent β} {tuples : α → τ} {tuples' : β → τ}

/-- Identity services with agents that keep tuples alike are in step, in front of the same
others. -/
theorem inFrontOf_inStep (alike : service.agent.KeepAlike agent tuples tuples')
    (speaks : service.agent.SpeaksAsAgent) (speaks' : agent.SpeaksAsAgent) (others : Backing ω) :
    (service.recording.inFrontOf others).InStep
      ((service.withAgent agent).recording.inFrontOf others) (fun p => p.1.agent.2)
      (fun p' => p'.1.agent.2) fun p p' => p.1.Parallel tuples tuples' p'.1 ∧ p.2 = p'.2 where
  grows := service.log_grows others
  grows' := (service.withAgent agent).log_grows others
  step := by
    rintro call ⟨s, o⟩ ⟨s', _⟩ ⟨parallel, rfl⟩ concur
    obtain ⟨t, rfl⟩ | ⟨t, rfl⟩ | spares := call.agent_cases
    · rw [inFrontOf_authorize, inFrontOf_authorize] at concur ⊢
      have hsame : (service.agent.check t s.agent.1).result.isOk =
          (agent.check t s'.agent.1).result.isOk := concur.last parallel.asked
      refine ⟨congrArg Except.ok hsame, ?_, ⟨parallel.apart, ?_, ?_⟩, rfl⟩
      · show withoutAgents ((service.agent.check t s.agent.1).events ++
            if (service.agent.check t s.agent.1).result.isOk then _ else _) =
          withoutAgents ((agent.check t s'.agent.1).events ++ _)
        rw [hsame, withoutAgents_append, withoutAgents_append,
          withoutAgents_of_agents (speaks.checks t s.agent.1),
          withoutAgents_of_agents (speaks'.checks t s'.agent.1)]
        rfl
      · exact alike.asked t _ _ parallel.granted hsame
      · simp [recording, withAgent, PolicyAgent.recorded, parallel.asked]
    · rw [inFrontOf_addPolicy, inFrontOf_addPolicy] at concur ⊢
      have hsame : (service.agent.add t s.agent.1).result = (agent.add t s'.agent.1).result :=
        concur.last parallel.asked
      refine ⟨?_, ?_, ⟨parallel.apart, ?_, ?_⟩, rfl⟩
      · simp only [recording, withAgent, PolicyAgent.recorded, hsame]
      · simp only [recording, withAgent, PolicyAgent.recorded,
          withoutAgents_of_agents (speaks.adds t s.agent.1),
          withoutAgents_of_agents (speaks'.adds t s'.agent.1)]
      · exact alike.granted t _ _ parallel.granted hsame
      · simp [recording, withAgent, PolicyAgent.recorded, parallel.asked]
    · -- the other state is this one with the other agent
      obtain ⟨hagent, hdone⟩ :=
        service.recording.inFrontOf_withAgent agent.recorded others spares s s'.agent o
      rw [IdentityState.withAgent_eq_of_apart parallel.apart] at hdone
      have hother : (service.withAgent agent).recording.inFrontOf others call (s', o) = _ := hdone
      rw [hother]
      refine ⟨rfl, rfl, ⟨rfl, ?_, ?_⟩, rfl⟩
      · rw [hagent]
        exact parallel.granted
      · rw [hagent]
        exact parallel.asked

/-- The same holds of the services under the same clock. -/
theorem guarding_inStep (alike : service.agent.KeepAlike agent tuples tuples')
    (speaks : service.agent.SpeaksAsAgent) (speaks' : agent.SpeaksAsAgent) (others : Backing ω)
    (accepts : String → Bool) (clock : Nat → Timestamp) :
    (service.recording.guarding others accepts (.timed clock)).backing.InStep
      ((service.withAgent agent).recording.guarding others accepts (.timed clock)).backing
      (fun s => s.1.1.agent.2) (fun s' => s'.1.1.agent.2)
      fun s s' => (s.1.1.Parallel tuples tuples' s'.1.1 ∧ s.1.2 = s'.1.2) ∧ s.2 = s'.2 := by
  have hshowing : ∀ (p : IdentityState (α × List AgentExchange) × ω)
      (p' : IdentityState (β × List AgentExchange) × ω) now,
      p.1.Parallel tuples tuples' p'.1 ∧ p.2 = p'.2 →
        (showing p now).1.Parallel tuples tuples' (showing p' now).1 ∧
          (showing p now).2 = (showing p' now).2 := by
    rintro p p' now ⟨parallel, hothers⟩
    exact ⟨⟨congrArg (·.at now) parallel.apart, parallel.granted, parallel.asked⟩, hothers⟩
  exact (inFrontOf_inStep alike speaks speaks' others).timed hshowing (fun _ _ => rfl)
    (fun _ _ => rfl) clock

end InStep

/-! ## What the agent was asked -/

section Log

variable (service : LocalIdentity α) (others : Backing ω) (accepts : String → Bool)
  (conditions : Conditions)

/-- Recording the questions to the agent changes nothing behind the guard. -/
theorem guarding_projects :
    (service.recording.guarding others accepts conditions).backing.Projects
      (service.guarding others accepts conditions).backing
      fun s => ((s.1.1.withAgent s.1.1.agent.1, s.1.2), s.2) := by
  show ((service.recording.inFrontOf others).under showing conditions).Projects
    ((service.inFrontOf others).under showing conditions) _
  exact (service.recording_projects others).under (fun _ _ => rfl) conditions

/-- What the agent is asked while requests are served, and how it answers. -/
def agentLog (s : IdentityState α) (o : ω) (requests : List ServiceCall) : List AgentExchange :=
  ((service.recording.guarding others accepts conditions).serveAll
    ((s.withAgent (s.agent, []), o), 0) requests).1.1.agent.2

end Log

variable {service : LocalIdentity α} {others : Backing ω} {accepts : String → Bool}
  {clock : Nat → Timestamp}

/-- While the agent is on record, a question of a request is put to it, and is answered with yes
exactly if the agent does so. -/
theorem recording_authorizes (request : ServiceCall)
    (first : (IdentityState (α × List AgentExchange) × ω) × Nat) {t : RelationTuple}
    {ending : Except IdentityError Bool} :
    let watched := service.recording.guarding others accepts (.timed clock)
    ⟨.authorize t, ending⟩ ∈ watched.exchanges request first →
      ∃ answer, ⟨.check, t, answer⟩ ∈ (watched.serve request first).state.1.1.agent.2 ∧
        ending = .ok answer.isOk := by
  intro watched h
  -- what was recorded before the calls is a beginning of what is recorded behind them
  refine (AccountService.exchanges_induction (motive := fun s calls s' =>
    s.1.1.agent.2 <+: s'.1.1.agent.2 ∧ ∀ ending, ⟨.authorize t, ending⟩ ∈ calls →
      ∃ answer, ⟨.check, t, answer⟩ ∈ s'.1.1.agent.2 ∧ ending = .ok answer.isOk)
    ?_ ?_ request first).2 ending h
  · intro s
    exact ⟨List.prefix_rfl, fun _ h => absurd h List.not_mem_nil⟩
  · rintro s call calls s' ⟨hgrows, ih⟩
    have hlog := (service.log_grows others call (showing s.1 (clock s.2))).trans hgrows
    refine ⟨hlog, fun ending h => ?_⟩
    rcases List.mem_cons.mp h with h | h
    · cases h
      have hasked : watched.backing (.authorize t) s = _ := congrArg
        (fun o => (⟨o.result, o.events, (o.state, s.2 + 1)⟩ : Outcome _ IdentityError Bool))
        (service.recording.inFrontOf_authorize others t (s.1.1.at (clock s.2)) s.1.2)
      rw [hasked] at hgrows ⊢
      exact ⟨_, hgrows.subset (List.mem_append_right _ List.mem_cons_self), rfl⟩
    · exact ih ending h

/-- A question of a request was put to the agent, and answered with yes exactly if the agent did
so. -/
theorem mem_agentLog_of_authorize {s : IdentityState α} {o : ω} {request : ServiceCall}
    {t : RelationTuple} {ending : Except IdentityError Bool}
    (h : ⟨.authorize t, ending⟩ ∈
      (service.guarding others accepts (.timed clock)).exchanges request ((s, o), 0)) :
    ∃ answer, ⟨.check, t, answer⟩ ∈
        service.agentLog others accepts (.timed clock) s o [request] ∧
      ending = .ok answer.isOk := by
  have hview := AccountService.exchanges_view
    (service.guarding_projects others accepts (.timed clock)) accepts request
    ((s.withAgent (s.agent, []), o), 0)
  exact recording_authorizes request ((s.withAgent (s.agent, []), o), 0) (hview ▸ h)

end LocalIdentity

/-! ## Failed questions open nothing -/

/-- Whatever is called in both runs, questions to the agent apart, ends alike. -/
def AlikeButQuestions (calls calls' : List Exchange) : Prop :=
  ∀ e ∈ calls, ∀ e' ∈ calls', e.call = e'.call → (∀ t, e.call ≠ .authorize t) → e = e'

/-- No question of the first run is answered with yes in the second run only. -/
def FewerYes (calls calls' : List Exchange) : Prop :=
  ∀ t, ⟨.authorize t, .ok true⟩ ∈ calls' → ∀ ending, ⟨.authorize t, ending⟩ ∈ calls →
    ending = .ok true

/-- Where calls differ in their questions only, so do the calls among them. -/
theorem AlikeButQuestions.of_subset {first first' calls calls' : List Exchange}
    (apart : AlikeButQuestions calls calls') (h : first ⊆ calls) (h' : first' ⊆ calls') :
    AlikeButQuestions first first' :=
  fun e he e' he' => apart e (h he) e' (h' he')

section Calls

variable {token : String} {user : User} {accepts : String → Bool} {calls calls' : List Exchange}
  {result result' : Except AccountError String}

/-- Whoever passes a gate also passes it with more questions answered with yes. -/
theorem Gate.passes_of_fewer {gate gate' : List Exchange} {passes : Bool}
    (gated : Gate token gate passes) (gated' : Gate token gate' true)
    (apart : AlikeButQuestions gate gate') (fewer : FewerYes gate gate') : passes = true := by
  rcases gated'.passes_iff.mp rfl with hopen | ⟨named, caller, hcaller, hadmin⟩
  · have hasks : ∃ answer, ⟨.authorize .bootstrap, answer⟩ ∈ gate := by
      cases gated <;> exact ⟨_, List.mem_cons_self⟩
    obtain ⟨answer, hasks⟩ := hasks
    rw [fewer _ hopen _ hasks] at hasks
    exact gated.passes_iff.mpr (Or.inl hasks)
  · cases gated with
    | opened => rfl
    | anonymous closed unnamed => exact absurd unnamed named
    | unresolved error closed named =>
      cases apart ⟨.identify token, .error error⟩ (by simp) _ hcaller rfl (by simp)
    | resolved caller' closed named judged =>
      cases apart ⟨.identify token, .ok caller'⟩ (by simp) _ hcaller rfl (by simp)
      exact judged.mpr (fewer _ hadmin _ (by simp))

/-- An enrolment that ends with an id also does so if everything is answered as before. -/
theorem Enrolment.ok_of_alike {id : String} (enrolment : Enrolment user calls result)
    (enrolment' : Enrolment user calls' (.ok id)) (apart : AlikeButQuestions calls calls') :
    result = .ok id := by
  obtain ⟨saved, hsaves⟩ := enrolment'.saves_of_ok
  obtain ⟨id', hash', rfl, -, rfl⟩ := enrolment'.eq_of_saves hsaves
  cases enrolment with
  | undrawn failure =>
    cases apart ⟨.freshId, .error failure⟩ (by simp) ⟨.freshId, .ok id'⟩ (by simp) rfl (by simp)
  | ungranted drawn refused =>
    cases apart ⟨.freshId, .ok drawn⟩ (by simp) ⟨.freshId, .ok id'⟩ (by simp) rfl (by simp)
    cases apart _ (List.mem_cons_of_mem _ List.mem_cons_self)
      ⟨.addPolicy (.ownership id'), .ok true⟩ (by simp) rfl (by simp)
    exact absurd rfl refused
  | unhashed drawn failure =>
    cases apart ⟨.hash user.password, .error failure⟩ (by simp)
      ⟨.hash user.password, .ok hash'⟩ (by simp) rfl (by simp)
  | saved drawn hash =>
    cases apart ⟨.freshId, .ok drawn⟩ (by simp) ⟨.freshId, .ok id'⟩ (by simp) rfl (by simp)
    cases apart ⟨.hash user.password, .ok hash⟩ (by simp)
      ⟨.hash user.password, .ok hash'⟩ (by simp) rfl (by simp)
    cases apart ⟨.save { user with id := id', password := hash' }, result⟩ (by simp)
      ⟨.save { user with id := id', password := hash' }, .ok id⟩ (by simp) rfl (by simp)
    rfl

/-- A registration that fails also does so if fewer questions are answered with yes. -/
theorem Registration.fails_of_fewer (registration : Registration accepts token user calls result)
    (registration' : Registration accepts token user calls' result')
    (apart : AlikeButQuestions calls calls') (fewer : FewerYes calls calls')
    (failed : ∃ error, result = .error error) : ∃ error, result' = .error error := by
  obtain ⟨error, rfl⟩ := failed
  cases result' with
  | error error' => exact ⟨error', rfl⟩
  | ok id =>
    exfalso
    cases registration' with
    | @enrolled gate' later' _ passed' acceptable enrolment' =>
      cases registration with
      | stopped refused =>
        have hpasses := refused.passes_of_fewer passed'
          (apart.of_subset (List.Subset.refl _) (List.subset_append_left _ _))
          fun t h => fewer t (List.mem_append_left _ h)
        cases hpasses
      | malformed passed unacceptable => exact unacceptable acceptable
      | enrolled passed _ enrolment =>
        have hok := enrolment.ok_of_alike enrolment'
          (apart.of_subset (List.subset_append_right _ _) (List.subset_append_right _ _))
        cases hok

end Calls

/-! ## Agents that are replaced -/

section Replaced

variable (service : LocalIdentity α) (agent' : PolicyAgent β) (others : Backing ω)
  (accepts : String → Bool) (clock : Nat → Timestamp) (s : IdentityState α) (a' : β) (o : ω)

/-- Requests over two agents that concur are seen alike, and leave the same behind. -/
theorem LocalIdentity.serveAll_of_concur {tuples : α → τ} {tuples' : β → τ}
    (alike : service.agent.KeepAlike agent' tuples tuples')
    (speaks : service.agent.SpeaksAsAgent) (speaks' : agent'.SpeaksAsAgent)
    (same : tuples s.agent = tuples' a') (requests : List ServiceCall)
    (concur : AgentsConcur (service.agentLog others accepts (.timed clock) s o requests)
      ((service.withAgent agent').agentLog others accepts (.timed clock) (s.withAgent a') o
        requests)) :
    let accounts := service.guarding others accepts (.timed clock)
    let accounts' := (service.withAgent agent').guarding others accepts (.timed clock)
    let last := accounts.serveAll ((s, o), 0) requests
    let last' := accounts'.serveAll ((s.withAgent a', o), 0) requests
    accounts.seen requests ((s, o), 0) = accounts'.seen requests ((s.withAgent a', o), 0) ∧
      last.1.1.withAgent () = last'.1.1.withAgent () ∧
      tuples last.1.1.agent = tuples' last'.1.1.agent ∧ last.1.2 = last'.1.2 := by
  intro accounts accounts' last last'
  -- with both agents on record the runs are in step, and the record changes nothing
  let start : (IdentityState (α × List AgentExchange) × ω) × Nat :=
    ((s.withAgent (s.agent, []), o), 0)
  let start' : (IdentityState (β × List AgentExchange) × ω) × Nat :=
    ((s.withAgent (a', []), o), 0)
  have projects := service.guarding_projects others accepts (.timed clock)
  have projects' := (service.withAgent agent').guarding_projects others accepts (.timed clock)
  have hstart : start.1.1.Parallel tuples tuples' start'.1.1 := ⟨rfl, same, rfl⟩
  obtain ⟨hseen, ⟨parallel, hothers⟩, _⟩ := AccountService.serveAll_inStep
    (guarding_inStep alike speaks speaks' others accepts clock) accepts requests
    ⟨⟨hstart, rfl⟩, rfl⟩ concur
  have hlast : last = _ := AccountService.serveAll_view projects accepts requests start
  have hlast' : last' = _ := AccountService.serveAll_view projects' accepts requests start'
  refine ⟨?_, ?_, ?_, ?_⟩
  · calc accounts.seen requests ((s, o), 0) = _ :=
          AccountService.seen_view projects accepts requests start
      _ = _ := hseen
      _ = accounts'.seen requests ((s.withAgent a', o), 0) :=
          (AccountService.seen_view projects' accepts requests start').symm
  · rw [hlast, hlast']
    exact parallel.apart
  · rw [hlast, hlast']
    exact parallel.granted
  · rw [hlast, hlast']
    exact hothers

/-- A registration that fails also does so over an agent that says no more often. -/
theorem LocalIdentity.register_fails_of_noNewYes (token : String) (user : User)
    (apart : AlikeButQuestions
      ((service.guarding others accepts (.timed clock)).exchanges (.register token user)
        ((s, o), 0))
      (((service.withAgent agent').guarding others accepts (.timed clock)).exchanges
        (.register token user) ((s.withAgent a', o), 0)))
    (fewer : NoNewYes
      (service.agentLog others accepts (.timed clock) s o [.register token user])
      ((service.withAgent agent').agentLog others accepts (.timed clock) (s.withAgent a') o
        [.register token user]))
    (failed : ∃ error, ((service.guarding others accepts (.timed clock)).serve
      (.register token user) ((s, o), 0)).result = .error error) :
    ∃ error, (((service.withAgent agent').guarding others accepts (.timed clock)).serve
      (.register token user) ((s.withAgent a', o), 0)).result = .error error := by
  have registration := AccountService.register_exchanges
    (service.guarding others accepts (.timed clock)) token user ((s, o), 0)
  have registration' := AccountService.register_exchanges
    ((service.withAgent agent').guarding others accepts (.timed clock)) token user
    ((s.withAgent a', o), 0)
  refine registration.fails_of_fewer registration' apart ?_ failed
  -- what the account service is told is what the agents answered
  intro t hyes ending hasked
  obtain ⟨answer', hlog', hyes'⟩ := mem_agentLog_of_authorize hyes
  obtain ⟨answer, hlog, hending⟩ := mem_agentLog_of_authorize hasked
  have hok : answer' = .ok () := by
    cases answer' with
    | ok _ => rfl
    | error error => cases hyes'
  subst hok
  rw [hending, fewer t hlog' answer hlog]
  rfl

/-- Another agent with the same tuples, in front of the same others, is put in the place of the
agent.
* If the two concur, no run of requests tells them apart. All results are the same, with all that
  stands behind an error, and so are all events but those of the agents, and the state of the
  identity service, the tuples and the others' state at the end.
* If the other one only says no more often, and everything else answers as before, no registration
  that failed before succeeds. -/
theorem LocalIdentity.outage_is_denial (tuples : α → τ) (tuples' : β → τ) :
    let accounts := service.guarding others accepts (.timed clock)
    let accounts' := (service.withAgent agent').guarding others accepts (.timed clock)
    let first := ((s, o), 0)
    let first' := ((s.withAgent a', o), 0)
    let log := service.agentLog others accepts (.timed clock) s o
    let log' := (service.withAgent agent').agentLog others accepts (.timed clock) (s.withAgent a') o
    (service.agent.KeepAlike agent' tuples tuples' → service.agent.SpeaksAsAgent →
      agent'.SpeaksAsAgent → tuples s.agent = tuples' a' →
      ∀ requests, AgentsConcur (log requests) (log' requests) →
        let last := accounts.serveAll first requests
        let last' := accounts'.serveAll first' requests
        accounts.seen requests first = accounts'.seen requests first' ∧
          last.1.1.withAgent () = last'.1.1.withAgent () ∧
          tuples last.1.1.agent = tuples' last'.1.1.agent ∧ last.1.2 = last'.1.2) ∧
    (∀ token user, let request := ServiceCall.register token user
      AlikeButQuestions (accounts.exchanges request first) (accounts'.exchanges request first') →
      NoNewYes (log [request]) (log' [request]) →
      (∃ error, (accounts.serve request first).result = .error error) →
        ∃ error, (accounts'.serve request first').result = .error error) :=
  ⟨fun alike speaks speaks' same requests concur =>
      service.serveAll_of_concur agent' others accepts clock s a' o alike speaks speaks' same
        requests concur,
    fun token user apart fewer failed =>
      service.register_fails_of_noNewYes agent' others accepts clock s a' o token user apart fewer
        failed⟩

end Replaced

/-- The first question cannot be answered. An administrator does not notice while registration is
closed. While it is open, it is closed instead, and a bad password is not accepted either. -/
theorem LocalIdentity.outage_of_first_question :
    let service := Deployment.miniature.identity
    let others := Deployment.miniature.backing
    let agent' := TupleSet.agent.failing fun n =>
      if n = 0 then some (.backend (.note "agent offline")) else none
    let clock : Nat → Timestamp := fun _ => ⟨0, 0, by decide⟩
    let state (tuples : List RelationTuple) : IdentityState TupleSet :=
      { now := clock 0
        keys := KeyTable.empty.enroll "session"
          ⟨"admin", "a@x.com", .user, clock 0, ⟨9, 0, by decide⟩⟩
        agent := TupleSet.ofList tuples }
    let o : World TupleSet Unit := { identity := state [], outside := () }
    let accounts := service.guarding others Deployment.miniature.accepts (.timed clock)
    let accounts' :=
      (service.withAgent agent').guarding others Deployment.miniature.accepts (.timed clock)
    let start (tuples : List RelationTuple) := ((state tuples, o), 0)
    let start' (tuples : List RelationTuple) :=
      (((state tuples).withAgent (TupleSet.ofList tuples, 0), o), 0)
    let register (password : String) : ServiceCall :=
      .register "session" { email := "b@x.com", password := password }
    accounts.seen [register "password"] (start [.authority "admin"]) =
        accounts'.seen [register "password"] (start' [.authority "admin"]) ∧
      ∃ error, (accounts'.serve (register "short")
        (start' [.bootstrap, .authority "admin"])).result = .error error := by
  intro service others agent' clock state o accounts accounts' start start' register
  have hdenial (tuples : List RelationTuple) := outage_is_denial service agent' others
    Deployment.miniature.accepts clock (state tuples) (TupleSet.ofList tuples, 0) o
    TupleSet.toSet fun a' => a'.1.toSet
  constructor
  · exact ((hdenial [.authority "admin"]).1
      (TupleSet.keeps.keepAlike (TupleSet.keeps.failing _)) TupleSet.speaksAsAgent
      (TupleSet.speaksAsAgent.failing _) rfl [register "password"] (by decide +kernel)).1
  · refine (hdenial [.bootstrap, .authority "admin"]).2 "session" _ ?_ ?_ ⟨_, rfl⟩
    · have hcalls : accounts.exchanges (register "short") (start [.bootstrap, .authority "admin"]) =
          [⟨.authorize .bootstrap, .ok true⟩] := by rfl
      intro e he e' _ _ hquestion
      rw [hcalls, List.mem_singleton] at he
      exact absurd (congrArg Exchange.call he) (hquestion .bootstrap)
    · have hlog : service.agentLog others Deployment.miniature.accepts (.timed clock)
          (state [.bootstrap, .authority "admin"]) o [register "short"] =
          [⟨.check, .bootstrap, .ok ()⟩] := by rfl
      intro t _ ending hasked
      rw [hlog, List.mem_singleton] at hasked
      cases hasked
      rfl

end AccessControl
