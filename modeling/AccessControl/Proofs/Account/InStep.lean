import AccessControl.Proofs.Account.Secrecy
import AccessControl.Proofs.Policy.AgentLog

/-!
# Runs in step

Two runs are in step if they end alike, with the same events but for those of agents, and in states
that are related (`InStep`). Whether the same call is in step over two backings may depend on the
agents behind them, which keep logs: `Backing.InStep` asks for it as long as these concur. Then a
script is in step (`Script.run_inStep`), and so are many requests
(`AccountService.serveAll_inStep`).
-/

namespace AccessControl

open AccessControl.Calendar

variable {γ ε σ σ' : Type}

/-! ## Runs in step -/

/-- The events that no agent emitted. -/
def withoutAgents (events : List Event) : List Event :=
  events.filter fun e => !e.isAgent

theorem withoutAgents_append (events later : List Event) :
    withoutAgents (events ++ later) = withoutAgents events ++ withoutAgents later :=
  List.filter_append ..

theorem withoutAgents_of_agents {events : List Event} (h : ∀ e ∈ events, e.isAgent = true) :
    withoutAgents events = [] := by
  rw [withoutAgents, List.filter_eq_nil_iff]
  intro e he
  simp [h e he]

/-- Two outcomes with the same result, the same events but for those of agents, and related
states. -/
structure InStep (S : σ → σ' → Prop) (o : Outcome σ ε γ) (o' : Outcome σ' ε γ) : Prop where
  result : o.result = o'.result
  events : withoutAgents o.events = withoutAgents o'.events
  state : S o.state o'.state

/-- Behind two backings stand agents with logs. As long as the agents concur, the same call is in
step from related states. -/
structure Backing.InStep (backing : Backing σ) (backing' : Backing σ')
    (log : σ → List AgentExchange) (log' : σ' → List AgentExchange) (S : σ → σ' → Prop) :
    Prop where
  step : ∀ call s s', S s s' →
    AgentsConcur (log (backing call s).state) (log' (backing' call s').state) →
      AccessControl.InStep S (backing call s) (backing' call s')
  grows : ∀ call s, log s <+: log (backing call s).state
  grows' : ∀ call s', log' s' <+: log' (backing' call s').state

section Runs

variable {backing : Backing σ} {backing' : Backing σ'} {log : σ → List AgentExchange}
  {log' : σ' → List AgentExchange} {S : σ → σ' → Prop}

/-- A log that every call extends is extended by every script. -/
theorem Script.log_extends (grows : ∀ call s, log s <+: log (backing call s).state)
    (script : Script γ) (s : σ) : log s <+: log (script.run backing s).state :=
  Script.run_keeps (fun s' => log s <+: log s') (fun call _ s' h => h.trans (grows call s'))
    (Script.only_true _) List.prefix_rfl

/-- A script is in step if its calls are. -/
theorem Script.run_inStep (inStep : backing.InStep backing' log log' S) (script : Script γ) {s : σ}
    {s' : σ'} (related : S s s')
    (concur : AgentsConcur (log (script.run backing s).state)
      (log' (script.run backing' s').state)) :
    AccessControl.InStep S (script.run backing s) (script.run backing' s') := by
  induction script generalizing s s' with
  | answer x => exact ⟨rfl, rfl, related⟩
  | fail error => exact ⟨rfl, rfl, related⟩
  | emit event next ih =>
    obtain ⟨hresult, hevents, hstate⟩ := ih related concur
    refine ⟨hresult, ?_, hstate⟩
    simp only [run, Action.bind_run, Action.emit_run, withoutAgents_append, hevents]
  | call request next ih =>
    -- the logs only grow, so the agents concur as far as the first call
    have hbefore := inStep.step request s s' related
      (concur.of_prefix (log_extends inStep.grows (next _) _)
        (log_extends inStep.grows' (next _) _))
    simp only [run, Action.bind_run, Action.attempt_run] at concur ⊢
    rw [← hbefore.result] at concur ⊢
    obtain ⟨hresult, hevents, hstate⟩ := ih _ hbefore.state concur
    refine ⟨hresult, ?_, hstate⟩
    simp only [withoutAgents_append, hbefore.events, hevents]

/-- What is seen of a request: how it ended, and the events that no agent emitted. -/
structure Seen where
  request : ServiceCall
  result : Except AccountError request.Answer
  events : List Event

/-- What is seen of requests that are served one after the other. -/
def AccountService.seen (service : AccountService σ) : List ServiceCall → σ → List Seen
  | [], _ => []
  | request :: requests, s =>
    let o := service.serve request s
    ⟨request, o.result, withoutAgents o.events⟩ :: service.seen requests o.state

/-- What is seen of requests is the same over a backing in view of another one. -/
theorem AccountService.seen_view {view : σ → σ'} (projects : backing.Projects backing' view)
    (accepts : String → Bool) (requests : List ServiceCall) (s : σ) :
    seen ⟨backing', accepts⟩ requests (view s) = seen ⟨backing, accepts⟩ requests s := by
  induction requests generalizing s with
  | nil => rfl
  | cons request requests ih =>
    have hserve : serve ⟨backing', accepts⟩ request (view s) = _ :=
      Script.run_view projects (request.script accepts) s
    rw [seen, seen, hserve]
    exact congrArg _ (ih _)

/-- Requests are in step if calls are. -/
theorem AccountService.serveAll_inStep (inStep : backing.InStep backing' log log' S)
    (accepts : String → Bool) (requests : List ServiceCall) {s : σ} {s' : σ'} (related : S s s')
    (concur : AgentsConcur (log (serveAll ⟨backing, accepts⟩ s requests))
      (log' (serveAll ⟨backing', accepts⟩ s' requests))) :
    seen ⟨backing, accepts⟩ requests s = seen ⟨backing', accepts⟩ requests s' ∧
      S (serveAll ⟨backing, accepts⟩ s requests) (serveAll ⟨backing', accepts⟩ s' requests) := by
  induction requests generalizing s s' with
  | nil => exact ⟨rfl, related⟩
  | cons request requests ih =>
    have hlog (s : σ) : log s <+: log (serveAll ⟨backing, accepts⟩ s requests) :=
      serveAll_keeps (fun s₁ => log s <+: log s₁)
        (fun _ _ h => h.trans (Script.log_extends inStep.grows _ _)) List.prefix_rfl requests
    have hlog' (s' : σ') : log' s' <+: log' (serveAll ⟨backing', accepts⟩ s' requests) :=
      serveAll_keeps (fun s₁ => log' s' <+: log' s₁)
        (fun _ _ h => h.trans (Script.log_extends inStep.grows' _ _)) List.prefix_rfl requests
    obtain ⟨hresult, hevents, hstate⟩ := Script.run_inStep inStep (request.script accepts) related
      (concur.of_prefix (hlog _) (hlog' _))
    obtain ⟨hseen, hlast⟩ := ih hstate concur
    refine ⟨?_, hlast⟩
    rw [seen, seen]
    simp only [serve, hresult, hevents]
    exact congrArg _ hseen

end Runs

/-- Backings that are in step also are under the same clock. -/
theorem Backing.InStep.timed {backing : Backing σ} {backing' : Backing σ'}
    {log : σ → List AgentExchange} {log' : σ' → List AgentExchange} {S : σ → σ' → Prop}
    (inStep : backing.InStep backing' log log' S) {set : σ → Timestamp → σ}
    {set' : σ' → Timestamp → σ'} (hset : ∀ s s' now, S s s' → S (set s now) (set' s' now))
    (hlog : ∀ s now, log (set s now) = log s) (hlog' : ∀ s' now, log' (set' s' now) = log' s')
    (clock : Nat → Timestamp) :
    (backing.under set (.timed clock)).InStep (backing'.under set' (.timed clock))
      (fun s => log s.1) (fun s' => log' s'.1) fun s s' => S s.1 s'.1 ∧ s.2 = s'.2 where
  step := by
    rintro call ⟨s, n⟩ ⟨s', _⟩ ⟨related, rfl⟩ concur
    obtain ⟨hresult, hevents, hstate⟩ :=
      inStep.step call _ _ (hset s s' (clock n) related) concur
    exact ⟨hresult, hevents, hstate, rfl⟩
  grows call s := by
    have hgrows := inStep.grows call (set s.1 (clock s.2))
    rwa [hlog] at hgrows
  grows' call s' := by
    have hgrows := inStep.grows' call (set' s'.1 (clock s'.2))
    rwa [hlog'] at hgrows

end AccessControl
