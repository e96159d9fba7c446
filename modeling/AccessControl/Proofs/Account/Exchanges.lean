import AccessControl.Account.Service
import AccessControl.Proofs.Script

/-!
# The calls of a request

A backing can be made to record its calls and how they ended. Recording changes nothing else
(`Script.run_recorded`), so `AccountService.exchanges` are the calls that serving a request makes,
in their order.

`AccountService.exchanges_induction` follows a request call by call: what it says of the first
state, the calls and the last state is built up from the last call to the first.
-/

namespace AccessControl

variable {σ σ' α : Type}

/-- A call, and how it ended. -/
structure Exchange where
  call : BackingCall
  ending : Except call.Failure call.Answer

/-- The backing that records every call behind those recorded before. -/
def Backing.recorded (backing : Backing σ) : Backing (σ × List Exchange) := fun call s =>
  let o := backing call s.1
  ⟨o.result, o.events, o.state, s.2 ++ [⟨call, o.result⟩]⟩

/-- A call that is recorded adds its exchange to the log. -/
theorem Backing.recorded_log {backing : Backing σ} {call : BackingCall}
    {ending : Except call.Failure call.Answer} {s : σ × List Exchange}
    (h : (backing.recorded call s).result = ending) :
    (backing.recorded call s).state.2 = s.2 ++ [⟨call, ending⟩] := by
  rw [← h]
  rfl

/-- A call that is recorded adds its exchange behind the calls so far. -/
theorem Backing.recorded_snoc {backing : Backing σ} {call : BackingCall}
    {ending : Except call.Failure call.Answer} {s : σ × List Exchange}
    {earlier calls : List Exchange} (hs : s.2 = earlier ++ calls)
    (h : (backing.recorded call s).result = ending) :
    (backing.recorded call s).state.2 = earlier ++ (calls ++ [⟨call, ending⟩]) := by
  rw [recorded_log h, hs, List.append_assoc]

/-- The calls that serving a request makes. -/
def AccountService.exchanges (service : AccountService σ) (request : ServiceCall) (s : σ) :
    List Exchange :=
  ((request.script service.accepts).run service.backing.recorded (s, [])).state.2

theorem Backing.recorded_projects (backing : Backing σ) :
    backing.recorded.Projects backing Prod.fst := fun _ _ => rfl

/-- A script that is played over a recording backing ends as it does without the recording. -/
theorem Script.run_recorded (backing : Backing σ) (script : Script α) (s : σ)
    (log : List Exchange) :
    (script.run backing.recorded (s, log)).result = (script.run backing s).result ∧
      (script.run backing.recorded (s, log)).events = (script.run backing s).events ∧
      (script.run backing.recorded (s, log)).state.1 = (script.run backing s).state := by
  have hview := Script.run_view backing.recorded_projects script (s, log)
  rw [hview]
  exact ⟨rfl, rfl, rfl⟩

/-- The calls of a request are the same over a backing in view of another one. -/
theorem AccountService.exchanges_view {backing : Backing σ} {backing' : Backing σ'} {view : σ → σ'}
    (projects : backing.Projects backing' view) (accepts : String → Bool) (request : ServiceCall)
    (s : σ) : exchanges ⟨backing', accepts⟩ request (view s) =
      exchanges ⟨backing, accepts⟩ request s := by
  have hrecorded : backing.recorded.Projects backing'.recorded fun s => (view s.1, s.2) := by
    intro call s
    simp only [Backing.recorded, projects call s.1]
  exact congrArg (·.state.2) (Script.run_view hrecorded (request.script accepts) (s, []))

/-- What a request ensures over a recording backing holds of its calls and of how it ends. -/
theorem AccountService.exchanges_of_ensures {service : AccountService σ} {request : ServiceCall}
    {s : σ} (post : Except AccountError request.Answer → List Exchange → Prop)
    (h : (request.script service.accepts).Ensures service.backing.recorded (s, [])
      fun result s' => post result s'.2) :
    post (service.serve request s).result (service.exchanges request s) := by
  rw [Script.Ensures, (Script.run_recorded service.backing _ s []).1] at h
  exact h

/-- What a request ensures over a recording backing holds of its calls and of where it leads. -/
theorem AccountService.serve_of_ensures {service : AccountService σ}
    {request : ServiceCall} {s : σ} (post : List Exchange → σ → Prop)
    (h : (request.script service.accepts).Ensures service.backing.recorded (s, [])
      fun _ s' => post s'.2 s'.1) :
    post (service.exchanges request s) (service.serve request s).state := by
  rw [Script.Ensures, (Script.run_recorded service.backing _ s []).2.2] at h
  exact h

/-- A call whose outcome is known is the step to its state and to one more recorded call. -/
theorem Script.ensures_ask_recorded {backing : Backing σ} {request : BackingCall}
    {report : request.Failure → AccountError} {s s' : σ} {log : List Exchange}
    {result : Except request.Failure request.Answer} {events : List Event}
    {post : Except AccountError request.Answer → σ × List Exchange → Prop}
    (h : backing request s = ⟨result, events, s'⟩)
    (hpost : post (result.mapError report) (s', log ++ [⟨request, result⟩])) :
    (ask request report).Ensures backing.recorded (s, log) post := by
  rw [Ensures, run_ask, Action.mapError_run]
  simpa only [Backing.recorded, h] using hpost

/-! ## Following the calls -/

/-- The calls of a script are recorded behind what was recorded before, whatever that is. -/
theorem Script.recorded_induction {backing : Backing σ} {motive : σ → List Exchange → σ → Prop}
    (nil : ∀ s, motive s [] s)
    (cons : ∀ s call calls s', motive (backing call s).state calls s' →
      motive s (⟨call, (backing call s).result⟩ :: calls) s') (script : Script α) (s : σ) :
    ∃ calls, (∀ log, (script.run backing.recorded (s, log)).state.2 = log ++ calls) ∧
      motive s calls (script.run backing s).state := by
  induction script generalizing s with
  | answer x => exact ⟨[], fun log => (List.append_nil log).symm, nil s⟩
  | fail error => exact ⟨[], fun log => (List.append_nil log).symm, nil s⟩
  | emit event next ih => exact ih s
  | call request next ih =>
    obtain ⟨calls, hcalls, hmotive⟩ := ih (backing request s).result (backing request s).state
    refine ⟨⟨request, (backing request s).result⟩ :: calls, fun log => ?_, cons _ _ _ _ hmotive⟩
    exact (hcalls _).trans (List.append_assoc log [_] calls)

/-- A statement about a state, the calls of a request and the state they lead to is shown call by
call. -/
theorem AccountService.exchanges_induction {service : AccountService σ}
    {motive : σ → List Exchange → σ → Prop} (nil : ∀ s, motive s [] s)
    (cons : ∀ s call calls s', motive (service.backing call s).state calls s' →
      motive s (⟨call, (service.backing call s).result⟩ :: calls) s')
    (request : ServiceCall) (s : σ) :
    motive s (service.exchanges request s) (service.serve request s).state := by
  obtain ⟨calls, hcalls, hmotive⟩ :=
    Script.recorded_induction nil cons (request.script service.accepts) s
  rw [exchanges, hcalls]
  exact hmotive

/-- A request makes only calls that its script can make. -/
theorem AccountService.exchanges_only {service : AccountService σ} {request : ServiceCall} {s : σ}
    {p : BackingCall → Prop} (only : (request.script service.accepts).Only p) :
    ∀ e ∈ service.exchanges request s, p e.call := by
  refine Script.run_keeps (fun s' : σ × List Exchange => ∀ e ∈ s'.2, p e.call) ?_ only
    (s := (s, [])) (by simp)
  intro call hcall s' hs' e he
  rw [Backing.recorded_log rfl] at he
  rcases List.mem_append.mp he with he | he
  · exact hs' e he
  · rw [List.mem_singleton.mp he]
    exact hcall

end AccessControl
