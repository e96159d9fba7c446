import AccessControl.Proofs.Account.Exchanges

/-!
# Transcripts of scripts

A transcript of a script is a list of calls with their endings, and a result: the calls are those
that the script makes if each of them ends so, and the result is the one that it comes to then.
Nothing is said about what stands behind the calls.

The calls of a request and how it ends are a transcript of its script, whatever stands behind the
service (`AccountService.transcript_exchanges`). No transcript of a script goes on where another one
is over (`Script.Transcript.eq_of_append`), so calls that are a transcript decide how a request that
begins with them ends.
-/

namespace AccessControl

variable {σ α β : Type}

namespace Script

/-- The script makes these calls if they end so, and comes to this result. -/
inductive Transcript : Script α → List Exchange → Except AccountError α → Prop
  | answer (x : α) : Transcript (answer x) [] (.ok x)
  | fail (error : AccountError) : Transcript (fail error) [] (.error error)
  | emit {event : Event} {next : Script α} {calls : List Exchange} {result : Except AccountError α}
      (rest : Transcript next calls result) : Transcript (emit event next) calls result
  | call {request : BackingCall} {next : Except request.Failure request.Answer → Script α}
      {calls : List Exchange} {result : Except AccountError α}
      (ending : Except request.Failure request.Answer)
      (rest : Transcript (next ending) calls result) :
      Transcript (call request next) (⟨request, ending⟩ :: calls) result

/-- Calls that are a transcript are all that is done, and decide the result. -/
theorem Transcript.eq_of_append {script : Script α} {calls later : List Exchange}
    {result result' : Except AccountError α} (h : script.Transcript calls result)
    (h' : script.Transcript (calls ++ later) result') : later = [] ∧ result' = result := by
  -- the calls that both have ended the same way, so that both take the same branch behind them
  induction h with
  | answer x =>
    cases h' with
    | answer => exact ⟨rfl, rfl⟩
  | fail error =>
    cases h' with
    | fail => exact ⟨rfl, rfl⟩
  | emit rest ih =>
    cases h' with
    | emit rest' => exact ih rest'
  | call ending rest ih =>
    cases h' with
    | call _ rest' => exact ih rest'

/-! ## Transcripts of composed scripts -/

section Composed

variable {calls : List Exchange} {result : Except AccountError β}

theorem transcript_pure {x : β} :
    (pure x : Script β).Transcript calls result ↔ calls = [] ∧ result = .ok x := by
  constructor
  · rintro ⟨⟩
    exact ⟨rfl, rfl⟩
  · rintro ⟨rfl, rfl⟩
    exact .answer x

theorem transcript_fail {error : AccountError} :
    (fail error : Script β).Transcript calls result ↔ calls = [] ∧ result = .error error := by
  constructor
  · rintro ⟨⟩
    exact ⟨rfl, rfl⟩
  · rintro ⟨rfl, rfl⟩
    exact .fail error

theorem transcript_log {event : Event} {result : Except AccountError Unit} :
    (log event).Transcript calls result ↔ calls = [] ∧ result = .ok () := by
  constructor
  · rintro (_ | _ | ⟨⟨⟩⟩)
    exact ⟨rfl, rfl⟩
  · rintro ⟨rfl, rfl⟩
    exact .emit (.answer ())

/-- A call that is asked for is all that is done. -/
theorem transcript_ask {request : BackingCall} {report : request.Failure → AccountError}
    {result : Except AccountError request.Answer} :
    (ask request report).Transcript calls result ↔
      ∃ ending, calls = [⟨request, ending⟩] ∧ result = ending.mapError report := by
  constructor
  · rintro (_ | _ | _ | ⟨_ | _, ⟨⟩⟩)
    · exact ⟨_, rfl, rfl⟩
    · exact ⟨_, rfl, rfl⟩
  · rintro ⟨failure | x, rfl, rfl⟩
    · exact .call (.error failure) (.fail (report failure))
    · exact .call (.ok x) (.answer x)

/-- A sequence stops with an error of its first part, or goes on with its second behind the calls of
the first. -/
theorem transcript_bind {first : Script α} {next : α → Script β} :
    (first >>= next).Transcript calls result ↔
      (∃ error, first.Transcript calls (.error error) ∧ result = .error error) ∨
        ∃ x earlier later, first.Transcript earlier (.ok x) ∧ (next x).Transcript later result ∧
          calls = earlier ++ later := by
  show (first.bind next).Transcript calls result ↔ _
  constructor
  · intro h
    induction first generalizing calls with
    | answer x => exact Or.inr ⟨x, [], calls, .answer x, h, rfl⟩
    | fail error =>
      obtain ⟨rfl, rfl⟩ := transcript_fail.mp h
      exact Or.inl ⟨error, .fail error, rfl⟩
    | emit event rest ih =>
      obtain _ | _ | ⟨h⟩ := h
      obtain ⟨error, hfirst, hresult⟩ | ⟨x, earlier, later, hfirst, hnext, hcalls⟩ := ih h
      · exact Or.inl ⟨error, .emit hfirst, hresult⟩
      · exact Or.inr ⟨x, earlier, later, .emit hfirst, hnext, hcalls⟩
    | call request rest ih =>
      obtain _ | _ | _ | ⟨ending, h⟩ := h
      obtain ⟨error, hfirst, hresult⟩ | ⟨x, earlier, later, hfirst, hnext, rfl⟩ := ih ending h
      · exact Or.inl ⟨error, .call ending hfirst, hresult⟩
      · exact Or.inr ⟨x, _, later, .call ending hfirst, hnext, rfl⟩
  · rintro (⟨error, hfirst, rfl⟩ | ⟨x, earlier, later, hfirst, hnext, rfl⟩)
    · generalize hending : Except.error error = ending at hfirst
      induction hfirst with
      | answer x => cases hending
      | fail error =>
        cases hending
        exact .fail error
      | emit _ ih => exact .emit (ih hending)
      | call ending _ ih => exact .call ending (ih hending)
    · generalize hending : Except.ok x = ending at hfirst
      induction hfirst with
      | answer x =>
        cases hending
        exact hnext
      | fail error => cases hending
      | emit _ ih => exact .emit (ih hending)
      | call ending _ ih => exact .call ending (ih hending)

/-- A script that begins with a call stops there, or goes on from the answer. -/
theorem transcript_ask_bind {request : BackingCall} {report : request.Failure → AccountError}
    {next : request.Answer → Script β} :
    (ask request report >>= next).Transcript calls result ↔
      (∃ failure, calls = [⟨request, .error failure⟩] ∧ result = .error (report failure)) ∨
        ∃ x later, calls = ⟨request, .ok x⟩ :: later ∧ (next x).Transcript later result := by
  constructor
  · rintro (_ | _ | _ | ⟨failure | x, h⟩)
    · obtain ⟨rfl, rfl⟩ := transcript_fail.mp h
      exact Or.inl ⟨failure, rfl, rfl⟩
    · exact Or.inr ⟨x, _, rfl, h⟩
  · rintro (⟨failure, rfl, rfl⟩ | ⟨x, later, rfl, h⟩)
    · exact .call (.error failure) (.fail (report failure))
    · exact .call (.ok x) h

/-- With errors caught, a script makes the same calls and hands its ending on. -/
theorem transcript_attempt {script : Script α}
    {result : Except AccountError (Except AccountError α)} :
    script.attempt.Transcript calls result ↔
      ∃ ending, script.Transcript calls ending ∧ result = .ok ending := by
  constructor
  · intro h
    induction script generalizing calls with
    | answer x =>
      cases h
      exact ⟨_, .answer x, rfl⟩
    | fail error =>
      cases h
      exact ⟨_, .fail error, rfl⟩
    | emit event next ih =>
      obtain _ | _ | ⟨h⟩ := h
      obtain ⟨ending, hscript, hresult⟩ := ih h
      exact ⟨ending, .emit hscript, hresult⟩
    | call request next ih =>
      obtain _ | _ | _ | ⟨made, h⟩ := h
      obtain ⟨ending, hscript, hresult⟩ := ih made h
      exact ⟨ending, .call made hscript, hresult⟩
  · rintro ⟨ending, hscript, rfl⟩
    induction hscript with
    | answer x => exact .answer (Except.ok x)
    | fail error => exact .answer (Except.error error)
    | emit _ ih => exact .emit ih
    | call made _ ih => exact .call made ih

/-- With errors changed, a script makes the same calls. -/
theorem transcript_mapError {f : AccountError → AccountError} {script : Script β} :
    (script.mapError f).Transcript calls result ↔
      ∃ ending, script.Transcript calls ending ∧ result = ending.mapError f := by
  constructor
  · intro h
    induction script generalizing calls with
    | answer x =>
      cases h
      exact ⟨_, .answer x, rfl⟩
    | fail error =>
      cases h
      exact ⟨_, .fail error, rfl⟩
    | emit event next ih =>
      obtain _ | _ | ⟨h⟩ := h
      obtain ⟨ending, hscript, hresult⟩ := ih h
      exact ⟨ending, .emit hscript, hresult⟩
    | call request next ih =>
      obtain _ | _ | _ | ⟨made, h⟩ := h
      obtain ⟨ending, hscript, hresult⟩ := ih made h
      exact ⟨ending, .call made hscript, hresult⟩
  · rintro ⟨ending, hscript, rfl⟩
    induction hscript with
    | answer x => exact .answer x
    | fail error => exact .fail (f error)
    | emit _ ih => exact .emit ih
    | call made _ ih => exact .call made ih

/-- A choice makes the calls of the branch taken. -/
theorem transcript_ite {p : Prop} [Decidable p] {first second : Script β} :
    (if p then first else second).Transcript calls result ↔
      p ∧ first.Transcript calls result ∨ ¬ p ∧ second.Transcript calls result := by
  by_cases h : p <;> simp [h]

end Composed

/-! ## The calls that are made -/

/-- The calls that a script makes from a state on, with their endings. -/
def calls (backing : Backing σ) : Script α → σ → List Exchange
  | .answer _, _ => []
  | .fail _, _ => []
  | .emit _ next, s => next.calls backing s
  | .call request next, s =>
    let o := backing request s
    ⟨request, o.result⟩ :: (next o.result).calls backing o.state

/-- The record grows by the calls that the script makes. -/
theorem run_recorded_calls (backing : Backing σ) (script : Script α) (s : σ)
    (log : List Exchange) :
    (script.run backing.recorded (s, log)).state.2 = log ++ script.calls backing s := by
  induction script generalizing s log with
  | answer x => exact (List.append_nil log).symm
  | fail error => exact (List.append_nil log).symm
  | emit event next ih =>
    simp only [run, Action.bind_run, Action.emit_run]
    exact ih s log
  | call request next ih =>
    simp only [run, Action.bind_run, Action.attempt_run]
    exact (ih _ _ _).trans (List.append_assoc log [_] _)

/-- The calls that a run makes, and its result, are a transcript of the script. -/
theorem transcript_calls (backing : Backing σ) (script : Script α) (s : σ) :
    script.Transcript (script.calls backing s) (script.run backing s).result := by
  induction script generalizing s with
  | answer x => exact .answer x
  | fail error => exact .fail error
  | emit event next ih =>
    simp only [run, Action.bind_run, Action.emit_run]
    exact .emit (ih s)
  | call request next ih =>
    simp only [run, Action.bind_run, Action.attempt_run]
    exact .call _ (ih _ _)

end Script

/-- The exchanges of a request are the calls of its script. -/
theorem AccountService.exchanges_eq_calls (service : AccountService σ) (request : ServiceCall)
    (s : σ) :
    service.exchanges request s = (request.script service.accepts).calls service.backing s :=
  Script.run_recorded_calls service.backing _ s []

/-- The calls of a request and how it ends are a transcript of its script. -/
theorem AccountService.transcript_exchanges (service : AccountService σ) (request : ServiceCall)
    (s : σ) :
    (request.script service.accepts).Transcript (service.exchanges request s)
      (service.serve request s).result := by
  rw [service.exchanges_eq_calls]
  exact Script.transcript_calls service.backing _ s

end AccessControl
