import AccessControl.Proofs.Account.Courses

/-!
# Where requests stop

A request stops at its first failing step. Its failure is that of a row of `Stops`, which has the
calls up to the step; no call is made behind it (`AccountService.stops_at_first_failing_step`). The
question whether registration is open is not such a step: a registration goes on behind it either
way.
-/

namespace AccessControl

variable {σ : Type}

/-- The call failed, or it was answered with no. -/
def Exchange.Denied : Exchange → Prop
  | ⟨_, .error _⟩ => True
  | ⟨.authorize _, .ok yes⟩ => yes = false
  | ⟨.addPolicy _, .ok yes⟩ => yes = false
  | _ => False

/-- No call was denied, other than the question whether registration is open. -/
def Clear (calls : List Exchange) : Prop :=
  ∀ e ∈ calls, e.Denied → e.call = .authorize .bootstrap

section Calls

variable {accepts : String → Bool} {request : ServiceCall} {calls : List Exchange}

theorem Clear.dropLast (clear : Clear calls) : Clear calls.dropLast :=
  fun e he => clear e (List.dropLast_subset calls he)

/-- Calls that are clear are so one behind the other. -/
theorem Clear.append {calls' : List Exchange} (clear : Clear calls) (clear' : Clear calls') :
    Clear (calls ++ calls') :=
  fun e he => (List.mem_append.mp he).elim (clear e) (clear' e)

/-- Behind calls that were fine, the last call is still the last one. -/
theorem Clear.append_dropLast {calls' : List Exchange} (clear : Clear calls)
    (clear' : Clear calls'.dropLast) : Clear (calls ++ calls').dropLast := by
  by_cases h : calls' = []
  · rw [h, List.append_nil]
    exact clear.dropLast
  · rw [List.dropLast_append_of_ne_nil h]
    exact clear.append clear'

/-- A gate that lets through is clear. -/
theorem Gate.clear {token : String} {gate : List Exchange} (passed : Gate token gate true) :
    Clear gate := by
  cases passed with
  | opened => simp [Clear]
  | resolved caller closed named judged =>
    obtain rfl := judged.mp rfl
    simp [Clear, Exchange.Denied]

/-- A request that is turned away was clear up to its last call. -/
theorem TurnedAway.clear {token : String} {error : AccountError}
    (turned : TurnedAway token calls error) : Clear calls.dropLast := by
  cases turned <;> simp [Clear, Exchange.Denied]

/-- An enrolment that stops was clear up to its last call. -/
theorem EnrolmentStops.clear {user : User} {error : AccountError}
    (stops : EnrolmentStops user calls error) : Clear calls.dropLast := by
  cases stops <;> simp [Clear, Exchange.Denied]

/-- A renewal that stops was clear up to its last call. -/
theorem RenewalStops.clear {email password : String} {error : AccountError}
    (stops : RenewalStops email password calls error) : Clear calls.dropLast := by
  cases stops <;> simp [Clear, Exchange.Denied]

/-- A request that completes was clear throughout. -/
theorem Completes.clear {x : request.Answer} (completes : Completes accepts request calls x) :
    Clear calls := by
  cases completes with
  | registered passed acceptable => exact passed.clear.append (by simp [Clear, Exchange.Denied])
  | _ => simp [Clear, Exchange.Denied]

/-- All calls but the last one were fine. -/
theorem Stops.clear {error : AccountError} (stops : Stops accepts request calls error) :
    Clear calls.dropLast := by
  cases stops with
  | turnedAway turned => exact turned.clear
  | invalid passed | weak passed => exact passed.clear.dropLast
  | unenrolled passed acceptable stops => exact passed.clear.append_dropLast stops.clear
  | unreset named there accepted stops =>
    show Clear ([_, _] ++ _).dropLast
    exact Clear.append_dropLast (by simp [Clear, Exchange.Denied]) stops.clear
  | changeUndone accepted there stops =>
    show Clear ([_, _, _, _] ++ _).dropLast
    exact Clear.append_dropLast (by simp [Clear, Exchange.Denied]) stops.clear
  | _ => simp [Clear, Exchange.Denied]

end Calls

/-- Whatever stands behind the service, a request goes on to its first failing step and no further:
* it fails exactly if its calls are those of a row of `Stops`, with the failure of this row;
* it succeeds exactly if its calls are those of a row of `Completes`, with the answer of this row;
* once the calls so far are those of a row of `Stops`, it makes no other call;
* a call that fails or is answered with no is the last one, unless it is the question whether
  registration is open. -/
theorem AccountService.stops_at_first_failing_step (service : AccountService σ)
    (request : ServiceCall) (s : σ) :
    let calls := service.exchanges request s
    let result := (service.serve request s).result
    (∀ error, result = .error error ↔ Stops service.accepts request calls error) ∧
    (∀ x, result = .ok x ↔ Completes service.accepts request calls x) ∧
    (∀ earlier later error, calls = earlier ++ later →
      Stops service.accepts request earlier error → later = [] ∧ result = .error error) ∧
    (∀ earlier e later, calls = earlier ++ e :: later → e.Denied →
      e.call ≠ .authorize .bootstrap → later = [] ∧ ∃ error, result = .error error) := by
  intro calls result
  have transcript : (request.script service.accepts).Transcript calls result :=
    service.transcript_exchanges request s
  have ends : Ends service.accepts request calls result := Script.ends_of_transcript transcript
  -- no request goes on behind the calls of a row, so they decide the result
  have halts : ∀ earlier later error, calls = earlier ++ later →
      Stops service.accepts request earlier error → later = [] ∧ result = .error error :=
    fun earlier later error hcalls stops =>
      (Script.transcript_of_stops stops).eq_of_append (hcalls ▸ transcript)
  refine ⟨fun error => ⟨fun h => ?_, fun stops => ?_⟩, fun x => ⟨fun h => ?_, fun completes => ?_⟩,
    halts, fun earlier e later hcalls denied other => ?_⟩
  · rwa [h] at ends
  · exact (halts calls [] error calls.append_nil.symm stops).2
  · rwa [h] at ends
  · have completed := Script.transcript_of_completes completes
    exact (completed.eq_of_append (calls.append_nil.symm ▸ transcript)).2
  · cases hresult : result with
    | ok x =>
      rw [hresult] at ends
      exact absurd (Completes.clear ends e (by simp [hcalls]) denied) other
    | error error =>
      rw [hresult] at ends
      refine ⟨?_, error, rfl⟩
      cases later with
      | nil => rfl
      | cons e' later =>
        exact absurd (Stops.clear ends e (by simp [hcalls]) denied) other

end AccessControl
