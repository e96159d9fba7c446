import AccessControl.Account.Script

/-!
# What scripts do

`Script.run` is a morphism: playing a script in steps is playing its steps. `Script.Ensures` says
that a script, played from a state, ends as a condition on its result and its last state asks; the
lemmas named `ensures_...` compute it along the script, so that a statement about an operation falls
apart into one about each way its calls can end.

`Script.Only` says which calls a script can make at all. What those calls keep, the script keeps
(`Script.run_keeps`).
-/

namespace AccessControl

variable {σ σ' ε α β : Type}

namespace Script

/-! ## Playing a script in steps -/

theorem run_ofExcept (backing : Backing σ) (result : Except AccountError α) :
    (ofExcept result).run backing = Action.ofExcept result := by
  cases result <;> rfl

/-- Asking is making the call and reporting its failure. -/
theorem run_ask (backing : Backing σ) (request : BackingCall)
    (report : request.Failure → AccountError) :
    (ask request report).run backing = Action.mapError report (backing request) := by
  funext s
  simp only [ask, run, Action.bind_run, Action.attempt_run, Action.mapError_run]
  rcases backing request s with ⟨_ | x, events, s'⟩
  · exact congrArg (Outcome.mk _ · s') (List.append_nil events)
  · exact congrArg (Outcome.mk _ · s') (List.append_nil events)

/-- A call that is asked for answers as the call does. -/
theorem run_ask_eq_ok {backing : Backing σ} {request : BackingCall}
    {report : request.Failure → AccountError} {s : σ} {x : request.Answer} :
    ((ask request report).run backing s).result = .ok x ↔ (backing request s).result = .ok x := by
  rw [run_ask, Action.mapError_run]
  cases (backing request s).result with
  | error error => exact iff_of_false nofun nofun
  | ok y =>
    show Except.ok y = Except.ok x ↔ _
    rw [Except.ok.injEq, Except.ok.injEq]

/-- Playing one script after the other. -/
theorem run_bind (backing : Backing σ) (first : Script α) (next : α → Script β) :
    (first >>= next).run backing = first.run backing >>= fun x => (next x).run backing := by
  -- the induction is on the first script; the second is only met at its end
  show (first.bind next).run backing = _
  induction first with
  | answer x => simp only [Script.bind, run, pure_bind]
  | fail error => rfl
  | emit event rest ih => simp only [Script.bind, run, ih, bind_assoc]
  | call request rest ih => simp only [Script.bind, run, ih, bind_assoc]

/-- To run a script whose errors are caught is to catch the errors of the run. -/
theorem run_attempt (backing : Backing σ) (script : Script α) :
    script.attempt.run backing = Action.attempt (script.run backing) := by
  induction script with
  | answer x => rfl
  | fail error => rfl
  | emit event rest ih =>
    funext s
    simp only [attempt, run, ih, Action.bind_run, Action.emit_run, Action.attempt_run]
  | call request rest ih =>
    funext s
    simp only [attempt, run, ih, Action.bind_run, Action.attempt_run]

/-- To run a script whose errors are changed is to change the errors of the run. -/
theorem run_mapError (backing : Backing σ) (f : AccountError → AccountError) (script : Script α) :
    (script.mapError f).run backing = Action.mapError f (script.run backing) := by
  induction script with
  | answer x => rfl
  | fail error => rfl
  | emit event rest ih =>
    funext s
    simp only [mapError, run, ih, Action.bind_run, Action.emit_run, Action.mapError_run]
  | call request rest ih =>
    funext s
    simp only [mapError, run, ih, Action.bind_run, Action.attempt_run, Action.mapError_run]

/-! ## How a script ends -/

/-- Played from `s`, the script ends with a result and a state that satisfy `post`. -/
def Ensures (backing : Backing σ) (script : Script α) (s : σ)
    (post : Except AccountError α → σ → Prop) : Prop :=
  post (script.run backing s).result (script.run backing s).state

/-- What a condition asks of an ending when a script goes on behind an answer. -/
def Onward (next : α → σ → Prop) (stop : AccountError → σ → Prop) :
    Except AccountError α → σ → Prop
  | .ok x, s => next x s
  | .error error, s => stop error s

section Ensures

variable {backing : Backing σ} {s : σ} {post : Except AccountError β → σ → Prop}

/-- What a script ensures may be weakened. -/
theorem Ensures.mono {script : Script β} {post' : Except AccountError β → σ → Prop}
    (h : Ensures backing script s post) (imp : ∀ result s', post result s' → post' result s') :
    Ensures backing script s post' :=
  imp _ _ h

theorem ensures_pure {x : β} : Ensures backing (pure x) s post ↔ post (.ok x) s := Iff.rfl

theorem ensures_fail {error : AccountError} :
    Ensures backing (fail error) s post ↔ post (.error error) s := Iff.rfl

theorem ensures_log {event : Event} {post : Except AccountError Unit → σ → Prop} :
    Ensures backing (log event) s post ↔ post (.ok ()) s := Iff.rfl

theorem ensures_ofExcept {result : Except AccountError β} :
    Ensures backing (ofExcept result) s post ↔ post result s := by
  rw [Ensures, run_ofExcept, Action.ofExcept_run]

/-- A sequence ensures what its second part ensures behind the first, if the first succeeds, and
what holds of the error otherwise. -/
theorem ensures_bind {first : Script α} {next : α → Script β} :
    Ensures backing (first >>= next) s post ↔
      Ensures backing first s
        (Onward (fun x s => Ensures backing (next x) s post)
          fun error s => post (.error error) s) := by
  simp only [Ensures, run_bind, Action.bind_run]
  rcases first.run backing s with ⟨_ | x, events, s'⟩ <;> exact Iff.rfl

/-- A question ensures what holds behind its answer and behind each of its failures, as reported. -/
theorem ensures_ask {request : BackingCall} {report : request.Failure → AccountError}
    {post : Except AccountError request.Answer → σ → Prop} :
    Ensures backing (ask request report) s post ↔
      (∀ x, (backing request s).result = .ok x → post (.ok x) (backing request s).state) ∧
      ∀ error, (backing request s).result = .error error →
        post (.error (report error)) (backing request s).state := by
  rw [Ensures, run_ask, Action.mapError_run]
  cases (backing request s).result with
  | error error => exact ⟨fun h => ⟨nofun, fun _ h' => Except.error.inj h' ▸ h⟩, fun h => h.2 _ rfl⟩
  | ok x => exact ⟨fun h => ⟨fun _ h' => Except.ok.inj h' ▸ h, nofun⟩, fun h => h.1 _ rfl⟩

/-- A call whose answer is known is the step to its state. -/
theorem ensures_ask_of_ok {request : BackingCall} {report : request.Failure → AccountError}
    {post : Except AccountError request.Answer → σ → Prop} {x : request.Answer}
    (h : (backing request s).result = .ok x) (hpost : post (.ok x) (backing request s).state) :
    Ensures backing (ask request report) s post := by
  rw [ensures_ask]
  refine ⟨fun y hy => ?_, fun error herror => ?_⟩
  · rwa [← Except.ok.inj (h.symm.trans hy)]
  · cases h.symm.trans herror

/-- A call ensures what the rest ensures behind the result of the call. -/
theorem ensures_call {request : BackingCall}
    {next : Except request.Failure request.Answer → Script β} :
    Ensures backing (call request next) s post ↔
      Ensures backing (next (backing request s).result) (backing request s).state post := Iff.rfl

/-- With errors caught, a script ensures the same of its result, taken as an answer. -/
theorem ensures_attempt {script : Script α}
    {post : Except AccountError (Except AccountError α) → σ → Prop} :
    Ensures backing script.attempt s post ↔ Ensures backing script s fun r s => post (.ok r) s := by
  simp only [Ensures, run_attempt, Action.attempt_run]

/-- With errors changed, a script ensures the same of its changed result. -/
theorem ensures_mapError {f : AccountError → AccountError} {script : Script β} :
    Ensures backing (script.mapError f) s post ↔
      Ensures backing script s fun r s => post (r.mapError f) s := by
  simp only [Ensures, run_mapError, Action.mapError_run]

/-- A choice ensures what the branch taken ensures. -/
theorem ensures_ite {p : Prop} [Decidable p] {first second : Script β} :
    Ensures backing (if p then first else second) s post ↔
      (p → Ensures backing first s post) ∧ (¬ p → Ensures backing second s post) := by
  by_cases h : p <;> simp [h]

theorem onward_ok {next : α → σ → Prop} {stop : AccountError → σ → Prop} {x : α} :
    Onward next stop (.ok x) s ↔ next x s := Iff.rfl

theorem onward_error {next : α → σ → Prop} {stop : AccountError → σ → Prop}
    {error : AccountError} : Onward next stop (.error error) s ↔ stop error s := Iff.rfl

end Ensures

/-! ## Which calls a script can make -/

/-- Every call the script can make satisfies `p`, however its calls end. -/
def Only (p : BackingCall → Prop) : Script α → Prop
  | answer _ => True
  | fail _ => True
  | emit _ next => next.Only p
  | call request next => p request ∧ ∀ ending, (next ending).Only p

section Only

variable {p : BackingCall → Prop}

theorem only_pure {x : α} : (pure x : Script α).Only p := trivial

theorem only_fail {error : AccountError} : (fail error : Script α).Only p := trivial

theorem only_log {event : Event} : (log event).Only p := trivial

/-- A sequence makes only such calls as both of its parts make. -/
theorem only_bind {first : Script α} {next : α → Script β} (hfirst : first.Only p)
    (hnext : ∀ x, (next x).Only p) : (first >>= next).Only p := by
  show (first.bind next).Only p
  induction first with
  | answer x => exact hnext x
  | fail error => trivial
  | emit event rest ih => exact ih hfirst
  | call request rest ih => exact ⟨hfirst.1, fun ending => ih ending (hfirst.2 ending)⟩

/-- A question makes no call but its own. -/
theorem only_ask {request : BackingCall} {report : request.Failure → AccountError}
    (h : p request) : (ask request report).Only p :=
  ⟨h, fun ending => by cases ending <;> trivial⟩

/-- A result that is given makes no call. -/
theorem only_ofExcept {result : Except AccountError α} : (ofExcept result).Only p := by
  cases result <;> trivial

/-- A choice makes only such calls as both of its branches make. -/
theorem only_ite {c : Prop} [Decidable c] {first second : Script α} (hfirst : first.Only p)
    (hsecond : second.Only p) : (if c then first else second).Only p := by
  by_cases h : c
  · rwa [if_pos h]
  · rwa [if_neg h]

/-- A script makes the same calls when its errors are caught. -/
theorem only_attempt {script : Script α} (only : script.Only p) : script.attempt.Only p := by
  induction script with
  | answer x => trivial
  | fail error => trivial
  | emit event next ih => exact ih only
  | call request next ih => exact ⟨only.1, fun ending => ih ending (only.2 ending)⟩

/-- A script makes the same calls when its errors are changed. -/
theorem only_mapError {f : AccountError → AccountError} {script : Script α}
    (only : script.Only p) : (script.mapError f).Only p := by
  induction script with
  | answer x => trivial
  | fail error => trivial
  | emit event next ih => exact ih only
  | call request next ih => exact ⟨only.1, fun ending => ih ending (only.2 ending)⟩

/-- A script keeps whatever each of its calls keeps. -/
theorem run_keeps {backing : Backing σ} (inv : σ → Prop)
    (keeps : ∀ request, p request → ∀ s, inv s → inv (backing request s).state)
    {script : Script α} (only : script.Only p) {s : σ} (start : inv s) :
    inv (script.run backing s).state := by
  induction script generalizing s with
  | answer x => exact start
  | fail error => exact start
  | emit event next ih =>
    simp only [run, Action.bind_run, Action.emit_run]
    exact ih only start
  | call request next ih =>
    simp only [run, Action.bind_run, Action.attempt_run]
    exact ih _ (only.2 _) (keeps request only.1 s start)

theorem only_true (script : Script α) : script.Only fun _ => True := by
  induction script with
  | answer x => trivial
  | fail error => trivial
  | emit event next ih => exact ih
  | call request next ih => exact ⟨trivial, ih⟩

/-- Behind a script that keeps an invariant, it is enough to look at endings where it holds. -/
theorem ensures_bind_of_only {backing : Backing σ} {inv : σ → Prop}
    (keeps : ∀ request, p request → ∀ s, inv s → inv (backing request s).state)
    {first : Script α} (only : first.Only p) {next : α → Script β} {s : σ} (start : inv s)
    {post : Except AccountError β → σ → Prop} (stop : ∀ error s', inv s' → post (.error error) s')
    (go : ∀ x s', (first.run backing s).result = .ok x → inv s' →
      Ensures backing (next x) s' post) :
    Ensures backing (first >>= next) s post := by
  have hinv := run_keeps inv keeps only start
  rw [ensures_bind, Ensures]
  cases h : (first.run backing s).result with
  | ok x => exact go x _ h hinv
  | error error => exact stop error _ hinv

end Only

end Script

/-! ## Backings in view of another one -/

/-- What a backing does is, in a view of its states, what another one does. -/
def Backing.Projects (backing : Backing σ) (backing' : Backing σ') (view : σ → σ') : Prop :=
  ∀ call s, backing' call (view s) =
    ⟨(backing call s).result, (backing call s).events, view (backing call s).state⟩

/-- What a script does over a backing is, in the view, what it does over the other one, if this is
so of all calls that the script can make. -/
theorem Script.run_view_of_only {p : BackingCall → Prop} {backing : Backing σ}
    {backing' : Backing σ'} {view : σ → σ'}
    (projects : ∀ call, p call → ∀ s, backing' call (view s) =
      ⟨(backing call s).result, (backing call s).events, view (backing call s).state⟩)
    {script : Script α} (only : script.Only p) (s : σ) :
    script.run backing' (view s) =
      ⟨(script.run backing s).result, (script.run backing s).events,
        view (script.run backing s).state⟩ := by
  induction script generalizing s with
  | answer x => rfl
  | fail error => rfl
  | emit event next ih =>
    simp only [run, Action.bind_run, Action.emit_run, ih only]
  | call request next ih =>
    simp only [run, Action.bind_run, Action.attempt_run, projects request only.1 s,
      ih _ (only.2 _)]

/-- What a script does over a backing is, in the view, what it does over the other one. -/
theorem Script.run_view {backing : Backing σ} {backing' : Backing σ'} {view : σ → σ'}
    (projects : backing.Projects backing' view) (script : Script α) (s : σ) :
    script.run backing' (view s) =
      ⟨(script.run backing s).result, (script.run backing s).events,
        view (script.run backing s).state⟩ :=
  run_view_of_only (fun call _ => projects call) script.only_true s

end AccessControl
