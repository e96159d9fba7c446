import AccessControl.Logging.Event

/-!
# Actions on a state that may fail and are logged

An action reads and changes a state, answers a value or fails, and emits events. A failure keeps the
state reached so far and the events emitted so far: nothing is rolled back.

`Action.zoom` runs an action on a part of a larger state. The lemmas named `..._run` say what each
combinator does to the three parts of an outcome.
-/

namespace AccessControl

/-- What one action did. -/
structure Outcome (σ ε α : Type) where
  result : Except ε α
  events : List Event
  state : σ

/-- An action on a state `σ` that answers an `α` or fails with an `ε`. -/
def Action (σ ε α : Type) : Type :=
  σ → Outcome σ ε α

namespace Action

variable {σ τ ε ε' α β : Type}

/-- Runs an action. -/
def run (action : Action σ ε α) (state : σ) : Outcome σ ε α :=
  action state

/-- Answers a value. -/
protected def pure (x : α) : Action σ ε α :=
  fun s => ⟨.ok x, [], s⟩

/-- Runs one action and, if it answered, the next. -/
protected def bind (first : Action σ ε α) (next : α → Action σ ε β) : Action σ ε β :=
  fun s =>
    match first s with
    | ⟨.ok x, events, s⟩ =>
      let o := next x s
      ⟨o.result, events ++ o.events, o.state⟩
    | ⟨.error e, events, s⟩ => ⟨.error e, events, s⟩

instance : Monad (Action σ ε) where
  pure := Action.pure
  bind := Action.bind

/-- Fails. -/
def fail (e : ε) : Action σ ε α :=
  fun s => ⟨.error e, [], s⟩

/-- Answers or fails as given. -/
def ofExcept (result : Except ε α) : Action σ ε α :=
  fun s => ⟨result, [], s⟩

/-- Shows the state. -/
def get : Action σ ε σ :=
  fun s => ⟨.ok s, [], s⟩

/-- Replaces the state. -/
def set (s : σ) : Action σ ε Unit :=
  fun _ => ⟨.ok (), [], s⟩

/-- Changes the state. -/
def modify (f : σ → σ) : Action σ ε Unit :=
  fun s => ⟨.ok (), [], f s⟩

/-- Emits an event. -/
def emit (event : Event) : Action σ ε Unit :=
  fun s => ⟨.ok (), [event], s⟩

/-- Changes the failure of an action. -/
def mapError (f : ε → ε') (action : Action σ ε α) : Action σ ε' α :=
  fun s =>
    let o := action s
    ⟨o.result.mapError f, o.events, o.state⟩

/-- Answers how an action ended, and does not fail. -/
def attempt (action : Action σ ε α) : Action σ ε' (Except ε α) :=
  fun s =>
    let o := action s
    ⟨.ok o.result, o.events, o.state⟩

/-- Runs an action on a part of a larger state. -/
def zoom (get : τ → σ) (set : τ → σ → τ) (action : Action σ ε α) : Action τ ε α :=
  fun t =>
    let o := action (get t)
    ⟨o.result, o.events, set t o.state⟩

/-! ## What the combinators do -/

@[simp] theorem pure_run (x : α) (s : σ) :
    (pure x : Action σ ε α) s = ⟨.ok x, [], s⟩ := rfl

theorem bind_run (first : Action σ ε α) (next : α → Action σ ε β) (s : σ) :
    (first >>= next) s =
      match first s with
      | ⟨.ok x, events, s⟩ => ⟨(next x s).result, events ++ (next x s).events, (next x s).state⟩
      | ⟨.error e, events, s⟩ => ⟨.error e, events, s⟩ := rfl

@[simp] theorem fail_run (e : ε) (s : σ) :
    (fail e : Action σ ε α) s = ⟨.error e, [], s⟩ := rfl

@[simp] theorem ofExcept_run (result : Except ε α) (s : σ) :
    (ofExcept result : Action σ ε α) s = ⟨result, [], s⟩ := rfl

@[simp] theorem get_run (s : σ) : (get : Action σ ε σ) s = ⟨.ok s, [], s⟩ := rfl

@[simp] theorem set_run (s s' : σ) : (set s' : Action σ ε Unit) s = ⟨.ok (), [], s'⟩ := rfl

@[simp] theorem modify_run (f : σ → σ) (s : σ) :
    (modify f : Action σ ε Unit) s = ⟨.ok (), [], f s⟩ := rfl

@[simp] theorem emit_run (event : Event) (s : σ) :
    (emit event : Action σ ε Unit) s = ⟨.ok (), [event], s⟩ := rfl

@[simp] theorem mapError_run (f : ε → ε') (action : Action σ ε α) (s : σ) :
    mapError f action s = ⟨(action s).result.mapError f, (action s).events, (action s).state⟩ := rfl

@[simp] theorem attempt_run (action : Action σ ε α) (s : σ) :
    (attempt action : Action σ ε' (Except ε α)) s =
      ⟨.ok (action s).result, (action s).events, (action s).state⟩ := rfl

@[simp] theorem zoom_run (get : τ → σ) (set : τ → σ → τ) (action : Action σ ε α) (t : τ) :
    zoom get set action t =
      ⟨(action (get t)).result, (action (get t)).events, set t (action (get t)).state⟩ := rfl

instance : LawfulMonad (Action σ ε) :=
  LawfulMonad.mk' _
    (by
      intro α x; funext s
      show Action.bind x (fun a => Action.pure (id a)) s = x s
      simp only [Action.bind, Action.pure]
      rcases x s with ⟨_ | _, _, _⟩ <;> simp)
    (by intro α β x f; funext s; simp [bind_run])
    (by
      intro α β γ x f g; funext s
      simp only [bind_run]
      rcases x s with ⟨_ | a, ev, s'⟩
      · rfl
      · simp only
        rcases f a s' with ⟨_ | b, ev', s''⟩ <;> simp)

end Action

end AccessControl
