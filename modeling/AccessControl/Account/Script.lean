import AccessControl.Account.Backing

/-!
# Scripts over the backing services

A script is an operation of the account service before anything stands behind it: it answers, fails,
emits an event, or makes a backing call and goes on from how the call ended. `Script.run` plays a
script against a backing. What holds of every script, whatever it does, is said by one induction.

A script that fails is over; `Script.attempt` is the only way to go on behind a failure.
-/

namespace AccessControl

/-- An operation of the account service, call by call. -/
inductive Script (α : Type) where
  | answer (x : α)
  | fail (error : AccountError)
  | emit (event : Event) (next : Script α)
  | call (request : BackingCall) (next : Except request.Failure request.Answer → Script α)

namespace Script

variable {σ α β : Type}

/-- Goes on from the answer of a script. -/
protected def bind : Script α → (α → Script β) → Script β
  | answer x, next => next x
  | fail error, _ => fail error
  | emit event rest, next => emit event (rest.bind next)
  | call request rest, next => call request fun ending => (rest ending).bind next

instance : Monad Script where
  pure := answer
  bind := Script.bind

/-- Answers or fails as given. -/
def ofExcept : Except AccountError α → Script α
  | .ok x => answer x
  | .error error => fail error

/-- Emits an event. -/
def log (event : Event) : Script Unit :=
  emit event (answer ())

/-- Changes the failure of a script. -/
def mapError (f : AccountError → AccountError) : Script α → Script α
  | answer x => answer x
  | fail error => fail (f error)
  | emit event next => emit event (next.mapError f)
  | call request next => call request fun ending => (next ending).mapError f

/-- Answers how a script ended, and does not fail. -/
def attempt : Script α → Script (Except AccountError α)
  | answer x => answer (.ok x)
  | fail error => answer (.error error)
  | emit event next => emit event next.attempt
  | call request next => call request fun ending => (next ending).attempt

/-- Makes a backing call; its failure is reported as a failure of the account service. -/
def ask (request : BackingCall) (report : request.Failure → AccountError) :
    Script request.Answer :=
  call request fun
    | .ok x => answer x
    | .error error => fail (report error)

/-- Plays a script against a backing. -/
def run (backing : Backing σ) : Script α → Action σ AccountError α
  | answer x => return x
  | fail error => Action.fail error
  | emit event next => do
    Action.emit event
    next.run backing
  | call request next => do
    let ending : Except request.Failure request.Answer ← Action.attempt (backing request)
    (next ending).run backing

end Script

end AccessControl
