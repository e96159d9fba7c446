import AccessControl.Deployment
import AccessControl.Policy.TupleSet
import AccessControl.Proofs.Account.Effects
import AccessControl.Proofs.Identity.Requests
import AccessControl.Uuid

/-!
# Runs of a deployment

A run of a deployment is a list of moves: requests to the account service, requests to the identity
service, calls that go to a backing service directly, and changes of the clock. No move makes a
stored record disappear or changes its id or its email, and the store stays well-formed.

A request *comes from* the identity that its token resolves to before the request is served.
-/

namespace AccessControl

open AccessControl.Calendar

variable {α ω : Type}

/-! ## Callers -/

/-- The token a request is made with. The token that `sendPasswordReset` mails is not such a one. -/
def ServiceCall.token? : ServiceCall → Option String
  | register token _ => some token
  | viewUser token _ => some token
  | viewProfile token => some token
  | listUsers token .. => some token
  | updateUser token _ => some token
  | resetPassword token _ => some token
  | changePassword token .. => some token
  | listMembers token .. => some token
  | login _ => none
  | generateResetToken .. => none
  | sendPasswordReset .. => none

namespace World

/-- The identity a token resolves to. -/
def caller? (w : World α ω) (token : String) : Option Identity :=
  (w.identity.keys.resolve token w.identity.now).1.toOption

/-- The identity a request comes from. -/
def callerOf (w : World α ω) (request : ServiceCall) : Option Identity :=
  request.token?.bind w.caller?

/-- A token has a caller exactly when the table of keys resolves it to one. -/
theorem caller?_eq_some_iff {w : World α ω} {token : String} {caller : Identity} :
    w.caller? token = some caller ↔
      (w.identity.keys.resolve token w.identity.now).1 = .ok caller := by
  unfold caller?
  cases (w.identity.keys.resolve token w.identity.now).1 <;> simp [Except.toOption]

end World

/-- The hasher makes this hash of a password, in some state. -/
def Hasher.Hashes (hasher : Hasher ω) (password hash : String) : Prop :=
  ∃ o, (hasher.hash password o).result = .ok hash

/-- The hasher tells the password that was hashed from all others. -/
def Hasher.Faithful (hasher : Hasher ω) : Prop :=
  ∀ password hash, hasher.Hashes password hash → ∀ given o,
    (hasher.compare given hash o).result = .ok () ↔ given = password

/-- The source draws this id, in some state. -/
def IdSource.Draws (ids : IdSource ω) (id : String) : Prop :=
  ∃ o, (ids.fresh o).result = .ok id

/-! ## Moves -/

/-- One thing that happens to a deployment. -/
inductive Move where
  /-- A request to the account service. -/
  | serve (request : ServiceCall)
  /-- A request to the identity service. -/
  | identity (request : IdentityCall)
  /-- A call that goes to a backing service directly. -/
  | port (call : BackingCall)
  /-- The clock shows another time. -/
  | clock (now : Timestamp)

/-- A request that was served. -/
structure Served where
  request : ServiceCall
  /-- The identity it came from. -/
  caller : Option Identity
  result : Except AccountError request.Answer

namespace Deployment

variable (d : Deployment α ω)

/-- What a move makes of the world. -/
def move (w : World α ω) : Move → World α ω
  | .serve request => (d.service.serve request w).state
  | .identity request => { w with identity := (d.identity.handle request w.identity).state }
  | .port call => (d.backing call w).state
  | .clock now => { w with identity := w.identity.at now }

/-- What a list of moves makes of the world. -/
def run (w : World α ω) (moves : List Move) : World α ω :=
  moves.foldl d.move w

/-- The requests among some moves, with the identities they came from and how they ended. -/
def history (w : World α ω) : List Move → List Served
  | [] => []
  | .serve request :: moves =>
    ⟨request, w.callerOf request, (d.service.serve request w).result⟩ ::
      history (d.move w (.serve request)) moves
  | m :: moves => history (d.move w m) moves

/-- The repository of a deployment is the store in memory. -/
theorem storesIn : d.backing.StoresIn World.accounts where
  reads call h w := by
    cases call with
    | save user => exact absurd trivial h
    | updateUser user => exact absurd trivial h
    | updatePassword email hash => exact absurd trivial h
    | byEmail email => exact congrArg Outcome.state (AccountStore.byEmail_run email w.accounts)
    | byId id => exact congrArg Outcome.state (AccountStore.byId_run id w.accounts)
    | _ => rfl
  fails call w error h := by
    cases call with
    | save user => exact AccountStore.save_state_of_error h
    | updateUser user => exact AccountStore.update_state_of_error h
    | updatePassword email hash => exact AccountStore.update_state_of_error h
    | byEmail email => exact congrArg Outcome.state (AccountStore.byEmail_run email w.accounts)
    | byId id => exact congrArg Outcome.state (AccountStore.byId_run id w.accounts)
    | _ => rfl
  saves user w id h := ⟨h, rfl⟩
  updates call email f hcall w x h := by
    cases call with
    | updateUser | updatePassword =>
      cases hcall
      exact ⟨h, rfl⟩
    | _ => cases hcall

variable {d} {w : World α ω}

/-- Hashes that the service is answered with are made by the hasher. -/
theorem hashes_of_answers {password hash : String}
    (h : d.service.backing.Answers (.hash password) hash) : d.hasher.Hashes password hash := by
  obtain ⟨w, h⟩ := h
  exact ⟨w.outside, h⟩

/-- Ids that the service is answered with are drawn from the source of ids. -/
theorem draws_of_answers {id : String} (h : d.service.backing.Answers .freshId id) :
    d.ids.Draws id := by
  obtain ⟨w, h⟩ := h
  exact ⟨w.outside, h⟩

/-- A request comes from the identity that its token resolves to. -/
theorem callerOf_eq_some {request : ServiceCall} {token : String} {caller : Identity}
    (htoken : request.token? = some token)
    (resolved : (d.service.backing (.identify token) w).result = .ok caller) :
    w.callerOf request = some caller := by
  rw [World.callerOf, htoken]
  exact World.caller?_eq_some_iff.mpr resolved

/-! ## What calls do -/

theorem backing_byEmail (d : Deployment α ω) (email : String) (w : World α ω) :
    d.backing (.byEmail email) w =
      ⟨match w.accounts.byEmail? email with
        | some user => .ok user
        | none => .error (.bare .notFound), [], w⟩ :=
  congrArg (fun o : Outcome AccountStore AccountError User =>
    (⟨o.result, o.events, { w with accounts := o.state }⟩ : Outcome (World α ω) _ _))
    (AccountStore.byEmail_run email w.accounts)

theorem backing_byId (d : Deployment α ω) (id : String) (w : World α ω) :
    d.backing (.byId id) w =
      ⟨match w.accounts.byId? id with
        | some user => .ok user
        | none => .error (.bare .notFound), [], w⟩ :=
  congrArg (fun o : Outcome AccountStore AccountError User =>
    (⟨o.result, o.events, { w with accounts := o.state }⟩ : Outcome (World α ω) _ _))
    (AccountStore.byId_run id w.accounts)

theorem backing_issue (d : Deployment α ω) (id email : String) (kind : KeyKind) (w : World α ω) :
    d.backing (.issue id email kind) w =
      let o := d.identity.issue id email kind w.identity
      ⟨o.result, o.events, { w with identity := o.state }⟩ := rfl

/-! ## What runs keep -/

/-- What every backing call keeps of the store, a run keeps. -/
theorem run_keeps (inv : AccountStore → Prop)
    (keeps : ∀ call (w : World α ω), inv w.accounts → inv (d.backing call w).state.accounts)
    (moves : List Move) (start : inv w.accounts) : inv (d.run w moves).accounts := by
  induction moves generalizing w with
  | nil => exact start
  | cons m moves ih =>
    refine ih (w := d.move w m) ?_
    -- the store is reached through calls only, and a request is served by making calls
    cases m with
    | serve request =>
      exact Script.run_keeps (fun w => inv w.accounts) (fun call _ w h => keeps call w h)
        (Script.only_true _) start
    | identity request => exact start
    | port call => exact keeps call w start
    | clock now => exact start

/-- The store stays well-formed. -/
theorem wellFormed_run (moves : List Move) (wf : w.accounts.WellFormed) :
    (d.run w moves).accounts.WellFormed :=
  run_keeps _ (fun call _ h => d.storesIn.wellFormed_call call h) moves wf

/-- No record is removed, and none gets another id or email. -/
theorem keys_run (moves : List Move) : w.accounts.keys <+: (d.run w moves).accounts.keys :=
  run_keeps (fun store => w.accounts.keys <+: store.keys)
    (fun call w' h => h.trans (d.storesIn.keys_call call w')) moves List.prefix_rfl

/-- A deployment of small parts: tokens are UUIDs, and every new record would get the same id. -/
def miniature : Deployment TupleSet Unit where
  identity := { tokenAt := fun n => (Uuid.ofEntropy n).simple, agent := TupleSet.agent }
  hasher := plainHasher Unit
  mailer := silentMailer Unit
  ids := ⟨return "id-1"⟩
  accepts := fun password => password.length ≥ 8

end Deployment

end AccessControl
