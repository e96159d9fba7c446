import AccessControl.Identity.Local
import AccessControl.Proofs.Identity.KeyTable

/-!
# Requests to the identity service

An `IdentityCall` is one request to the identity service, and `LocalIdentity.handle` answers it. A
`Handled` request is one with the time at which it was made and how it ended; a run of the service
leaves a history of them.

`LocalIdentity.handle_cases` says all that a request can do to the table of keys: enroll a new key
under the next token string, forget a token, or look one up.
-/

namespace AccessControl

open AccessControl.Calendar

/-- A request to the identity service. -/
inductive IdentityCall where
  | issue (id email : String) (kind : KeyKind)
  | identify (token : String)
  | revoke (token : String)
  | assign (group memberType : String) (supply : IdSupply)
  | members (token group : String) (offset limit : Nat) (memberType : String)
  | authorize (tuple : RelationTuple)
  | addPolicy (tuple : RelationTuple)
  | addPolicies (token : String) (batch : GrantBatch)

namespace IdentityCall

/-- What a request answers. -/
@[reducible] def Answer : IdentityCall → Type
  | issue .. => String
  | identify _ => Identity
  | revoke _ => Bool
  | assign .. => Unit
  | members .. => List String
  | authorize _ => Bool
  | addPolicy _ => Bool
  | addPolicies .. => Unit

/-- How a request fails. -/
@[reducible] def Failure : IdentityCall → Type
  | assign .. => AssignError
  | _ => IdentityError

end IdentityCall

/-- A request that was answered or refused. -/
structure Handled where
  time : Timestamp
  request : IdentityCall
  ending : Except request.Failure request.Answer

namespace Handled

/-- The request issued a token. -/
def Issued (token : String) (e : Handled) : Prop :=
  ∃ time id email kind, e = ⟨time, .issue id email kind, .ok token⟩

/-- The request forgot a token that was there. -/
def Forgot (token : String) (e : Handled) : Prop :=
  ∃ time, e = ⟨time, .revoke token, .ok true⟩

/-- The request issued a token or asked to forget it. -/
def Concerns (token : String) (e : Handled) : Prop :=
  e.Issued token ∨ e.request = .revoke token

theorem issue_eq_iff {time time' : Timestamp} {id id' email email' : String} {kind kind' : KeyKind}
    {token token' : String} :
    Handled.mk time (.issue id email kind) (.ok token) =
        ⟨time', .issue id' email' kind', .ok token'⟩ ↔
      time = time' ∧ id = id' ∧ email = email' ∧ kind = kind' ∧ token = token' := by
  constructor
  · intro h
    cases h
    exact ⟨rfl, rfl, rfl, rfl, rfl⟩
  · rintro ⟨rfl, rfl, rfl, rfl, rfl⟩
    rfl

theorem revoke_eq_iff {time time' : Timestamp} {token token' : String} {found found' : Bool} :
    Handled.mk time (.revoke token) (.ok found) = ⟨time', .revoke token', .ok found'⟩ ↔
      time = time' ∧ token = token' ∧ found = found' := by
  constructor
  · intro h
    cases h
    exact ⟨rfl, rfl, rfl⟩
  · rintro ⟨rfl, rfl, rfl⟩
    rfl

/-- A request that forgot a token concerns it. -/
theorem Forgot.concerns {token : String} {e : Handled} (h : e.Forgot token) : e.Concerns token := by
  obtain ⟨time, rfl⟩ := h
  exact Or.inr rfl

end Handled

/-- The same state with the clock at a given time. -/
def IdentityState.at {α : Type} (s : IdentityState α) (now : Timestamp) : IdentityState α :=
  { s with now := now }

namespace LocalIdentity

variable {α β : Type}

/-- Handles a request. -/
def handle (service : LocalIdentity α) :
    (request : IdentityCall) → Action (IdentityState α) request.Failure request.Answer
  | .issue id email kind => service.issue id email kind
  | .identify token => identify token
  | .revoke token => revoke token
  | .assign group memberType supply => assign group memberType supply
  | .members token group offset limit memberType => members token group offset limit memberType
  | .authorize tuple => service.authorize tuple
  | .addPolicy tuple => service.addPolicy tuple
  | .addPolicies token batch => service.addPolicies token batch

/-! ## What the actions do -/

/-- To identify at an instant is to resolve the token in the table of keys. -/
theorem identifyAt_run (token : String) (now : Timestamp) (s : IdentityState α) :
    identifyAt token now s =
      ⟨(s.keys.resolve token now).1, [], { s with keys := (s.keys.resolve token now).2 }⟩ := rfl

/-- To identify is to resolve the token now. -/
theorem identify_run (token : String) (s : IdentityState α) :
    identify token s =
      ⟨(s.keys.resolve token s.now).1, [], { s with keys := (s.keys.resolve token s.now).2 }⟩ := rfl

/-- To revoke erases the token, and answers whether it was there. -/
theorem revoke_run (token : String) (s : IdentityState α) :
    revoke token s =
      ⟨.ok (s.keys.get? token).isSome, [], { s with keys := s.keys.erase token }⟩ := rfl

/-- A key is issued for an id and an address, both non-empty, and a lifetime within range, under the
next token. -/
theorem issue_run (service : LocalIdentity α) (id email : String) (kind : KeyKind)
    (s : IdentityState α) :
    service.issue id email kind s =
      if id = "" ∨ email = "" then ⟨.error (.malformedEntity .keyWithoutOwner), [], s⟩
      else match s.now.add? (service.lifetime kind) with
        | none => ⟨.error (.malformedEntity (.lifetimeOutOfRange kind)), [], s⟩
        | some expiry => ⟨.ok (service.tokenAt s.drawn), [.keyIssued kind],
            { s with
              drawn := s.drawn + 1
              keys := s.keys.enroll (service.tokenAt s.drawn)
                ⟨id, email, kind, s.now, expiry⟩ }⟩ := by
  unfold issue
  split
  · rfl
  · simp only [Action.bind_run, Action.get_run]
    cases s.now.add? (service.lifetime kind) <;> rfl

/-- Listing members looks at the token, and at nothing else that can change. -/
theorem members_state (token group : String) (offset limit : Nat) (memberType : String)
    (s : IdentityState α) :
    (members token group offset limit memberType s).state =
      { s with keys := (s.keys.resolve token s.now).2 } := by
  simp only [members, Action.bind_run, identify_run]
  cases (s.keys.resolve token s.now).1 with
  | error e => rfl
  | ok identity =>
    simp only [Action.get_run]
    split <;> rfl

/-- To authorize asks the agent, and takes every error of it for a no. -/
theorem authorize_run (service : LocalIdentity α) (t : RelationTuple) (s : IdentityState α) :
    (service.authorize t s).result = .ok (service.agent.check t s.agent).result.isOk ∧
      (service.authorize t s).state =
        { s with agent := (service.agent.check t s.agent).state } := by
  simp only [authorize, Action.bind_run, Action.attempt_run, ofAgent, Action.mapError_run,
    Action.zoom_run]
  cases (service.agent.check t s.agent).result <;> exact ⟨rfl, rfl⟩

/-- To add a policy asks the agent, and passes its error on. -/
theorem addPolicy_run (service : LocalIdentity α) (t : RelationTuple) (s : IdentityState α) :
    (service.addPolicy t s).result =
        ((service.agent.add t s.agent).result.map fun _ => true).mapError .authorization ∧
      (service.addPolicy t s).state = { s with agent := (service.agent.add t s.agent).state } := by
  simp only [addPolicy, Action.bind_run, ofAgent, Action.mapError_run, Action.zoom_run]
  cases (service.agent.add t s.agent).result <;> exact ⟨rfl, rfl⟩

/-- Grants reach the agent and no other part of the state. -/
theorem grantAll_state (service : LocalIdentity α) (ts : List RelationTuple)
    (s : IdentityState α) : ∃ a, (service.grantAll ts s).state = { s with agent := a } := by
  induction ts generalizing s with
  | nil => exact ⟨s.agent, rfl⟩
  | cons t ts ih =>
    simp only [grantAll, Action.bind_run, ofAgent, Action.mapError_run, Action.zoom_run]
    cases (service.agent.add t s.agent).result with
    | error e => exact ⟨_, rfl⟩
    | ok _ => exact ih _

/-- A batch looks at the token at most, and reaches the agent. -/
theorem addPolicies_state (service : LocalIdentity α) (token : String) (batch : GrantBatch)
    (s : IdentityState α) :
    ∃ a keys, (service.addPolicies token batch s).state = { s with agent := a, keys := keys } ∧
      (keys = s.keys ∨ keys = (s.keys.resolve token s.now).2) := by
  simp only [addPolicies, Action.bind_run, Action.ofExcept_run]
  cases batch.validate token with
  | error e => exact ⟨s.agent, s.keys, rfl, Or.inl rfl⟩
  | ok _ =>
    simp only [identify_run]
    cases (s.keys.resolve token s.now).1 with
    | error e => exact ⟨s.agent, _, rfl, Or.inr rfl⟩
    | ok caller =>
      simp only [ofAgent, Action.mapError_run, Action.zoom_run]
      cases (service.agent.check (RelationTuple.authority caller.id) s.agent).result with
      | error e => exact ⟨_, _, rfl, Or.inr rfl⟩
      | ok _ =>
        obtain ⟨a, ha⟩ := grantAll_state service batch.tuples
          { s with
            keys := (s.keys.resolve token s.now).2
            agent := (service.agent.check (RelationTuple.authority caller.id) s.agent).state }
        exact ⟨a, _, ha, Or.inr rfl⟩

/-- An assignment changes nothing but the groups. -/
theorem assign_state (group memberType : String) (supply : IdSupply) (s : IdentityState α) :
    ∃ groups, (assign group memberType supply s).state = { s with groups := groups } := by
  simp only [assign, Action.bind_run, Action.get_run]
  split
  · simp only [Action.bind_run, Action.set_run]
    split <;> exact ⟨_, rfl⟩
  · exact ⟨s.groups, rfl⟩

/-! ## What a request does to the keys -/

/-- All that a request can do to the table of keys. -/
theorem handle_cases (service : LocalIdentity α) (s : IdentityState α) (now : Timestamp)
    (request : IdentityCall) :
    let o := service.handle request (s.at now)
    (∃ id email kind expiry, Handled.mk now request o.result =
        ⟨now, .issue id email kind, .ok (service.tokenAt s.drawn)⟩ ∧
      now.add? (service.lifetime kind) = some expiry ∧ o.state.drawn = s.drawn + 1 ∧
      o.state.keys = s.keys.enroll (service.tokenAt s.drawn) ⟨id, email, kind, now, expiry⟩) ∨
    (∃ token, Handled.mk now request o.result =
        ⟨now, .revoke token, .ok (s.keys.get? token).isSome⟩ ∧
      o.state.drawn = s.drawn ∧ o.state.keys = s.keys.erase token) ∨
    ((∀ token, ¬ (Handled.mk now request o.result).Concerns token) ∧ o.state.drawn = s.drawn ∧
      (o.state.keys = s.keys ∨ ∃ token, o.state.keys = (s.keys.resolve token now).2)) := by
  -- only issuing and revoking concern a token
  have quiet : ∀ {ending : Except request.Failure request.Answer},
      (∀ id email kind, request ≠ .issue id email kind) → (∀ token, request ≠ .revoke token) →
      ∀ token, ¬ (Handled.mk now request ending).Concerns token := by
    rintro ending hissue hrevoke token (⟨time, id, email, kind, h⟩ | h)
    · exact hissue id email kind (congrArg Handled.request h)
    · exact hrevoke token h
  cases request with
  | issue id email kind =>
    simp only [handle, issue_run]
    by_cases howner : id = "" ∨ email = ""
    · simp only [if_pos howner]
      refine Or.inr (Or.inr ⟨?_, rfl, Or.inl rfl⟩)
      rintro token (⟨time, id, email, kind, h⟩ | h) <;> simp at h
    · simp only [if_neg howner, IdentityState.at]
      cases hexpiry : now.add? (service.lifetime kind) with
      | none =>
        refine Or.inr (Or.inr ⟨?_, rfl, Or.inl rfl⟩)
        rintro token (⟨time, id, email, kind, h⟩ | h) <;> simp at h
      | some expiry => exact Or.inl ⟨id, email, kind, expiry, rfl, hexpiry, rfl, rfl⟩
  | revoke token => exact Or.inr (Or.inl ⟨token, rfl, rfl, rfl⟩)
  | identify token =>
    exact Or.inr (Or.inr ⟨quiet (by simp) (by simp), rfl, Or.inr ⟨token, rfl⟩⟩)
  | assign group memberType supply =>
    obtain ⟨groups, hstate⟩ := assign_state group memberType supply (s.at now)
    refine Or.inr (Or.inr ⟨quiet (by simp) (by simp), ?_, Or.inl ?_⟩) <;>
      simp only [handle, hstate] <;> rfl
  | members token group offset limit memberType =>
    refine Or.inr (Or.inr ⟨quiet (by simp) (by simp), ?_, Or.inr ⟨token, ?_⟩⟩) <;>
      simp only [handle, members_state, IdentityState.at]
  | authorize tuple =>
    refine Or.inr (Or.inr ⟨quiet (by simp) (by simp), ?_, Or.inl ?_⟩) <;>
      simp only [handle, (authorize_run service tuple _).2, IdentityState.at]
  | addPolicy tuple =>
    refine Or.inr (Or.inr ⟨quiet (by simp) (by simp), ?_, Or.inl ?_⟩) <;>
      simp only [handle, (addPolicy_run service tuple _).2, IdentityState.at]
  | addPolicies token batch =>
    obtain ⟨a, keys, hstate, hkeys⟩ := addPolicies_state service token batch (s.at now)
    refine Or.inr (Or.inr ⟨quiet (by simp) (by simp), ?_, ?_⟩)
    · simp only [handle, hstate]
      rfl
    · simp only [handle, hstate]
      exact hkeys.imp_right fun h => ⟨token, h⟩

end LocalIdentity

end AccessControl
