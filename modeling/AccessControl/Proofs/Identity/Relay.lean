import AccessControl.Proofs.Account.Exchanges
import AccessControl.Proofs.Identity.Requests
import AccessControl.Proofs.Policy.TupleSet

/-!
# The identity service behind the account service

Five of the backing calls belong to the identity service. `Backing.Relays` says that a backing
passes these on to an identity service whose state is a part of its own. Before each call the clock
is set, and a call that should be passed on may fail instead. No other call reaches the identity
service.

Over such a backing, `Backing.Relays.call_cases` says what a call can do to the keys, and
`Backing.Relays.tuples_call` that only a grant that is answered with yes adds a tuple.
-/

namespace AccessControl

open AccessControl.Calendar

variable {σ α ω : Type}

namespace LocalIdentity

/-- The action of the identity service that a call asks for, if it belongs to it. -/
def onCall? (service : LocalIdentity α) : (call : BackingCall) →
    Option (Action (IdentityState α) call.Failure call.Answer)
  | .issue id email kind => some (service.issue id email kind)
  | .identify token => some (identify token)
  | .members token group offset limit memberType =>
    some (members token group offset limit memberType)
  | .authorize tuple => some (service.authorize tuple)
  | .addPolicy tuple => some (service.addPolicy tuple)
  | _ => none

/-- The identity service takes the calls that belong to it, and `others` stands behind all other
calls. -/
def inFrontOf (service : LocalIdentity α) (others : Backing ω) : Backing (IdentityState α × ω) :=
  fun call =>
    match service.onCall? call with
    | some action => Action.zoom Prod.fst (fun s identity => (identity, s.2)) action
    | none => Action.zoom Prod.snd (fun s other => (s.1, other)) (others call)

end LocalIdentity

namespace Exchange

/-- A key of a kind was issued to an id and an email, under a token. -/
def issued (id email : String) (kind : KeyKind) (token : String) : Exchange :=
  ⟨.issue id email kind, .ok token⟩

/-- A tuple was granted. -/
def granted (tuple : RelationTuple) : Exchange :=
  ⟨.addPolicy tuple, .ok true⟩

/-- Only a call for a key can issue one. -/
theorem ne_issued {call : BackingCall} (h : ∀ id email kind, call ≠ .issue id email kind)
    (ending : Except call.Failure call.Answer) (id email : String) (kind : KeyKind)
    (token : String) : mk call ending ≠ issued id email kind token :=
  fun hissued => h id email kind (congrArg Exchange.call hissued)

theorem error_ne_issued (call : BackingCall) (error : call.Failure) (id email : String)
    (kind : KeyKind) (token : String) : mk call (.error error) ≠ issued id email kind token := by
  intro hissued
  cases hissued

/-- The tuples that were granted, of which there is at most one. -/
def grants (e : Exchange) : Set RelationTuple :=
  {t | e = granted t}

theorem mem_grants {e : Exchange} {t : RelationTuple} : t ∈ e.grants ↔ e = granted t := Iff.rfl

/-- A tuple that is granted is all that its exchange grants. -/
theorem grants_granted (t : RelationTuple) : (granted t).grants = {t} := by
  ext t'
  rw [mem_grants, Set.mem_singleton_iff]
  constructor
  · intro h
    cases h
    rfl
  · rintro rfl
    rfl

/-- Only a call for a policy can grant a tuple. -/
theorem grants_eq_empty {e : Exchange} (h : ∀ t, e.call ≠ .addPolicy t) : e.grants = ∅ :=
  Set.eq_empty_of_forall_notMem fun t ht => h t (congrArg call ht)

theorem grants_error (call : BackingCall) (error : call.Failure) :
    (Exchange.mk call (.error error)).grants = ∅ :=
  Set.eq_empty_of_forall_notMem fun t ht => by cases ht

end Exchange

/-- A backing passes the calls of the identity service on to it, at the times of a clock. -/
structure Backing.Relays (backing : Backing σ) (service : LocalIdentity α)
    (identity : σ → IdentityState α) (clock : σ → Timestamp) : Prop where
  relayed : ∀ call action, service.onCall? call = some action → ∀ s,
    (∃ error, (backing call s).result = .error error) ∧
        identity (backing call s).state = (identity s).at (clock s) ∨
      (backing call s).result = (action ((identity s).at (clock s))).result ∧
        identity (backing call s).state = (action ((identity s).at (clock s))).state
  others : ∀ call, service.onCall? call = none → ∀ s,
    identity (backing call s).state = (identity s).at (clock s)

namespace LocalIdentity

variable (service : LocalIdentity α)

/-- An identity service relays the calls to itself. -/
theorem inFrontOf_relays (others : Backing ω) :
    (service.inFrontOf others).Relays service Prod.fst fun s => s.1.now where
  relayed call action h s := by
    right
    simp only [inFrontOf, h]
    exact ⟨rfl, rfl⟩
  others call h s := by
    simp only [inFrontOf, h]
    rfl

/-- What belongs to the identity service does not reach the others. -/
theorem inFrontOf_others {others : Backing ω} {call : BackingCall}
    (h : (service.onCall? call).isSome = true) (s : IdentityState α × ω) :
    (service.inFrontOf others call s).state.2 = s.2 := by
  obtain ⟨action, haction⟩ := Option.isSome_iff_exists.mp h
  simp only [inFrontOf, haction]
  rfl

end LocalIdentity

namespace Backing.Relays

variable {backing : Backing σ} {service : LocalIdentity α} {identity : σ → IdentityState α}
  {clock : σ → Timestamp} {call : BackingCall} {s : σ}

/-! ## What a call does to the keys -/

/-- A call issues a key under the next token, or looks a token up, or leaves the keys alone. No call
changes the groups. -/
theorem call_cases (relays : backing.Relays service identity clock) (call : BackingCall) (s : σ) :
    let before := identity s
    let after := identity (backing call s).state
    after.groups = before.groups ∧
    ((∃ id email kind expiry,
        Exchange.mk call (backing call s).result =
          .issued id email kind (service.tokenAt before.drawn) ∧
        id ≠ "" ∧ email ≠ "" ∧ after.drawn = before.drawn + 1 ∧
        after.keys = before.keys.enroll (service.tokenAt before.drawn)
          ⟨id, email, kind, clock s, expiry⟩) ∨
      (∀ id email kind token,
        Exchange.mk call (backing call s).result ≠ .issued id email kind token) ∧
      after.drawn = before.drawn ∧
        (after.keys = before.keys ∨
          ∃ token, after.keys = (before.keys.resolve token (clock s)).2)) := by
  intro before after
  cases haction : service.onCall? call with
  | none =>
    have hafter : after = before.at (clock s) := relays.others call haction s
    rw [hafter]
    refine ⟨rfl, Or.inr ⟨Exchange.ne_issued ?_ _, rfl, Or.inl rfl⟩⟩
    rintro id email kind rfl
    cases haction
  | some action =>
    obtain ⟨⟨error, herror⟩, hafter⟩ | ⟨hresult, hafter⟩ := relays.relayed call action haction s
    · have hafter : after = before.at (clock s) := hafter
      rw [hafter, herror]
      exact ⟨rfl, Or.inr ⟨Exchange.error_ne_issued call error, rfl, Or.inl rfl⟩⟩
    · have hafter : after = (action (before.at (clock s))).state := hafter
      rw [hafter, hresult]
      cases call with
      | issue id email kind =>
        cases haction
        rw [LocalIdentity.issue_run]
        by_cases howner : id = "" ∨ email = ""
        · rw [if_pos howner]
          exact ⟨rfl, Or.inr ⟨Exchange.error_ne_issued _ _, rfl, Or.inl rfl⟩⟩
        · rw [if_neg howner]
          obtain ⟨hid, hemail⟩ := not_or.mp howner
          cases (before.at (clock s)).now.add? (service.lifetime kind) with
          | none => exact ⟨rfl, Or.inr ⟨Exchange.error_ne_issued _ _, rfl, Or.inl rfl⟩⟩
          | some expiry => exact ⟨rfl, Or.inl ⟨id, email, kind, expiry, rfl, hid, hemail, rfl, rfl⟩⟩
      | identify token =>
        cases haction
        exact ⟨rfl, Or.inr ⟨Exchange.ne_issued (by simp) _, rfl, Or.inr ⟨token, rfl⟩⟩⟩
      | members token group offset limit memberType =>
        cases haction
        rw [LocalIdentity.members_state]
        exact ⟨rfl, Or.inr ⟨Exchange.ne_issued (by simp) _, rfl, Or.inr ⟨token, rfl⟩⟩⟩
      | authorize tuple =>
        cases haction
        rw [(LocalIdentity.authorize_run service tuple _).2]
        exact ⟨rfl, Or.inr ⟨Exchange.ne_issued (by simp) _, rfl, Or.inl rfl⟩⟩
      | addPolicy tuple =>
        cases haction
        rw [(LocalIdentity.addPolicy_run service tuple _).2]
        exact ⟨rfl, Or.inr ⟨Exchange.ne_issued (by simp) _, rfl, Or.inl rfl⟩⟩
      | _ => cases haction

/-- A token that is answered for resolves. -/
theorem resolve_of_identify (relays : backing.Relays service identity clock) {token : String}
    {caller : Identity} (h : (backing (.identify token) s).result = .ok caller) :
    ((identity s).keys.resolve token (clock s)).1 = .ok caller := by
  obtain ⟨⟨error, herror⟩, _⟩ | ⟨hresult, _⟩ := relays.relayed (.identify token) _ rfl s
  · rw [herror] at h
    cases h
  · exact hresult.symm.trans h

/-- A question of permission leaves the keys alone. -/
theorem keys_authorize (relays : backing.Relays service identity clock) (t : RelationTuple) :
    (identity (backing (.authorize t) s).state).keys = (identity s).keys := by
  obtain ⟨_, hafter⟩ | ⟨_, hafter⟩ := relays.relayed (.authorize t) _ rfl s
  · rw [hafter]
    rfl
  · rw [hafter, (LocalIdentity.authorize_run service t _).2]
    rfl

/-! ## What a call does to the tuples -/

variable {tuples : α → Set RelationTuple}

/-- Only a grant that is answered with yes adds a tuple. -/
theorem tuples_call (relays : backing.Relays service identity clock)
    (keeps : service.agent.Keeps tuples) (call : BackingCall) (s : σ) :
    tuples (identity (backing call s).state).agent =
      tuples (identity s).agent ∪ (Exchange.mk call (backing call s).result).grants := by
  cases haction : service.onCall? call with
  | none =>
    rw [Exchange.grants_eq_empty, Set.union_empty, relays.others call haction s]
    · rfl
    · rintro t rfl
      cases haction
  | some action =>
    obtain ⟨⟨error, herror⟩, hafter⟩ | ⟨hresult, hafter⟩ := relays.relayed call action haction s
    · rw [herror, Exchange.grants_error, Set.union_empty, hafter]
      rfl
    · cases call with
      | issue id email kind =>
        cases haction
        rw [Exchange.grants_eq_empty (by simp), Set.union_empty, hafter, LocalIdentity.issue_run]
        split_ifs
        · rfl
        · split <;> rfl
      | identify token =>
        cases haction
        rw [Exchange.grants_eq_empty (by simp), Set.union_empty, hafter]
        rfl
      | members token group offset limit memberType =>
        cases haction
        rw [Exchange.grants_eq_empty (by simp), Set.union_empty, hafter,
          LocalIdentity.members_state]
        rfl
      | authorize tuple =>
        cases haction
        rw [Exchange.grants_eq_empty (by simp), Set.union_empty, hafter,
          (LocalIdentity.authorize_run service tuple _).2]
        exact keeps.asked tuple _
      | addPolicy tuple =>
        cases haction
        rw [hresult, hafter, (LocalIdentity.addPolicy_run service tuple _).1,
          (LocalIdentity.addPolicy_run service tuple _).2]
        cases hadd : (service.agent.add tuple ((identity s).at (clock s)).agent).result with
        | ok _ =>
          refine (keeps.granted tuple _ hadd).trans ?_
          change _ = _ ∪ (Exchange.granted tuple).grants
          rw [Exchange.grants_granted, Set.union_singleton]
          rfl
        | error error =>
          refine (keeps.refused tuple _ error hadd).trans ?_
          change _ = _ ∪ (Exchange.mk (.addPolicy tuple) (.error (.authorization error))).grants
          rw [Exchange.grants_error, Set.union_empty]
          rfl
      | _ => cases haction

/-- What is answered with yes is among the tuples. -/
theorem mem_of_authorize (relays : backing.Relays service identity clock)
    (keeps : service.agent.Keeps tuples) {t : RelationTuple}
    (h : (backing (.authorize t) s).result = .ok true) : t ∈ tuples (identity s).agent := by
  obtain ⟨⟨error, herror⟩, _⟩ | ⟨hresult, _⟩ := relays.relayed (.authorize t) _ rfl s
  · rw [herror] at h
    cases h
  · rw [hresult, (LocalIdentity.authorize_run service t _).1, Except.ok.injEq] at h
    apply keeps.known t
    change (service.agent.check t (identity s).agent).result.isOk = true at h
    cases hcheck : (service.agent.check t (identity s).agent).result with
    | ok _ => rfl
    | error error =>
      rw [hcheck] at h
      cases h

end Backing.Relays

end AccessControl
