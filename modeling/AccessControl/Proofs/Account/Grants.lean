import AccessControl.Proofs.Account.Calls
import AccessControl.Proofs.Account.Conditions
import AccessControl.Proofs.Account.Registration

/-!
# What requests grant

The tuples behind the account service are those that were there before, and those that were granted
by calls of its own (`AccountService.mem_tuples_serve`). Only registrations grant tuples, each at
most the ownership of the id that it draws. So no run of requests changes who may register users,
and while registration is closed, whoever is not an administrator from the start is refused.
-/

namespace AccessControl

open AccessControl.Calendar

variable {σ α ω : Type}

/-! ## The grants of a request -/

/-- The tuples behind a request are those before it and those it granted. -/
theorem AccountService.mem_tuples_serve {service : AccountService σ} {identifier : LocalIdentity α}
    {identity : σ → IdentityState α} {clock : σ → Timestamp} {tuples : α → Set RelationTuple}
    (relays : service.backing.Relays identifier identity clock)
    (keeps : identifier.agent.Keeps tuples) (request : ServiceCall) (s : σ) (t : RelationTuple) :
    t ∈ tuples (identity (service.serve request s).state).agent ↔
      t ∈ tuples (identity s).agent ∨ .granted t ∈ service.exchanges request s := by
  refine exchanges_induction (motive := fun s calls s' => t ∈ tuples (identity s').agent ↔
    t ∈ tuples (identity s).agent ∨ Exchange.granted t ∈ calls) ?_ ?_ request s
  · intro s
    simp
  · intro s call calls s' ih
    rw [ih, relays.tuples_call keeps, Set.mem_union, Exchange.mem_grants, List.mem_cons, or_assoc,
      eq_comm]

theorem Exchange.granted_eq_iff {t tuple : RelationTuple} {answer : Except IdentityError Bool} :
    granted t = ⟨.addPolicy tuple, answer⟩ ↔ t = tuple ∧ answer = .ok true := by
  constructor
  · intro h
    cases h
    exact ⟨rfl, rfl⟩
  · rintro ⟨rfl, rfl⟩
    rfl

/-- A hash could not be made, or a record could not be saved. -/
def Unfinished (calls : List Exchange) : Prop :=
  (∃ password failure, ⟨.hash password, .error failure⟩ ∈ calls) ∨
    ∃ user error, ⟨.save user, .error error⟩ ∈ calls

/-- A registration is unfinished in one of two stretches of calls. -/
theorem unfinished_append {first second : List Exchange} :
    Unfinished (first ++ second) ↔ Unfinished first ∨ Unfinished second := by
  simp only [Unfinished, List.mem_append, exists_or]
  exact or_or_or_comm

section Calls

variable {token : String} {user : User} {accepts : String → Bool} {gate calls : List Exchange}
  {passes : Bool} {result : Except AccountError String} {t : RelationTuple}

/-- The gate of registration grants nothing. -/
theorem Gate.not_grants (gated : Gate token gate passes) : .granted t ∉ gate := by
  intro h
  rcases gated.call_cases h with ⟨_, h⟩ | ⟨h, _⟩ <;> cases h

/-- The gate of registration leaves nothing unfinished. -/
theorem Gate.not_unfinished (gated : Gate token gate passes) : ¬ Unfinished gate := by
  rintro (⟨password, failure, h⟩ | ⟨user, error, h⟩) <;>
    rcases gated.call_cases h with ⟨_, h⟩ | ⟨h, _⟩ <;> cases h

/-- An enrolment grants nothing, or ownership of the id it draws; if it fails behind the grant, it
is for want of a hash or because the record cannot be saved. -/
theorem Enrolment.grants_cases (enrolment : Enrolment user calls result) :
    (∀ t, .granted t ∉ calls) ∧ ¬ Unfinished calls ∨
      ∃ id, ⟨.freshId, .ok id⟩ ∈ calls ∧ (∀ t, .granted t ∈ calls ↔ t = .ownership id) ∧
        ((∃ error, result = .error error) → Unfinished calls) := by
  cases enrolment with
  | undrawn failure =>
    left
    simp [Unfinished, Exchange.granted]
  | ungranted id refused =>
    left
    refine ⟨fun t h => ?_, by simp [Unfinished]⟩
    simp only [List.mem_cons, List.not_mem_nil, or_false, Exchange.granted_eq_iff] at h
    rcases h with h | h
    · cases h
    · exact refused h.2
  | unhashed id failure =>
    refine Or.inr ⟨id, List.mem_cons_self, fun t => ?_,
      fun _ => Or.inl ⟨user.password, failure, ?_⟩⟩
    · simp only [List.mem_cons, List.not_mem_nil, or_false, Exchange.granted_eq_iff]
      simp [Exchange.granted]
    · exact List.mem_cons_of_mem _ (List.mem_cons_of_mem _ List.mem_cons_self)
  | saved id hash =>
    refine Or.inr ⟨id, List.mem_cons_self, fun t => ?_, ?_⟩
    · simp only [List.mem_cons, List.not_mem_nil, or_false, Exchange.granted_eq_iff]
      simp [Exchange.granted]
    · rintro ⟨error, rfl⟩
      refine Or.inr ⟨{ user with id := id, password := hash }, error, ?_⟩
      simp

/-- A registration grants what its enrolment grants, if it comes to one. -/
theorem Registration.grants_cases (registration : Registration accepts token user calls result) :
    (∀ t, .granted t ∉ calls) ∧ ¬ Unfinished calls ∨
      ∃ id, ⟨.freshId, .ok id⟩ ∈ calls ∧ (∀ t, .granted t ∈ calls ↔ t = .ownership id) ∧
        ((∃ error, result = .error error) → Unfinished calls) := by
  cases registration with
  | stopped refused => exact Or.inl ⟨fun _ => refused.not_grants, refused.not_unfinished⟩
  | malformed passed _ => exact Or.inl ⟨fun _ => passed.not_grants, passed.not_unfinished⟩
  | @enrolled gate calls _ passed _ enrolment =>
    have hgrants : ∀ t, .granted t ∈ gate ++ calls ↔ .granted t ∈ calls := fun t => by
      rw [List.mem_append, or_iff_right passed.not_grants]
    have hunfinished : Unfinished (gate ++ calls) ↔ Unfinished calls := by
      rw [unfinished_append, or_iff_right passed.not_unfinished]
    simp only [hgrants, hunfinished]
    refine enrolment.grants_cases.imp_right ?_
    rintro ⟨id, hdrawn, hgranted⟩
    exact ⟨id, List.mem_append_right _ hdrawn, hgranted⟩

end Calls

/-- Only a registration grants tuples. -/
theorem AccountService.not_grants {service : AccountService σ} {request : ServiceCall} {s : σ}
    (h : ∀ token user, request ≠ .register token user) (t : RelationTuple) :
    .granted t ∉ service.exchanges request s := by
  intro hgranted
  have may := exchanges_only (request.script_only service.accepts) _ hgranted
  cases request with
  | register token user => exact h token user rfl
  | _ => exact may

/-! ## Closed registration -/

namespace Script

variable {backing : Backing σ} {s : σ} {token : String}

/-- Whoever is not let in is told that credentials are missing. -/
theorem checkRegistration_kind (backing : Backing σ) (token : String) (s : σ) :
    (checkRegistration token).Ensures backing s fun result _ =>
      ∀ error, result = .error error → error.kind = .unauthorized := by
  rw [checkRegistration, ensures_bind, ensures_attempt]
  refine ensures_authorize (fun _ => ?_) fun _ _ => ?_
  · rw [onward_ok, ensures_log]
    rintro _ ⟨⟩
  · rw [onward_ok, ensures_ite]
    refine ⟨fun _ => ?_, fun _ => ?_⟩
    · rw [ensures_fail]
      rintro _ ⟨⟩
      rfl
    · rw [ensures_bind, identify, ensures_ask]
      refine ⟨fun caller _ => ?_, fun cause _ => ?_⟩
      · rw [onward_ok, ensures_mapError]
        refine ensures_authorize (fun _ _ h => by cases h) fun _ cause => ?_
        rintro _ ⟨⟩
        rfl
      · rw [onward_error]
        rintro _ ⟨⟩
        rfl

/-- The gate opens for everyone if anyone may create users, and else for administrators only. -/
theorem checkRegistration_opens {service : LocalIdentity α} {identity : σ → IdentityState α}
    {clock : σ → Timestamp} {tuples : α → Set RelationTuple}
    (relays : backing.Relays service identity clock) (keeps : service.agent.Keeps tuples) :
    (checkRegistration token).Ensures backing s fun result _ => result = .ok () →
      .bootstrap ∈ tuples (identity s).agent ∨
      ∃ caller, ((identity s).keys.resolve token
          (clock (backing (.authorize .bootstrap) s).state)).1 = .ok caller ∧
        .authority caller.id ∈ tuples (identity s).agent := by
  -- neither asking nor looking the caller up changes the tuples
  have hkept : ∀ {call : BackingCall} (s : σ), (∀ t, call ≠ .addPolicy t) →
      tuples (identity (backing call s).state).agent = tuples (identity s).agent := by
    intro call s h
    rw [relays.tuples_call keeps, Exchange.grants_eq_empty h, Set.union_empty]
  rw [checkRegistration, ensures_bind, ensures_attempt]
  refine ensures_authorize (fun hopen => ?_) fun _ _ => ?_
  · rw [onward_ok, ensures_log]
    exact fun _ => Or.inl (relays.mem_of_authorize keeps hopen)
  · rw [onward_ok, ensures_ite]
    refine ⟨fun _ h => (by cases h), fun _ => ?_⟩
    rw [ensures_bind, identify, ensures_ask]
    refine ⟨fun caller hcaller => ?_, fun _ _ h => by cases h⟩
    rw [onward_ok, ensures_mapError]
    refine ensures_authorize (fun hyes _ => Or.inr ⟨caller, ?_, ?_⟩) fun _ _ h => by cases h
    · rw [← relays.keys_authorize .bootstrap]
      exact relays.resolve_of_identify hcaller
    · have hmem := relays.mem_of_authorize keeps hyes
      rwa [hkept _ (by simp), hkept _ (by simp)] at hmem

/-- Behind a gate that is closed nothing is done. -/
theorem register_run_of_refused (accepts : String → Bool) (user : User) {error : AccountError}
    (h : ((checkRegistration token).run backing s).result = .error error) :
    (register accepts token user).run backing s =
      ⟨.error error, ((checkRegistration token).run backing s).events,
        ((checkRegistration token).run backing s).state⟩ := by
  simp only [register, run_bind, Action.bind_run]
  rcases hrun : (checkRegistration token).run backing s with ⟨_ | _, events, s'⟩ <;>
    rw [hrun] at h <;> cases h
  rfl

end Script

/-! ## Runs -/

namespace AccountService

section Runs

variable {service : AccountService σ} {identifier : LocalIdentity α}
  {identity : σ → IdentityState α} {clock : σ → Timestamp} {tuples : α → Set RelationTuple} {s : σ}

/-- The tuples behind a run are those before it and those that its requests granted. -/
theorem mem_tuples_serveAll (relays : service.backing.Relays identifier identity clock)
    (keeps : identifier.agent.Keeps tuples) (requests : List ServiceCall) (t : RelationTuple) :
    t ∈ tuples (identity (service.serveAll s requests)).agent ↔ t ∈ tuples (identity s).agent ∨
      ∃ earlier request later, requests = earlier ++ request :: later ∧
        .granted t ∈ service.exchanges request (service.serveAll s earlier) := by
  induction requests generalizing s with
  | nil => simp [serveAll]
  | cons first requests ih =>
    rw [serveAll_cons, ih, mem_tuples_serve relays keeps, or_assoc]
    refine or_congr_right ⟨?_, ?_⟩
    · rintro (h | ⟨earlier, request, later, rfl, h⟩)
      · exact ⟨[], first, requests, rfl, h⟩
      · exact ⟨first :: earlier, request, later, rfl, h⟩
    · rintro ⟨earlier, request, later, hsplit, h⟩
      cases earlier with
      | nil =>
        obtain ⟨rfl, rfl⟩ := List.cons_eq_cons.mp hsplit
        exact Or.inl h
      | cons _ earlier =>
        obtain ⟨rfl, rfl⟩ := List.cons_eq_cons.mp hsplit
        exact Or.inr ⟨earlier, request, later, rfl, h⟩

/-- A run adds only ownership of ids that its registrations drew. -/
theorem origin_of_mem_tuples (relays : service.backing.Relays identifier identity clock)
    (keeps : identifier.agent.Keeps tuples) {requests : List ServiceCall} {t : RelationTuple}
    (h : t ∈ tuples (identity (service.serveAll s requests)).agent) :
    t ∈ tuples (identity s).agent ∨
      ∃ earlier token user later id, requests = earlier ++ .register token user :: later ∧
        ⟨.freshId, .ok id⟩ ∈
          service.exchanges (.register token user) (service.serveAll s earlier) ∧
        t = .ownership id := by
  refine ((mem_tuples_serveAll relays keeps requests t).mp h).imp_right ?_
  rintro ⟨earlier, request, later, rfl, hgranted⟩
  cases request with
  | register token user =>
    obtain ⟨hnone, _⟩ | ⟨id, hdrawn, hgrants, _⟩ :=
      (service.register_exchanges token user (service.serveAll s earlier)).grants_cases
    · exact absurd hgranted (hnone t)
    · exact ⟨earlier, token, user, later, id, rfl, hdrawn, (hgrants t).mp hgranted⟩
  | _ => exact absurd hgranted (not_grants (by simp) t)

/-- While registration is closed, whoever is not an administrator is refused before an id is drawn,
and only the identity service is called. -/
theorem register_refused (relays : service.backing.Relays identifier identity clock)
    (keeps : identifier.agent.Keeps tuples) {token : String} (user : User)
    (closed : .bootstrap ∉ tuples (identity s).agent)
    (nobody : ∀ caller, ((identity s).keys.resolve token
        (clock (service.backing (.authorize .bootstrap) s).state)).1 = .ok caller →
      .authority caller.id ∉ tuples (identity s).agent) :
    (∃ error, (service.serve (.register token user) s).result = .error error ∧
      error.kind = .unauthorized) ∧
    (∀ ending, ⟨.freshId, ending⟩ ∉ service.exchanges (.register token user) s) ∧
    (service.serve (.register token user) s).state =
      ((Script.checkRegistration token).run service.backing s).state := by
  have hopens : (Script.checkRegistration token).Ensures service.backing s _ :=
    Script.checkRegistration_opens relays keeps
  have hkind := Script.checkRegistration_kind service.backing token s
  cases hresult : ((Script.checkRegistration token).run service.backing s).result with
  | ok _ =>
    obtain hopen | ⟨caller, hcaller, hadmin⟩ := hopens hresult
    · exact absurd hopen closed
    · exact absurd hadmin (nobody caller hcaller)
  | error error =>
    have hrun := Script.register_run_of_refused service.accepts user hresult
    refine ⟨⟨error, congrArg Outcome.result hrun, hkind error hresult⟩, ?_,
      congrArg Outcome.state hrun⟩
    -- with the calls recorded, the gate is all there is as well
    have hrecorded :
        ((Script.checkRegistration token).run service.backing.recorded (s, [])).result =
          .error error := (Script.run_recorded service.backing _ s []).1.trans hresult
    have hcalls : service.exchanges (.register token user) s =
        ((Script.checkRegistration token).run service.backing.recorded (s, [])).state.2 :=
      congrArg (·.state.2) (Script.register_run_of_refused service.accepts user hrecorded)
    have hgates : (Script.checkRegistration token).Ensures service.backing.recorded (s, []) _ :=
      Script.checkRegistration_exchanges token
    obtain ⟨gate, hgate, gated⟩ := hgates
    rw [hcalls, hgate, List.nil_append]
    intro ending h
    rcases gated.call_cases h with ⟨_, h⟩ | ⟨h, _⟩ <;> cases h

end Runs

end AccountService

/-! ## The agent in memory -/

/-- An identity service with the agent in memory, some of whose requests fail. -/
def LocalIdentity.withTuples (lifetime : KeyKind → Duration) (tokenAt : Nat → String)
    (outage : Nat → Option PolicyError) : LocalIdentity (TupleSet × Nat) :=
  { lifetime, tokenAt, agent := TupleSet.agent.failing outage }

namespace LocalIdentity

/-- The state with the clock of the identity service at a given time. -/
def showing (s : IdentityState α × ω) (now : Timestamp) : IdentityState α × ω :=
  (s.1.at now, s.2)

/-- The account service over an identity service and any repository, hasher, mailer and source of
ids, at work under conditions. -/
def guarding (service : LocalIdentity α) (others : Backing ω) (accepts : String → Bool)
    (conditions : Conditions) : AccountService ((IdentityState α × ω) × Nat) :=
  ⟨(service.inFrontOf others).under showing conditions, accepts⟩

variable {service : LocalIdentity α} {others : Backing ω} {accepts : String → Bool}
  {conditions : Conditions}

/-- Behind the guard, the backing still relays the identity service. -/
theorem guarding_relays : (service.guarding others accepts conditions).backing.Relays service
    (fun s => s.1.1) fun s => conditions.clock s.2 := by
  show ((service.inFrontOf others).under showing conditions).Relays _ _ _
  exact (service.inFrontOf_relays others).under fun _ _ => rfl

/-- What belongs to the identity service does not reach the others. -/
theorem guarding_others {call : BackingCall} (h : (service.onCall? call).isSome = true)
    (s : (IdentityState α × ω) × Nat) :
    ((service.guarding others accepts conditions).backing call s).state.1.2 = s.1.2 := by
  obtain ⟨_, ⟨_, hstate⟩ | ⟨_, hstate⟩⟩ :=
    Backing.under_cases (service.inFrontOf others) showing conditions call s
  · exact (congrArg Prod.snd hstate).trans rfl
  · exact (congrArg Prod.snd hstate).trans (service.inFrontOf_others h _)

end LocalIdentity

/-- Requests to the account service never take a tuple away, and add only tuples that make an id a
registered user, each drawn by a registration of the run. So nobody gains or loses a relation on
anything but the users, and registration does not open. If it is closed from the start, every
registration by someone who was not an administrator then is refused for want of credentials: no id
is drawn, and nothing changes behind the service but the clock, the keys and the agent's count of
its requests. -/
theorem LocalIdentity.no_escalation (lifetime : KeyKind → Duration) (tokenAt : Nat → String)
    (outage : Nat → Option PolicyError) (others : Backing ω) (accepts : String → Bool)
    (conditions : Conditions) (first : IdentityState (TupleSet × Nat) × ω)
    (requests : List ServiceCall) :
    let service := (withTuples lifetime tokenAt outage).guarding others accepts conditions
    let last := service.serveAll (first, 0) requests
    let before := first.1.agent.1
    let after := last.1.1.agent.1
    before.toSet ⊆ after.toSet ∧
    (∀ t ∈ after.toSet, t ∈ before.toSet ∨
      ∃ earlier token user later id, requests = earlier ++ .register token user :: later ∧
        ⟨.freshId, .ok id⟩ ∈
          service.exchanges (.register token user) (service.serveAll (first, 0) earlier) ∧
        t = .ownership id) ∧
    (TupleSet.agent.check .bootstrap after).result =
      (TupleSet.agent.check .bootstrap before).result ∧
    (∀ t, t.object ≠ Resource.users.name → (t ∈ after.toSet ↔ t ∈ before.toSet)) ∧
    (.bootstrap ∉ before.toSet → ∀ token user,
      (∀ caller, (last.1.1.keys.resolve token (conditions.clock (last.2 + 1))).1 = .ok caller →
        .authority caller.id ∉ before.toSet) →
      let o := service.serve (.register token user) last
      (∃ error, o.result = .error error ∧ error.kind = .unauthorized) ∧
      (∀ ending, ⟨.freshId, ending⟩ ∉ service.exchanges (.register token user) last) ∧
      o.state.1.2 = last.1.2 ∧ o.state.1.1.agent.1.toSet = after.toSet) := by
  intro service last before after
  have relays : service.backing.Relays (withTuples lifetime tokenAt outage) (fun s => s.1.1)
      fun s => conditions.clock s.2 := guarding_relays
  have keeps : (withTuples lifetime tokenAt outage).agent.Keeps fun s => s.1.toSet :=
    TupleSet.keeps.failing outage
  have hgrow : ∀ t, t ∈ before.toSet → t ∈ after.toSet := fun t h =>
    (AccountService.mem_tuples_serveAll relays keeps requests t).mpr (Or.inl h)
  have horigin : ∀ t ∈ after.toSet, t ∈ before.toSet ∨ _ := fun t h =>
    AccountService.origin_of_mem_tuples relays keeps h
  have hother : ∀ t, t.object ≠ Resource.users.name → (t ∈ after.toSet ↔ t ∈ before.toSet) := by
    intro t hobject
    refine ⟨fun h => (horigin t h).resolve_right ?_, hgrow t⟩
    rintro ⟨_, _, _, _, id, _, _, rfl⟩
    exact hobject rfl
  refine ⟨hgrow, horigin, ?_, hother, ?_⟩
  · have hbootstrap := hother .bootstrap (by decide)
    rw [TupleSet.mem_toSet, TupleSet.mem_toSet] at hbootstrap
    rw [TupleSet.check_run, TupleSet.check_run, Bool.eq_iff_iff.mpr hbootstrap]
  · intro closed token user nobody o
    -- the question whether registration is open is one call
    have hcount : (service.backing (.authorize .bootstrap) last).state.2 = last.2 + 1 :=
      (Backing.under_cases _ showing conditions _ last).1
    have hnobody : ∀ caller, (last.1.1.keys.resolve token
        (conditions.clock (service.backing (.authorize .bootstrap) last).state.2)).1 = .ok caller →
        .authority caller.id ∉ after.toSet := by
      intro caller hcaller
      rw [hcount] at hcaller
      rw [hother _ (show Resource.authorities.name ≠ Resource.users.name by decide)]
      exact nobody caller hcaller
    obtain ⟨hrefused, hundrawn, hstate⟩ := AccountService.register_refused relays keeps user
      (mt (hother _ (by decide)).mp closed) hnobody
    refine ⟨hrefused, hundrawn, ?_, ?_⟩
    · refine (congrArg (·.1.2) hstate).trans ?_
      have only : (Script.checkRegistration token).Only fun call =>
          ((withTuples lifetime tokenAt outage).onCall? call).isSome = true :=
        Script.only_checkRegistration (fun _ => rfl) rfl
      exact Script.run_keeps (fun s : (IdentityState (TupleSet × Nat) × ω) × Nat =>
        s.1.2 = last.1.2) (fun call h s hs => (guarding_others h s).trans hs) only rfl
    · ext t
      refine (AccountService.mem_tuples_serve relays keeps _ last t).trans (or_iff_left fun h => ?_)
      obtain ⟨hnone, _⟩ | ⟨id, hdrawn, _⟩ :=
        (service.register_exchanges token user last).grants_cases
      · exact hnone t h
      · exact hundrawn _ hdrawn

/-- An administrator registers an account where registration is closed. A visitor is refused then,
although the source of ids would give an id. -/
theorem LocalIdentity.visitor_refused :
    let now : Timestamp := ⟨0, 0, by decide⟩
    let key : KeyClaims := ⟨"root", "root@x.com", .user, now, ⟨60, 0, by decide⟩⟩
    let first : IdentityState (TupleSet × Nat) × World TupleSet Unit :=
      ({ now, keys := KeyTable.empty.enroll "key" key,
          agent := (TupleSet.ofList [.authority "root"], 0) },
        { identity := { now, agent := TupleSet.empty }, outside := () })
    let service := (withTuples KeyLifetimes.standard.of toString fun _ => none).guarding
      Deployment.miniature.backing (fun _ => true) ⟨fun _ => now, fun _ _ => none⟩
    let last := service.serveAll (first, 0)
      [.register "key" { email := "a@x.com", password := "password a" }]
    let visitor : User := { email := "b@x.com", password := "password b" }
    let o := service.serve (.register "" visitor) last
    .bootstrap ∉ first.1.agent.1.toSet ∧ .ownership "id-1" ∈ last.1.1.agent.1.toSet ∧
      (∃ error, o.result = .error error ∧ error.kind = .unauthorized) ∧
      (∀ ending, ⟨.freshId, ending⟩ ∉ service.exchanges (.register "" visitor) last) ∧
      o.state.1.2 = last.1.2 ∧ o.state.1.1.agent.1.toSet = last.1.1.agent.1.toSet := by
  intro now key first service last visitor o
  have closed : .bootstrap ∉ first.1.agent.1.toSet := by
    rw [TupleSet.mem_toSet]
    decide
  have hgranted : .ownership "id-1" ∈ last.1.1.agent.1.toSet := by
    rw [TupleSet.mem_toSet]
    decide +kernel
  obtain ⟨_, _, _, _, hrefused⟩ := no_escalation KeyLifetimes.standard.of toString (fun _ => none)
    Deployment.miniature.backing (fun _ => true) ⟨fun _ => now, fun _ _ => none⟩ first
    [.register "key" { email := "a@x.com", password := "password a" }]
  -- nobody is resolved under the empty token
  have hnobody (table : KeyTable) (caller : Identity) :
      (table.resolve "" now).1 ≠ .ok caller := by
    simp only [KeyTable.resolve, if_true, ne_eq, reduceCtorEq, not_false_eq_true]
  refine ⟨closed, hgranted, ?_⟩
  with_reducible exact hrefused closed "" visitor fun caller h => absurd h (hnobody _ caller)

end AccessControl
