import AccessControl.Proofs.Account.Locality
import AccessControl.Proofs.Account.Members
import Mathlib.Logic.Equiv.Basic

/-!
# Requests for different accounts

A request that acts for an account is served by a script that stays with the account, and at most
issues a key behind it (`Deployment.exists_servesAs`). So two requests for different accounts can be
served in either order: they come to the same results and to the same state
(`Deployment.different_accounts_commute`). If both issue a key, the two new tokens change places.
-/

namespace AccessControl

open AccessControl.Calendar
open AccountStore (KeepsKeys)

variable {α ω : Type}

/-! ## Requests that act for an account -/

/-- The request acts for the account with an email and for no other: it comes with a token of the
account, or is a login to it. To view an account by its id, the id must be the account's own. -/
def ServiceCall.ActsFor (w : World α ω) (email : String) : ServiceCall → Prop
  | updateUser token _ | resetPassword token _ | changePassword token .. | viewProfile token =>
    (w.caller? token).map (·.email) = some email
  | viewUser token id =>
    (w.caller? token).map (·.email) = some email ∧
      (w.accounts.byEmail? email).map (·.id) = some id
  | login user => user.email = email
  | _ => False

/-- The token that a request has answered. -/
def ServiceCall.newToken? :
    (request : ServiceCall) → Except AccountError request.Answer → Option String
  | login _, .ok token => some token
  | _, _ => none

/-- An answer with other names of tokens. -/
def ServiceCall.renamed (ρ : Equiv.Perm String) :
    (request : ServiceCall) → request.Answer → request.Answer
  | login _, token => ρ token
  | _, x => x

/-- The second state is the first one with other names of tokens. -/
structure IdentityState.Renamed (ρ : Equiv.Perm String) (s s' : IdentityState α) : Prop where
  keys : ∀ token, s'.keys.get? (ρ token) = s.keys.get? token
  groups : s'.groups = s.groups
  agent : s'.agent = s.agent
  drawn : s'.drawn = s.drawn
  now : s'.now = s.now

theorem IdentityState.Renamed.refl (s : IdentityState α) : s.Renamed (Equiv.refl String) s :=
  ⟨fun _ => rfl, rfl, rfl, rfl, rfl⟩

theorem ServiceCall.map_renamed_refl (request : ServiceCall)
    (result : Except AccountError request.Answer) :
    result.map (request.renamed (Equiv.refl String)) = result := by
  have hsame (x : request.Answer) : request.renamed (Equiv.refl String) x = x := by
    cases request <;> rfl
  cases result with
  | error error => rfl
  | ok x => exact congrArg Except.ok (hsame x)

/-! ## What requests do to the identity service -/

/-- The state behind the issue of a key. -/
def IdentityState.enrolled (service : LocalIdentity α) (claims : KeyClaims) (s : IdentityState α) :
    IdentityState α :=
  { s with
    drawn := s.drawn + 1
    keys := s.keys.enroll (service.tokenAt s.drawn) claims }

namespace IdentityState

variable {service : LocalIdentity α} {now : Timestamp} {s : IdentityState α}

/-- A key that is issued takes no other token and drops no live key. -/
theorem resolve_enrolled (drawn : s.Drawn service)
    (distinct : Set.InjOn service.tokenAt (Set.Iic s.drawn)) {claims : KeyClaims}
    (issued : claims.issuedAt = now) {token : String} {caller : Identity}
    (h : (s.keys.resolve token now).1 = .ok caller) :
    ((s.enrolled service claims).keys.resolve token now).1 = .ok caller := by
  obtain ⟨htoken, old, hold, alive, hcaller⟩ := KeyTable.resolve_eq_ok_iff.mp h
  refine KeyTable.resolve_eq_ok_iff.mpr ⟨htoken, old, ?_, alive, hcaller⟩
  have hother : token ≠ service.tokenAt s.drawn := by
    rintro rfl
    rw [drawn.get?_next distinct] at hold
    cases hold
  rw [enrolled, drawn.unique.get?_enroll, if_neg hother, hold, issued,
    Option.filter_some, if_pos (decide_eq_true alive.2)]

/-- The table behind two issues at one time, token by token. -/
theorem get?_enrolled_twice (unique : s.keys.Unique) {first second : KeyClaims}
    (issued : first.issuedAt = now) (issued' : second.issuedAt = now)
    (alive : now < first.expiresAt) (token : String) :
    ((s.enrolled service first).enrolled service second).keys.get? token =
      if token = service.tokenAt (s.drawn + 1) then some second
      else if token = service.tokenAt s.drawn then some first
      else (s.keys.get? token).filter fun old => decide (now < old.expiresAt) := by
  simp only [enrolled]
  rw [(unique.enroll _ _).get?_enroll, unique.get?_enroll, issued, issued']
  by_cases hsecond : token = service.tokenAt (s.drawn + 1)
  · rw [if_pos hsecond, if_pos hsecond]
  · rw [if_neg hsecond, if_neg hsecond]
    by_cases hfirst : token = service.tokenAt s.drawn
    · rw [if_pos hfirst, Option.filter_some, if_pos (decide_eq_true alive)]
    · rw [if_neg hfirst, Option.filter_filter]
      simp only [Bool.and_self]

/-- Two keys that are issued in one order or in the other are the same but for their tokens, which
have changed places. -/
theorem renamed_enrolled_twice (unique : s.keys.Unique)
    (distinct : service.tokenAt s.drawn ≠ service.tokenAt (s.drawn + 1)) {first second : KeyClaims}
    (issued : first.issuedAt = now) (issued' : second.issuedAt = now)
    (alive : now < first.expiresAt) (alive' : now < second.expiresAt) :
    ((s.enrolled service first).enrolled service second).Renamed
      (Equiv.swap (service.tokenAt s.drawn) (service.tokenAt (s.drawn + 1)))
      ((s.enrolled service second).enrolled service first) where
  keys token := by
    rw [get?_enrolled_twice unique issued issued' alive,
      get?_enrolled_twice unique issued' issued alive']
    by_cases hsecond : token = service.tokenAt (s.drawn + 1)
    · rw [hsecond, Equiv.swap_apply_right, if_neg distinct, if_pos rfl, if_pos rfl]
    · by_cases hfirst : token = service.tokenAt s.drawn
      · rw [hfirst, Equiv.swap_apply_left, if_pos rfl, if_neg distinct, if_pos rfl]
      · rw [Equiv.swap_apply_of_ne_of_ne hfirst hsecond, if_neg hsecond, if_neg hfirst,
          if_neg hsecond, if_neg hfirst]
  groups := rfl
  agent := rfl
  drawn := rfl
  now := rfl

end IdentityState

/-- At a time, the action of a request on the identity service does nothing, or it issues a key that
is alive and answers its token. -/
inductive Closing (service : LocalIdentity α) (now : Timestamp) :
    (request : ServiceCall) → Action (IdentityState α) AccountError request.Answer → Prop
  | quiet {request : ServiceCall} {action : Action (IdentityState α) AccountError request.Answer}
      (result : Except AccountError request.Answer)
      (h : ∀ s, s.now = now → (action s).result = result ∧ (action s).state = s) :
      Closing service now request action
  | issues {user : User} {action : Action (IdentityState α) AccountError String}
      (claims : KeyClaims) (issued : claims.issuedAt = now) (alive : now < claims.expiresAt)
      (h : ∀ s, s.now = now → (action s).result = .ok (service.tokenAt s.drawn) ∧
        (action s).state = s.enrolled service claims) :
      Closing service now (.login user) action

namespace Closing

variable {service : LocalIdentity α} {now : Timestamp} {s : IdentityState α}
  {request : ServiceCall} {action : Action (IdentityState α) AccountError request.Answer}

/-- An action that closes a request leaves the clock. -/
theorem now_eq (closing : Closing service now request action) (hnow : s.now = now) :
    (action s).state.now = now := by
  cases closing with
  | quiet result h => rw [(h s hnow).2, hnow]
  | issues claims issued alive h =>
    rw [(h s hnow).2]
    exact hnow

/-- Whatever resolves still does behind the action. -/
theorem resolve (closing : Closing service now request action) (hnow : s.now = now)
    (drawn : s.Drawn service)
    (distinct : ∀ user, request = .login user → Set.InjOn service.tokenAt (Set.Iic s.drawn))
    {token : String} {caller : Identity} (h : (s.keys.resolve token now).1 = .ok caller) :
    ((action s).state.keys.resolve token now).1 = .ok caller := by
  cases closing with
  | quiet result hquiet => rwa [(hquiet s hnow).2]
  | issues claims issued alive hissues =>
    rw [(hissues s hnow).2]
    exact IdentityState.resolve_enrolled drawn (distinct _ rfl) issued h

/-- Keys with a positive lifetime are alive when they are issued. -/
theorem of_issue (service : LocalIdentity α) (lasting : 0 < (service.lifetime .user).nanos)
    (now : Timestamp) (user : User) (id email : String) :
    Closing service now (.login user)
      (Action.mapError (.byIdentity .getToken) (service.issue id email .user)) := by
  by_cases owned : id = "" ∨ email = ""
  · refine .quiet (.error (.byIdentity .getToken (.malformedEntity .keyWithoutOwner))) ?_
    intro s _
    rw [Action.mapError_run, LocalIdentity.issue_run, if_pos owned]
    exact ⟨rfl, rfl⟩
  · cases hexpiry : now.add? (service.lifetime .user) with
    | none =>
      refine .quiet (.error (.byIdentity .getToken
        (.malformedEntity (.lifetimeOutOfRange .user)))) ?_
      intro s hnow
      rw [Action.mapError_run, LocalIdentity.issue_run, if_neg owned, hnow, hexpiry]
      exact ⟨rfl, rfl⟩
    | some expiry =>
      refine .issues ⟨id, email, .user, now, expiry⟩ rfl
        ((Timestamp.lt_add?_iff hexpiry).mpr lasting) ?_
      rintro s rfl
      rw [Action.mapError_run, LocalIdentity.issue_run, if_neg owned, hexpiry]
      exact ⟨rfl, rfl⟩

variable {request' : ServiceCall} {action' : Action (IdentityState α) AccountError request'.Answer}

/-- Two such actions can be made in any order. If both issue a key, the tokens change places. -/
theorem commute (closing : Closing service now request action)
    (closing' : Closing service now request' action') (hnow : s.now = now)
    (unique : s.keys.Unique)
    (distinct : ∀ user, request = .login user →
      service.tokenAt s.drawn ≠ service.tokenAt (s.drawn + 1)) :
    ∃ ρ : Equiv.Perm String,
      (ρ = Equiv.refl String ∨ ∃ token token', request.newToken? (action s).result = some token ∧
        request'.newToken? (action' (action s).state).result = some token' ∧
        ρ = Equiv.swap token token') ∧
      (action (action' s).state).result = (action s).result.map (request.renamed ρ) ∧
      (action' s).result = (action' (action s).state).result.map (request'.renamed ρ) ∧
      (action' (action s).state).state.Renamed ρ (action (action' s).state).state := by
  have hnow' := closing'.now_eq hnow
  cases closing with
  | quiet result h =>
    refine ⟨Equiv.refl String, Or.inl rfl, ?_⟩
    rw [(h _ hnow').1, (h _ hnow').2, (h s hnow).1, (h s hnow).2, ServiceCall.map_renamed_refl,
      ServiceCall.map_renamed_refl]
    exact ⟨rfl, rfl, .refl _⟩
  | issues claims issued alive h =>
    have hlater : (s.enrolled service claims).now = now := hnow
    cases closing' with
    | quiet result h' =>
      refine ⟨Equiv.refl String, Or.inl rfl, ?_⟩
      rw [(h' s hnow).2, (h s hnow).2, (h' _ hlater).1, (h' _ hlater).2, (h' s hnow).1,
        ServiceCall.map_renamed_refl, ServiceCall.map_renamed_refl]
      exact ⟨rfl, rfl, .refl _⟩
    | issues claims' issued' alive' h' =>
      have hlater' : (s.enrolled service claims').now = now := hnow
      refine ⟨Equiv.swap (service.tokenAt s.drawn) (service.tokenAt (s.drawn + 1)),
        Or.inr ⟨_, _, ?_, ?_, rfl⟩, ?_⟩
      · rw [(h s hnow).1]
        rfl
      · rw [(h s hnow).2, (h' _ hlater).1]
        rfl
      · rw [(h' s hnow).1, (h' s hnow).2, (h s hnow).1, (h s hnow).2, (h' _ hlater).1,
          (h' _ hlater).2, (h _ hlater').1, (h _ hlater').2]
        refine ⟨congrArg Except.ok ?_, congrArg Except.ok ?_,
          IdentityState.renamed_enrolled_twice unique (distinct _ rfl) issued issued' alive alive'⟩
        · exact (Equiv.swap_apply_left _ _).symm
        · exact (Equiv.swap_apply_right _ _).symm

end Closing

/-! ## What requests do to the account -/

/-- For a request that acts for an account, the second world is the same as the first: it shows the
same account, the same caller and the same time. -/
structure World.SameFor (request : ServiceCall) (email : String) (w w' : World α ω) : Prop where
  shows : w'.accounts.Shows w.accounts.keys email (w.accounts.byEmail? email)
  caller : ∀ caller, w.callerOf request = some caller → w'.callerOf request = some caller
  now : w'.identity.now = w.identity.now

theorem World.SameFor.refl {request : ServiceCall} {email : String} {w : World α ω}
    (wf : w.accounts.WellFormed) : World.SameFor request email w w :=
  ⟨.of_wellFormed wf email, fun _ h => h, rfl⟩

namespace Deployment

variable {d : Deployment α ω} {w w' : World α ω} {email : String} {request : ServiceCall}

/-- Behind the look at a token that resolves, a script goes on with the caller. -/
theorem run_identify_bind {β : Type} {token : String} {caller : Identity}
    (resolves : w.caller? token = some caller) (next : Identity → Script β) :
    (Script.identify token >>= next).run d.backing w = (next caller).run d.backing w := by
  rw [Script.run_bind, Script.identify, Script.run_ask, Action.bind_run, Action.mapError_run,
    d.backing_identify resolves]
  rfl

/-- A request with a token is served by a script that stays with the account of the token. -/
theorem exists_staying_script (acts : request.ActsFor w email)
    (hlogin : ∀ user, request ≠ .login user) :
    ∃ script : Script request.Answer,
      script.Only (BackingCall.StaysWith w.accounts.keys email) ∧
      ∀ w', World.SameFor request email w w' →
        d.service.serve request w' = script.run d.backing w' := by
  cases request with
  | login user => exact absurd rfl (hlogin user)
  | updateUser token user =>
    obtain ⟨caller, hcaller, rfl⟩ := Option.map_eq_some_iff.mp acts
    refine ⟨_, ?_, fun w' same => run_identify_bind (same.caller _ hcaller) _⟩
    exact Script.only_ask rfl
  | resetPassword token password =>
    obtain ⟨caller, hcaller, rfl⟩ := Option.map_eq_some_iff.mp acts
    have htoken : token ≠ "" :=
      (KeyTable.resolve_eq_ok_iff.mp (World.caller?_eq_some_iff.mp hcaller)).1
    have hscript : Script.resetPassword d.accepts token password = _ := if_neg htoken
    refine ⟨_, ?_, fun w' same => (congrArg (fun script => script.run d.backing w') hscript).trans
      (run_identify_bind (same.caller _ hcaller) _)⟩
    refine Script.only_bind (Script.only_existing rfl) fun _ => ?_
    refine Script.only_bind (Script.only_checkPassword _ _) fun _ => ?_
    exact Script.only_bind (Script.only_ask trivial) fun _ => Script.only_ask rfl
  | changePassword token password old =>
    obtain ⟨caller, hcaller, rfl⟩ := Option.map_eq_some_iff.mp acts
    refine ⟨_, ?_, fun w' same => run_identify_bind (same.caller _ hcaller) _⟩
    refine Script.only_bind (Script.only_checkPassword _ _) fun _ => ?_
    refine Script.only_bind (Script.only_attempt
      (Script.only_authenticate rfl fun _ => trivial)) fun ending => ?_
    cases ending with
    | error _ => exact Script.only_fail
    | ok _ =>
      refine Script.only_bind (Script.only_existing rfl) fun _ => ?_
      exact Script.only_bind (Script.only_ask trivial) fun _ => Script.only_ask rfl
  | viewProfile token =>
    obtain ⟨caller, hcaller, rfl⟩ := Option.map_eq_some_iff.mp acts
    refine ⟨_, ?_, fun w' same => run_identify_bind (same.caller _ hcaller) _⟩
    exact Script.only_bind (Script.only_ask rfl) fun _ => Script.only_pure
  | viewUser token id =>
    obtain ⟨caller, hcaller, rfl⟩ := Option.map_eq_some_iff.mp acts.1
    obtain ⟨own, hown, rfl⟩ := Option.map_eq_some_iff.mp acts.2
    refine ⟨_, ?_, fun w' same => run_identify_bind (same.caller _ hcaller) _⟩
    obtain ⟨hstored, hemail⟩ := AccountStore.mem_of_byEmail? hown
    have hkey := AccountStore.mem_keys_iff.mpr ⟨own, hstored, rfl, hemail⟩
    exact Script.only_bind (Script.only_ask hkey) fun _ => Script.only_pure
  | _ => exact absurd acts id

/-- Wherever the world is the same for it, the request takes the action on the identity service, and
makes the change to the record of the account. -/
def ServesAs (d : Deployment α ω) (w : World α ω) (request : ServiceCall) (email : String)
    (action : Action (IdentityState α) AccountError request.Answer) (f : User → User) : Prop :=
  ∀ w', World.SameFor request email w w' →
    let o := d.service.serve request w'
    o.result = (action w'.identity).result ∧ o.state.identity = (action w'.identity).state ∧
      o.state.accounts = w'.accounts.modifyByEmail email f

/-- A login looks at the account, and issues a key behind it. -/
theorem exists_servesAs_login (functional : d.hasher.Functional)
    (lasting : 0 < (d.identity.lifetime .user).nanos) (w : World α ω) (user : User) :
    ∃ action f, Closing d.identity w.identity.now (.login user) action ∧ KeepsKeys f ∧
      d.ServesAs w (.login user) user.email action f := by
  have hstays : (Script.authenticate user.email user.password).Only
      (BackingCall.StaysWith w.accounts.keys user.email) :=
    Script.only_authenticate rfl fun _ => trivial
  obtain ⟨result, f, hf, hsettles⟩ :=
    Script.exists_settles functional hstays (w.accounts.byEmail? user.email)
  cases result with
  | error error =>
    refine ⟨Action.fail error, f, .quiet (.error error) fun s _ => ⟨rfl, rfl⟩, hf,
      fun w' same => ?_⟩
    obtain ⟨hresult, hidentity, haccounts⟩ := hsettles w' same.shows
    show (Script.login user).Ensures d.backing w' fun result w₁ =>
      result = _ ∧ w₁.identity = _ ∧ w₁.accounts = _
    rw [Script.login, Script.ensures_bind, Script.Ensures, hresult, Script.onward_error]
    exact ⟨rfl, hidentity, haccounts⟩
  | ok stored =>
    refine ⟨_, f, .of_issue d.identity lasting _ user stored.id stored.email, hf,
      fun w' same => ?_⟩
    obtain ⟨hresult, hidentity, haccounts⟩ := hsettles w' same.shows
    show (Script.login user).Ensures d.backing w' fun result w₁ =>
      result = _ ∧ w₁.identity = _ ∧ w₁.accounts = _
    rw [Script.login, Script.ensures_bind, Script.Ensures, hresult, Script.onward_ok, Script.issue,
      Script.Ensures, Script.run_ask, Action.mapError_run, Action.mapError_run, backing_issue,
      hidentity]
    exact ⟨rfl, rfl, haccounts⟩

/-- A request that acts for an account takes a settled course there. -/
theorem exists_servesAs (functional : d.hasher.Functional)
    (lasting : 0 < (d.identity.lifetime .user).nanos) (acts : request.ActsFor w email) :
    ∃ action f, Closing d.identity w.identity.now request action ∧ KeepsKeys f ∧
      d.ServesAs w request email action f := by
  by_cases hlogin : ∃ user, request = .login user
  · obtain ⟨user, rfl⟩ := hlogin
    obtain rfl : user.email = email := acts
    exact exists_servesAs_login functional lasting w user
  · obtain ⟨script, hstays, hserve⟩ :=
      exists_staying_script (d := d) acts fun user h => hlogin ⟨user, h⟩
    obtain ⟨result, f, hf, hsettles⟩ :=
      Script.exists_settles functional hstays (w.accounts.byEmail? email)
    refine ⟨Action.ofExcept result, f, .quiet result fun s _ => ⟨rfl, rfl⟩, hf, fun w' same => ?_⟩
    intro o
    have ho : o = script.run d.backing w' := hserve w' same
    rw [ho]
    exact hsettles w' same.shows

/-! ## Two requests -/

/-- Behind a request for another account, the world is the same for a request. -/
theorem ServesAs.sameFor {other : ServiceCall} {email' : String}
    {action : Action (IdentityState α) AccountError other.Answer} {f : User → User}
    (serves : d.ServesAs w other email' action f)
    (closing : Closing d.identity w.identity.now other action) (hf : KeepsKeys f)
    (wf : w.accounts.WellFormed) (drawn : w.identity.Drawn d.identity)
    (distinct : ∀ user, other = .login user →
      Set.InjOn d.identity.tokenAt (Set.Iic w.identity.drawn)) (h : email ≠ email') :
    World.SameFor request email w (d.service.serve other w).state := by
  obtain ⟨_, hidentity, haccounts⟩ := serves w (.refl wf)
  have hnow : (d.service.serve other w).state.identity.now = w.identity.now :=
    hidentity ▸ closing.now_eq rfl
  constructor
  case shows =>
    rw [haccounts]
    exact (AccountStore.Shows.of_wellFormed wf email).modify_other hf h
  case now => exact hnow
  case caller =>
    intro caller hcaller
    obtain ⟨token, htoken, hresolves⟩ := Option.bind_eq_some_iff.mp hcaller
    refine Option.bind_eq_some_iff.mpr ⟨token, htoken, ?_⟩
    rw [World.caller?_eq_some_iff] at hresolves ⊢
    rw [hnow, hidentity]
    exact closing.resolve rfl drawn distinct hresolves

/-- Wherever a run leads from an empty store and an empty table of keys, whatever calls fail
meanwhile and whatever the clock shows, two requests that act for accounts with different emails can
be served in either order, as long as the hasher answers by its arguments, keys of users have a
positive lifetime, and token strings do not repeat up to those that a login draws. Each of them
comes to the same result, a failure with all that it tells included, and in the end the records, the
keys, the groups and what the agent holds are the same. Nothing is renamed, unless both are logins
that get a token: then the two tokens have changed places. -/
theorem different_accounts_commute (d : Deployment α ω) (conditions : Conditions)
    (identity : IdentityState α) (outside : ω) (moves : List Move)
    (functional : d.hasher.Functional) (lasting : 0 < (d.identity.lifetime .user).nanos)
    (a b : ServiceCall) (email email' : String) (different : email ≠ email') :
    let start : World α ω := { identity := { identity with keys := KeyTable.empty }, outside }
    let w := (d.runUnder conditions (start, 0) moves).1
    ((∃ user, a = .login user ∨ b = .login user) →
      Set.InjOn d.identity.tokenAt (Set.Iic (w.identity.drawn + 1))) →
    a.ActsFor w email → b.ActsFor w email' →
    let a₁ := d.service.serve a w
    let b₁ := d.service.serve b a₁.state
    let b₂ := d.service.serve b w
    let a₂ := d.service.serve a b₂.state
    ∃ ρ : Equiv.Perm String,
      (ρ = Equiv.refl String ∨ ∃ token token', a.newToken? a₁.result = some token ∧
        b.newToken? b₁.result = some token' ∧ ρ = Equiv.swap token token') ∧
      a₂.result = a₁.result.map (a.renamed ρ) ∧ b₂.result = b₁.result.map (b.renamed ρ) ∧
      a₂.state.accounts = b₁.state.accounts ∧
      b₁.state.identity.Renamed ρ a₂.state.identity := by
  intro start w distinct acts acts' a₁ b₁ b₂ a₂
  have wf : w.accounts.WellFormed := wellFormed_runUnder AccountStore.wellFormed_empty moves
  have drawn : w.identity.Drawn d.identity := drawn_runUnder (s := (start, 0)) moves (.of_empty rfl)
  have hnext : ∀ user, a = .login user →
      d.identity.tokenAt w.identity.drawn ≠ d.identity.tokenAt (w.identity.drawn + 1) := by
    intro user ha h
    have hsame := distinct ⟨user, Or.inl ha⟩ (Set.mem_Iic.mpr (Nat.le_succ _))
      (Set.mem_Iic.mpr le_rfl) h
    exact absurd hsame (Nat.succ_ne_self _).symm
  have hfresh : (∃ user, a = .login user ∨ b = .login user) →
      Set.InjOn d.identity.tokenAt (Set.Iic w.identity.drawn) :=
    fun hlogin => (distinct hlogin).mono (Set.Iic_subset_Iic.mpr (Nat.le_succ _))
  obtain ⟨action, f, closing, hf, serves⟩ := exists_servesAs functional lasting acts
  obtain ⟨action', f', closing', hf', serves'⟩ := exists_servesAs functional lasting acts'
  -- each request meets its own world, first or second
  obtain ⟨ha₁, hia₁, hsa₁⟩ := serves w (.refl wf)
  obtain ⟨hb₂, hib₂, hsb₂⟩ := serves' w (.refl wf)
  obtain ⟨hb₁, hib₁, hsb₁⟩ :=
    serves' a₁.state (serves.sameFor closing hf wf drawn
      (fun user ha => hfresh ⟨user, Or.inl ha⟩) different.symm)
  obtain ⟨ha₂, hia₂, hsa₂⟩ :=
    serves b₂.state (serves'.sameFor closing' hf' wf drawn
      (fun user hb => hfresh ⟨user, Or.inr hb⟩) different)
  obtain ⟨ρ, hρ, hrenamed, hrenamed', hstate⟩ := closing.commute closing' rfl drawn.unique hnext
  rw [hia₁] at hb₁ hib₁
  rw [hib₂] at ha₂ hia₂
  refine ⟨ρ, ?_, ?_, ?_, ?_, ?_⟩
  · rw [ha₁, hb₁]
    exact hρ
  · rw [ha₂, ha₁]
    exact hrenamed
  · rw [hb₂, hb₁]
    exact hrenamed'
  · rw [hsa₂, hsb₂, hsb₁, hsa₁]
    exact AccountStore.modifyByEmail_comm hf' hf different.symm
  · rw [hib₁, hia₂]
    exact hstate

/-- A rehearsal's hasher answers by its arguments. -/
theorem functional_plainHasher : (plainHasher ω).Functional where
  hash password := ⟨.ok ("plain:" ++ password), fun _ => rfl⟩
  compare password hash := by
    simp only [plainHasher]
    split
    · split
      · exact ⟨.ok (), fun _ => rfl⟩
      · exact ⟨.error .mismatch, fun _ => rfl⟩
    · exact ⟨.error (.malformedHash "no plain prefix"), fun _ => rfl⟩

/-- One user logs in and another one changes the password, in either order. -/
theorem login_beside_password_change :
    let conditions : Conditions := ⟨fun _ => ⟨0, 0, by decide⟩, fun _ _ => none⟩
    let identity : IdentityState TupleSet :=
      { now := ⟨0, 0, by decide⟩, agent := TupleSet.empty }
    let moves : List Move :=
      [.port (.save { id := "u1", email := "a@x.com", password := "plain:password a" }),
        .port (.save { id := "u2", email := "b@x.com", password := "plain:password b" }),
        .identity (.issue "u2" "b@x.com" .user)]
    let a : ServiceCall := .login { email := "a@x.com", password := "password a" }
    let b : ServiceCall :=
      .changePassword (Uuid.ofEntropy 0).simple "new password b" "password b"
    let start : World TupleSet Unit :=
      { identity := { identity with keys := KeyTable.empty }, outside := () }
    let w := (miniature.runUnder conditions (start, 0) moves).1
    let a₁ := miniature.service.serve a w
    let b₁ := miniature.service.serve b a₁.state
    let b₂ := miniature.service.serve b w
    let a₂ := miniature.service.serve a b₂.state
    a₁.result = .ok (Uuid.ofEntropy 1).simple ∧ a₂.result = a₁.result ∧
      b₁.result = .ok () ∧ b₂.result = b₁.result ∧ a₂.state.accounts = b₁.state.accounts ∧
      b₁.state.identity.Renamed (Equiv.refl String) a₂.state.identity := by
  intro conditions identity moves a b start w a₁ b₁ b₂ a₂
  have acts : b.ActsFor w "b@x.com" := by
    show (w.caller? _).map _ = _
    decide +kernel
  obtain ⟨ρ, rfl | ⟨_, token', _, hb, _⟩, ha₂, hb₂, haccounts, hrenamed⟩ :=
    different_accounts_commute miniature conditions identity () moves functional_plainHasher
      (by decide) a b "a@x.com" "b@x.com" (by decide)
      (fun _ => Uuid.simple_injOn.mono (Set.Iic_subset_Iio.mpr (by decide))) rfl acts
  · rw [ServiceCall.map_renamed_refl] at ha₂ hb₂
    -- the states are compared as they are written; unfolding would serve the requests again
    refine ⟨by decide +kernel, ?_, by decide +kernel, ?_, ?_, ?_⟩
    · with_reducible exact ha₂
    · with_reducible exact hb₂
    · with_reducible exact haccounts
    · with_reducible exact hrenamed
  · cases hb

end Deployment

end AccessControl
