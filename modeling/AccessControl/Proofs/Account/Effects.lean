import AccessControl.Proofs.Account.Calls
import AccessControl.Proofs.Account.Store
import AccessControl.Proofs.Script

/-!
# What requests do to the stored records

`Backing.StoresIn` says that a backing keeps its records in a store that is part of its state: calls
that do not write, and calls that fail, leave the store alone, and writing calls that succeed do to
it what the repository in memory does.

Over such a backing, `AccountService.serve_effect` says all that a request can do to the store. A
request that fails leaves it as it was, and only four requests can change it at all: each of them
makes its one writing call last.
-/

namespace AccessControl

variable {σ : Type}

namespace BackingCall

/-- The email whose record the call changes, and how it changes it. -/
def update? : BackingCall → Option (String × (User → User))
  | updateUser user => some (user.email, ({ · with metadata := user.metadata }))
  | updatePassword email password => some (email, ({ · with password := password }))
  | _ => none

/-- The call may add or change a record. -/
def Writes : BackingCall → Prop
  | save _ | updateUser _ | updatePassword .. => True
  | _ => False

/-- An update among the calls leaves ids and addresses. -/
theorem keepsKeys_of_update? {call : BackingCall} {email : String} {f : User → User}
    (h : call.update? = some (email, f)) : AccountStore.KeepsKeys f := by
  cases call with
  | updateUser user =>
    cases h
    exact AccountStore.keepsKeys_metadata _
  | updatePassword email hash =>
    cases h
    exact AccountStore.keepsKeys_password _
  | _ => cases h

end BackingCall

/-- The request may change a record. -/
def ServiceCall.Writes : ServiceCall → Prop
  | register .. | updateUser .. | resetPassword .. | changePassword .. => True
  | _ => False

/-- The request is meant to change the record of its caller. -/
def ServiceCall.Changes : ServiceCall → Prop
  | updateUser .. | resetPassword .. | changePassword .. => True
  | _ => False

/-- A request that changes a record writes. -/
theorem ServiceCall.Changes.writes {request : ServiceCall} (h : request.Changes) :
    request.Writes := by
  cases request <;> trivial

namespace Backing

/-- A backing answers a call so in some state. -/
def Answers (backing : Backing σ) (call : BackingCall) (x : call.Answer) : Prop :=
  ∃ s, (backing call s).result = .ok x

/-- A backing keeps its records in a store that is part of its state. -/
structure StoresIn (backing : Backing σ) (accounts : σ → AccountStore) : Prop where
  reads : ∀ call, ¬ call.Writes → ∀ s, accounts (backing call s).state = accounts s
  fails : ∀ call s error, (backing call s).result = .error error →
    accounts (backing call s).state = accounts s
  saves : ∀ user s id, (backing (.save user) s).result = .ok id →
    (AccountStore.save user (accounts s)).result = .ok id ∧
      accounts (backing (.save user) s).state = (AccountStore.save user (accounts s)).state
  updates : ∀ call email f, call.update? = some (email, f) →
    ∀ s x, (backing call s).result = .ok x →
      (AccountStore.update email f (accounts s)).result = .ok () ∧
        accounts (backing call s).state = (AccountStore.update email f (accounts s)).state

namespace StoresIn

variable {backing : Backing σ} {accounts : σ → AccountStore}

/-- A call adds a record at the end, or changes one without changing its id or its email. -/
theorem call_cases (stores : backing.StoresIn accounts) (call : BackingCall) (s : σ) :
    accounts (backing call s).state = accounts s ∨
    (∃ user, user.id ≠ "" ∧ (accounts s).byEmail? user.email = none ∧
      (accounts s).byId? user.id = none ∧
      accounts (backing call s).state = ⟨(accounts s).users ++ [user]⟩) ∨
    ∃ email f, AccountStore.KeepsKeys f ∧
      accounts (backing call s).state = (accounts s).modifyByEmail email f := by
  cases h : (backing call s).result with
  | error error => exact Or.inl (stores.fails call s error h)
  | ok x =>
    cases hcall : call.update? with
    | some change =>
      obtain ⟨email, f⟩ := change
      obtain ⟨hupdate, hstate⟩ := stores.updates call email f hcall s x h
      exact Or.inr (Or.inr ⟨email, f, BackingCall.keepsKeys_of_update? hcall,
        hstate.trans (AccountStore.update_of_ok hupdate).2⟩)
    | none =>
      cases call with
      | save user =>
        obtain ⟨hsave, hstate⟩ := stores.saves user s x h
        obtain ⟨_, hid, hemail, hfresh, hafter⟩ := AccountStore.save_of_ok hsave
        exact Or.inr (Or.inl ⟨user, hid, hemail, hfresh, hstate.trans hafter⟩)
      | updateUser | updatePassword => cases hcall
      | _ => exact Or.inl (stores.reads _ id s)

/-- No call breaks the store. -/
theorem wellFormed_call (stores : backing.StoresIn accounts) (call : BackingCall) {s : σ}
    (wf : (accounts s).WellFormed) : (accounts (backing call s).state).WellFormed := by
  obtain h | ⟨user, hid, hemail, hfresh, h⟩ | ⟨email, f, hf, h⟩ := stores.call_cases call s <;>
    rw [h]
  · exact wf
  · exact wf.append hid hemail hfresh
  · exact wf.modifyByEmail hf

/-- Ids and emails stay, and new ones come behind them. -/
theorem keys_call (stores : backing.StoresIn accounts) (call : BackingCall) (s : σ) :
    (accounts s).keys <+: (accounts (backing call s).state).keys := by
  obtain h | ⟨user, _, _, _, h⟩ | ⟨email, f, hf, h⟩ := stores.call_cases call s
  · exact h ▸ List.prefix_rfl
  · rw [h, AccountStore.keys_append]
    exact List.prefix_append _ _
  · have hkeys : (accounts (backing call s).state).keys = (accounts s).keys :=
      h ▸ AccountStore.keys_modifyByEmail hf
    exact hkeys ▸ List.prefix_rfl

end StoresIn

end Backing

/-! ## Scripts that do not write -/

namespace Script

/-- The script makes no writing call. -/
abbrev Reads {α : Type} (script : Script α) : Prop :=
  script.Only fun call => ¬ call.Writes

/-- Only four requests write. -/
theorem reads_of_not_writes (accepts : String → Bool) {request : ServiceCall}
    (h : ¬ request.Writes) : (request.script accepts).Reads := by
  apply (request.script_only accepts).mono
  intro call may writes
  cases request with
  | register | updateUser | resetPassword | changePassword => exact h trivial
  | _ => cases call <;> first | exact may | exact writes

end Script

/-! ## Scripts that write -/

/-- All that a request can do to the store, and how it ends then. -/
inductive Effect (service : AccountService σ) (accounts : σ → AccountStore) (s : σ) :
    (request : ServiceCall) → Except AccountError request.Answer → AccountStore → Prop
  /-- The store is as it was. -/
  | kept {request : ServiceCall} {result : Except AccountError request.Answer}
      (failed : request.Writes → ∃ error, result = .error error) :
      Effect service accounts s request result (accounts s)
  /-- A record was saved under an id drawn for it. -/
  | registered {token : String} {user : User} {id hash : String}
      (valid : user.validate = .ok ()) (accepted : service.accepts user.password = true)
      (fresh : service.backing.Answers .freshId id)
      (hashed : service.backing.Answers (.hash user.password) hash)
      (saved : (AccountStore.save { user with id := id, password := hash } (accounts s)).result =
        .ok id) :
      Effect service accounts s (.register token user) (.ok id)
        ⟨(accounts s).users ++ [{ user with id := id, password := hash }]⟩
  /-- The caller got new metadata. -/
  | updated {token : String} {user : User} {caller : Identity}
      (resolved : (service.backing (.identify token) s).result = .ok caller)
      (there : ∃ u, (accounts s).byEmail? caller.email = some u) :
      Effect service accounts s (.updateUser token user) (.ok ())
        ((accounts s).modifyByEmail caller.email ({ · with metadata := user.metadata }))
  /-- The caller got a new password by a token sent by mail. -/
  | reset {token password : String} {caller : Identity} {hash : String}
      (resolved : (service.backing (.identify token) s).result = .ok caller)
      (there : ∃ u, (accounts s).byEmail? caller.email = some u)
      (accepted : service.accepts password = true)
      (hashed : service.backing.Answers (.hash password) hash) :
      Effect service accounts s (.resetPassword token password) (.ok ())
        ((accounts s).modifyByEmail caller.email ({ · with password := hash }))
  /-- The caller got a new password by giving the old one. -/
  | changed {token password old : String} {caller : Identity} {hash : String}
      (resolved : (service.backing (.identify token) s).result = .ok caller)
      (there : ∃ u, (accounts s).byEmail? caller.email = some u)
      (accepted : service.accepts password = true)
      (hashed : service.backing.Answers (.hash password) hash) :
      Effect service accounts s (.changePassword token password old) (.ok ())
        ((accounts s).modifyByEmail caller.email ({ · with password := hash }))

section Effects

variable {service : AccountService σ} {accounts : σ → AccountStore} {s s' : σ}

/-- A request that fails without writing has the effect of a failure. -/
theorem Effect.of_error {request : ServiceCall} {error : AccountError} {store : AccountStore}
    (h : store = accounts s) : Effect service accounts s request (.error error) store :=
  h ▸ .kept fun _ => ⟨error, rfl⟩

/-- A request that fails leaves the store as it was. -/
theorem Effect.eq_of_error {request : ServiceCall} {error : AccountError} {store : AccountStore}
    (effect : Effect service accounts s request (.error error) store) : store = accounts s := by
  cases effect with
  | kept _ => rfl

/-- Behind a script that does not write, the store is as it was. -/
theorem Backing.StoresIn.ensures_bind {α β : Type} (stores : service.backing.StoresIn accounts)
    {first : Script α} (reads : first.Reads) {next : α → Script β} (hs' : accounts s' = accounts s)
    {post : Except AccountError β → σ → Prop}
    (stop : ∀ error s'', accounts s'' = accounts s → post (.error error) s'')
    (go : ∀ x s'', (first.run service.backing s').result = .ok x → accounts s'' = accounts s →
      (next x).Ensures service.backing s'' post) :
    (first >>= next).Ensures service.backing s' post :=
  Script.ensures_bind_of_only (fun call h s₁ hs₁ => (stores.reads call h s₁).trans hs₁) reads hs'
    stop go

/-- A record is saved as the store saves it. -/
theorem Backing.StoresIn.ensures_save (stores : service.backing.StoresIn accounts) {user : User}
    (hs' : accounts s' = accounts s) {post : Except AccountError String → σ → Prop}
    (stop : ∀ error s'', accounts s'' = accounts s → post (.error error) s'')
    (go : ∀ s'', (AccountStore.save user (accounts s)).result = .ok user.id →
      accounts s'' = ⟨(accounts s).users ++ [user]⟩ → post (.ok user.id) s'') :
    (Script.ask (.save user) fun error => error).Ensures service.backing s' post := by
  rw [Script.ensures_ask]
  refine ⟨fun saved hsaved => ?_, fun error herror => ?_⟩
  · obtain ⟨hsave, hstate⟩ := stores.saves _ _ _ hsaved
    rw [hs'] at hsave hstate
    obtain ⟨hid, _, _, _, hafter⟩ := AccountStore.save_of_ok hsave
    rw [hid] at hsave ⊢
    exact go _ hsave (hstate.trans hafter)
  · exact stop _ _ ((stores.fails _ _ _ herror).trans hs')

/-- A record is changed as the store changes it. -/
theorem Backing.StoresIn.ensures_update (stores : service.backing.StoresIn accounts)
    {call : BackingCall} {report : call.Failure → AccountError} {email : String} {f : User → User}
    (hcall : call.update? = some (email, f)) (hs' : accounts s' = accounts s)
    {post : Except AccountError call.Answer → σ → Prop}
    (stop : ∀ error s'', accounts s'' = accounts s → post (.error error) s'')
    (go : ∀ x s'', (∃ u, (accounts s).byEmail? email = some u) →
      accounts s'' = (accounts s).modifyByEmail email f → post (.ok x) s'') :
    (Script.ask call report).Ensures service.backing s' post := by
  rw [Script.ensures_ask]
  refine ⟨fun x hok => ?_, fun error herror => ?_⟩
  · obtain ⟨hupdate, hstate⟩ := stores.updates call email f hcall _ x hok
    rw [hs'] at hupdate hstate
    obtain ⟨there, hafter⟩ := AccountStore.update_of_ok hupdate
    exact go x _ there (hstate.trans hafter)
  · exact stop _ _ ((stores.fails _ _ _ herror).trans hs')

/-- A password that passes the check is one that the policy accepts. -/
theorem Script.accepts_of_checkPassword {accepts : String → Bool} {password : String}
    {backing : Backing σ} {x : Unit}
    (h : ((checkPassword accepts password).run backing s).result = .ok x) :
    accepts password = true := by
  unfold checkPassword at h
  by_cases haccepts : accepts password = true
  · exact haccepts
  · rw [if_neg haccepts] at h
    cases h

/-- A registration has its effect on the accounts, and no other. -/
theorem register_effect (stores : service.backing.StoresIn accounts) (token : String)
    (user : User) :
    (Script.register service.accepts token user).Ensures service.backing s fun result s' =>
      Effect service accounts s (.register token user) result (accounts s') := by
  have stop : ∀ error s', accounts s' = accounts s →
      Effect service accounts s (.register token user) (.error error) (accounts s') :=
    fun _ _ hs' => .of_error hs'
  -- no call before the last one writes, so the record is saved into the store as it was
  unfold Script.register Script.enrol
  refine stores.ensures_bind (Script.only_checkRegistration (fun _ => id) id) rfl stop
    fun _ s₁ _ hs₁ => ?_
  refine stores.ensures_bind Script.only_ofExcept hs₁ stop fun _ s₂ hvalid hs₂ => ?_
  rw [Script.run_ofExcept] at hvalid
  refine stores.ensures_bind (Script.only_checkPassword _ _) hs₂ stop fun _ s₃ haccepted hs₃ => ?_
  refine stores.ensures_bind (Script.only_ask id) hs₃ stop fun fresh s₄ hfresh hs₄ => ?_
  refine stores.ensures_bind (Script.only_grantOwnership id) hs₄ stop fun _ s₅ _ hs₅ => ?_
  refine stores.ensures_bind (Script.only_ask id) hs₅ stop fun hash s₆ hhash hs₆ => ?_
  rw [Script.ensures_bind]
  refine stores.ensures_save hs₆ stop fun s₇ hsaved hs₇ => ?_
  rw [Script.onward_ok, Script.ensures_bind, Script.ensures_log, Script.onward_ok,
    Script.ensures_pure, hs₇]
  exact .registered hvalid (Script.accepts_of_checkPassword haccepted)
    ⟨s₃, Script.run_ask_eq_ok.mp hfresh⟩ ⟨s₅, Script.run_ask_eq_ok.mp hhash⟩ hsaved

/-- An update has its effect on the accounts, and no other. -/
theorem updateUser_effect (stores : service.backing.StoresIn accounts) (token : String)
    (user : User) :
    (Script.updateUser token user).Ensures service.backing s fun result s' =>
      Effect service accounts s (.updateUser token user) result (accounts s') := by
  have stop : ∀ error s', accounts s' = accounts s →
      Effect service accounts s (.updateUser token user) (.error error) (accounts s') :=
    fun _ _ hs' => .of_error hs'
  unfold Script.updateUser
  refine stores.ensures_bind (Script.only_ask id) rfl stop fun caller s₁ hcaller hs₁ => ?_
  refine stores.ensures_update rfl hs₁ stop fun _ s₂ there hs₂ => ?_
  rw [hs₂]
  exact .updated (Script.run_ask_eq_ok.mp hcaller) there

/-- A reset has its effect on the accounts, and no other. -/
theorem resetPassword_effect (stores : service.backing.StoresIn accounts)
    (token password : String) :
    (Script.resetPassword service.accepts token password).Ensures service.backing s
      fun result s' =>
        Effect service accounts s (.resetPassword token password) result (accounts s') := by
  have stop : ∀ error s', accounts s' = accounts s →
      Effect service accounts s (.resetPassword token password) (.error error) (accounts s') :=
    fun _ _ hs' => .of_error hs'
  unfold Script.resetPassword
  rw [Script.ensures_ite]
  refine ⟨fun _ => stop _ _ rfl, fun _ => ?_⟩
  refine stores.ensures_bind (Script.only_ask id) rfl stop fun caller s₁ hcaller hs₁ => ?_
  refine stores.ensures_bind (Script.only_existing id) hs₁ stop fun _ s₂ _ hs₂ => ?_
  refine stores.ensures_bind (Script.only_checkPassword _ _) hs₂ stop fun _ s₃ haccepted hs₃ => ?_
  refine stores.ensures_bind (Script.only_ask id) hs₃ stop fun hash s₄ hhash hs₄ => ?_
  refine stores.ensures_update rfl hs₄ stop fun _ s₅ there hs₅ => ?_
  rw [hs₅]
  exact .reset (Script.run_ask_eq_ok.mp hcaller) there
    (Script.accepts_of_checkPassword haccepted) ⟨s₃, Script.run_ask_eq_ok.mp hhash⟩

/-- A change of password has its effect on the accounts, and no other. -/
theorem changePassword_effect (stores : service.backing.StoresIn accounts)
    (token password old : String) :
    (Script.changePassword service.accepts token password old).Ensures service.backing s
      fun result s' =>
        Effect service accounts s (.changePassword token password old) result (accounts s') := by
  have stop : ∀ error s', accounts s' = accounts s →
      Effect service accounts s (.changePassword token password old) (.error error) (accounts s') :=
    fun _ _ hs' => .of_error hs'
  unfold Script.changePassword
  refine stores.ensures_bind (Script.only_ask id) rfl stop fun caller s₁ hcaller hs₁ => ?_
  refine stores.ensures_bind (Script.only_checkPassword _ _) hs₁ stop fun _ s₂ haccepted hs₂ => ?_
  refine stores.ensures_bind (Script.only_attempt (Script.only_authenticate id fun _ => id)) hs₂
    stop fun ending s₃ _ hs₃ => ?_
  -- a failed authentication is met with another failure, behind which nothing is done
  cases ending with
  | error _ => exact stop _ _ hs₃
  | ok _ =>
    refine stores.ensures_bind (Script.only_existing id) hs₃ stop fun _ s₄ _ hs₄ => ?_
    refine stores.ensures_bind (Script.only_ask id) hs₄ stop fun hash s₅ hhash hs₅ => ?_
    refine stores.ensures_update rfl hs₅ stop fun _ s₆ there hs₆ => ?_
    rw [hs₆]
    exact .changed (Script.run_ask_eq_ok.mp hcaller) there
      (Script.accepts_of_checkPassword haccepted) ⟨s₄, Script.run_ask_eq_ok.mp hhash⟩

/-- Whatever the request, this is all it does to the store. -/
theorem AccountService.serve_effect (service : AccountService σ)
    (stores : service.backing.StoresIn accounts) (request : ServiceCall) (s : σ) :
    Effect service accounts s request (service.serve request s).result
      (accounts (service.serve request s).state) := by
  by_cases h : request.Writes
  · cases request with
    | register token user => exact register_effect stores token user
    | updateUser token user => exact updateUser_effect stores token user
    | resetPassword token password => exact resetPassword_effect stores token password
    | changePassword token password old => exact changePassword_effect stores token password old
    | _ => exact h.elim
  · have hkept : accounts (service.serve request s).state = accounts s :=
      Script.run_keeps (fun s' => accounts s' = accounts s)
        (fun call hreads s' hs' => (stores.reads call hreads s').trans hs')
        (Script.reads_of_not_writes service.accepts h) rfl
    rw [hkept]
    exact .kept fun hwrites => absurd hwrites h

end Effects

end AccessControl
