import AccessControl.Proofs.Account.Conditions
import AccessControl.Rehearsal

/-!
# Sessions belong to accounts

Keys are issued for records that were looked up, and records keep their ids and emails. So under
every token stand the id and the email of a record (`Deployment.SessionsBound`), and whoever has a
token that resolves is the owner of an account: what the caller asks for about that account is never
refused because there is no such account.
-/

namespace AccessControl

open AccessControl.Calendar

variable {α ω : Type}

namespace Deployment

variable {d : Deployment α ω} {conditions : Conditions}

/-- The store is well-formed, and every key belongs to a record with an email. -/
structure SessionsBound (w : World α ω) : Prop where
  wellFormed : w.accounts.WellFormed
  owned : ∀ binding ∈ w.identity.keys.keys,
    binding.2.email ≠ "" ∧ (binding.2.id, binding.2.email) ∈ w.accounts.keys

/-! ## What calls and requests keep -/

section Calls

variable {s : World α ω × Nat}

/-- Ids and emails of records stay. -/
theorem mem_keys_call (call : BackingCall) {key : String × String} (h : key ∈ s.1.accounts.keys) :
    key ∈ ((d.serviceUnder conditions).backing call s).state.1.accounts.keys :=
  ((d.storesInUnder conditions).keys_call call s).subset h

/-- A record that is found by its email is in the store. -/
theorem mem_keys_of_byEmail {email : String} {u : User}
    (h : ((d.serviceUnder conditions).backing (.byEmail email) s).result = .ok u) :
    (u.id, u.email) ∈ s.1.accounts.keys := by
  obtain ⟨_, ⟨⟨failure, hfailure⟩, _⟩ | ⟨hresult, _⟩⟩ :=
    Backing.under_cases d.backing World.at conditions (.byEmail email) s
  · cases hfailure.symm.trans h
  · have hfound : (AccountStore.byEmail email s.1.accounts).result = .ok u := hresult.symm.trans h
    rw [AccountStore.byEmail_run] at hfound
    cases hget : s.1.accounts.byEmail? email with
    | none =>
      rw [hget] at hfound
      cases hfound
    | some v =>
      rw [hget] at hfound
      obtain rfl := Except.ok.inj hfound
      exact AccountStore.mem_keys_iff.mpr ⟨v, (AccountStore.mem_of_byEmail? hget).1, rfl, rfl⟩

/-- A call keeps keys bound to records if it issues none, or issues one for a record. -/
theorem SessionsBound.call (bound : SessionsBound s.1) (call : BackingCall)
    (hcall : ∀ id email kind, call = .issue id email kind → (id, email) ∈ s.1.accounts.keys) :
    SessionsBound ((d.serviceUnder conditions).backing call s).state.1 where
  wellFormed := (d.storesInUnder conditions).wellFormed_call call bound.wellFormed
  owned binding hbinding := by
    have hold : binding ∈ s.1.identity.keys.keys → binding.2.email ≠ "" ∧
        (binding.2.id, binding.2.email) ∈
          ((d.serviceUnder conditions).backing call s).state.1.accounts.keys :=
      fun h => (bound.owned binding h).imp_right (mem_keys_call call)
    obtain ⟨_, ⟨id, email, kind, expiry, hissued, _, hemail, _, hkeys⟩ |
      ⟨_, _, hkeys | ⟨token, hkeys⟩⟩⟩ := (d.relaysUnder conditions).call_cases call s
    · rw [hkeys] at hbinding
      rcases KeyTable.mem_of_mem_enroll hbinding with h | rfl
      · exact hold h
      · exact ⟨hemail, mem_keys_call call (hcall id email kind (congrArg Exchange.call hissued))⟩
    · exact hold (hkeys ▸ hbinding)
    · exact hold (KeyTable.mem_of_mem_resolve (hkeys ▸ hbinding))

/-- A call that asks for no key keeps keys bound. -/
theorem SessionsBound.call_of_ne (bound : SessionsBound s.1) (call : BackingCall)
    (hcall : ∀ id email kind, call ≠ .issue id email kind) :
    SessionsBound ((d.serviceUnder conditions).backing call s).state.1 :=
  bound.call call fun id email kind hissue => absurd hissue (hcall id email kind)

/-- A script that asks for no key keeps keys bound. -/
theorem SessionsBound.script (bound : SessionsBound s.1) {β : Type} {script : Script β}
    (only : script.Only fun call => ∀ id email kind, call ≠ .issue id email kind) :
    script.Ensures (d.serviceUnder conditions).backing s fun _ s' => SessionsBound s'.1 :=
  Script.run_keeps (fun s : World α ω × Nat => SessionsBound s.1)
    (fun call hcall _ h => h.call_of_ne call hcall) only bound

/-- A key for a record is bound to it. -/
theorem SessionsBound.issue (bound : SessionsBound s.1) {user : User}
    (there : (user.id, user.email) ∈ s.1.accounts.keys) (kind : KeyKind) :
    SessionsBound ((d.serviceUnder conditions).backing
      (.issue user.id user.email kind) s).state.1 := by
  refine bound.call _ fun id email kind hissue => ?_
  cases hissue
  exact there

/-- Looking a record up finds one of the store. -/
theorem SessionsBound.byEmail (bound : SessionsBound s.1) (kind : ErrorKind) (email : String) :
    (Script.byEmail kind email).Ensures (d.serviceUnder conditions).backing s
      (Script.Onward (fun u s' => SessionsBound s'.1 ∧ (u.id, u.email) ∈ s'.1.accounts.keys)
        fun _ s' => SessionsBound s'.1) := by
  rw [Script.byEmail, Script.ensures_ask]
  exact ⟨fun u hu => ⟨bound.call_of_ne _ (by simp), mem_keys_call _ (mem_keys_of_byEmail hu)⟩,
    fun _ _ => bound.call_of_ne _ (by simp)⟩

/-- Whoever logs in gets a key for the record whose password was checked. -/
theorem SessionsBound.login (bound : SessionsBound s.1) (user : User) :
    (Script.login user).Ensures (d.serviceUnder conditions).backing s
      fun _ s' => SessionsBound s'.1 := by
  rw [Script.login, Script.ensures_bind, Script.authenticate, Script.ensures_bind]
  refine (bound.byEmail _ _).mono ?_
  rintro (_ | stored) s₁ hs₁
  · exact hs₁
  obtain ⟨hbound, there⟩ := hs₁
  rw [Script.onward_ok, Script.ensures_bind, Script.ensures_ask]
  refine ⟨fun _ _ => ?_, fun _ _ => hbound.call_of_ne _ (by simp)⟩
  rw [Script.onward_ok, Script.ensures_pure, Script.onward_ok, Script.issue, Script.ensures_ask]
  exact ⟨fun _ _ => (hbound.call_of_ne _ (by simp)).issue (mem_keys_call _ there) .user,
    fun _ _ => (hbound.call_of_ne _ (by simp)).issue (mem_keys_call _ there) .user⟩

/-- A recovery key is one for the record that was found. -/
theorem SessionsBound.generateResetToken (bound : SessionsBound s.1) (email host : String) :
    (Script.generateResetToken email host).Ensures (d.serviceUnder conditions).backing s
      fun _ s' => SessionsBound s'.1 := by
  rw [Script.generateResetToken, Script.ensures_ite]
  refine ⟨fun _ => bound, fun _ => ?_⟩
  rw [Script.ensures_bind, Script.existing, Script.ensures_bind]
  refine (bound.byEmail _ _).mono ?_
  rintro (_ | stored) s₁ hs₁
  · exact hs₁
  obtain ⟨hbound, there⟩ := hs₁
  rw [Script.onward_ok, Script.ensures_ite]
  refine ⟨fun _ => hbound, fun _ => ?_⟩
  rw [Script.ensures_pure, Script.onward_ok, Script.ensures_bind, Script.issue, Script.ensures_ask]
  refine ⟨fun token _ => ?_, fun _ _ => hbound.issue there .recovery⟩
  exact (hbound.issue there .recovery).script (Script.only_sendPasswordReset (by simp))

/-- Every request keeps keys bound to records. -/
theorem SessionsBound.serve (bound : SessionsBound s.1) (request : ServiceCall) :
    SessionsBound ((d.serviceUnder conditions).serve request s).state.1 := by
  by_cases hissues : (∃ user, request = .login user) ∨
      ∃ email host, request = .generateResetToken email host
  · obtain ⟨user, rfl⟩ | ⟨email, host, rfl⟩ := hissues
    · exact bound.login user
    · exact bound.generateResetToken email host
  · refine bound.script ((request.script_only d.accepts).mono ?_)
    intro call may id email kind hcall
    subst hcall
    cases request with
    | login user => exact hissues (Or.inl ⟨user, rfl⟩)
    | generateResetToken email host => exact hissues (Or.inr ⟨email, host, rfl⟩)
    | _ => exact may

end Calls

/-! ## What owners are answered -/

/-- A token that resolves, to the owner of a record with an email. -/
structure Owner (w : World α ω) (token : String) (caller : Identity) (u : User) : Prop where
  resolves : w.caller? token = some caller
  named : token ≠ ""
  byId : w.accounts.byId? caller.id = some u
  byEmail : w.accounts.byEmail? caller.email = some u
  email_ne : u.email ≠ ""

/-- A token that resolves has an owner among the accounts. -/
theorem SessionsBound.exists_owner {w : World α ω} (bound : SessionsBound w) {token : String}
    {caller : Identity} (h : w.caller? token = some caller) : ∃ u, Owner w token caller u := by
  obtain ⟨htoken, claims, hclaims, _, rfl⟩ :=
    KeyTable.resolve_eq_ok_iff.mp (World.caller?_eq_some_iff.mp h)
  obtain ⟨hemail, hkey⟩ := bound.owned _ (KeyTable.mem_of_get? hclaims)
  obtain ⟨u, hu, hid, hemail'⟩ := AccountStore.mem_keys_iff.mp hkey
  exact ⟨u, h, htoken, bound.wellFormed.byId?_eq_some_iff.mpr ⟨hu, hid⟩,
    bound.wellFormed.byEmail?_eq_some_iff.mpr ⟨hu, hemail'⟩, hemail' ▸ hemail⟩

namespace Owner

variable {w w' : World α ω} {token : String} {caller : Identity} {u : User}

/-- The identity service answers with the caller. -/
theorem identify_result (owner : Owner w token caller u) :
    (d.service.backing (.identify token) w).result = .ok caller :=
  World.caller?_eq_some_iff.mp owner.resolves

/-- The owner is found under the address of the caller. -/
theorem byEmail_result (owner : Owner w token caller u) (h : w'.accounts = w.accounts) :
    (d.service.backing (.byEmail caller.email) w').result = .ok u := by
  show (AccountStore.byEmail caller.email w'.accounts).result = .ok u
  rw [AccountStore.byEmail_run, h, owner.byEmail]

/-- The owner is found under the id of the caller. -/
theorem byId_result (owner : Owner w token caller u) (h : w'.accounts = w.accounts) :
    (d.service.backing (.byId caller.id) w').result = .ok u := by
  show (AccountStore.byId caller.id w'.accounts).result = .ok u
  rw [AccountStore.byId_run, h, owner.byId]

/-- An update under the address of the caller succeeds. -/
theorem update_result (owner : Owner w token caller u) (f : User → User)
    (h : w'.accounts = w.accounts) :
    (AccountStore.update caller.email f w'.accounts).result = .ok () := by
  rw [AccountStore.update_run, h, owner.byEmail]
  rfl

/-- The caller sees the profile of the owner. -/
theorem viewProfile_result (owner : Owner w token caller u) :
    (d.service.viewProfile token w).result = .ok u.redacted := by
  have hends : (Script.viewProfile token).Ensures d.service.backing w
      fun result _ => result = .ok u.redacted := by
    rw [Script.viewProfile, Script.ensures_bind, Script.identify]
    refine Script.ensures_ask_of_ok owner.identify_result ?_
    rw [Script.onward_ok, Script.ensures_bind, Script.byEmail]
    refine Script.ensures_ask_of_ok (owner.byEmail_result rfl) ?_
    rw [Script.onward_ok, Script.ensures_pure, ← (AccountStore.mem_of_byEmail? owner.byEmail).2]
    rfl
  exact hends

/-- The caller sees the owner under the own id. -/
theorem viewUser_result (owner : Owner w token caller u) :
    (d.service.viewUser token caller.id w).result = .ok u.redacted := by
  have hends : (Script.viewUser token caller.id).Ensures d.service.backing w
      fun result _ => result = .ok u.redacted := by
    rw [Script.viewUser, Script.ensures_bind, Script.identify]
    refine Script.ensures_ask_of_ok owner.identify_result ?_
    rw [Script.onward_ok, Script.ensures_bind]
    refine Script.ensures_ask_of_ok (owner.byId_result rfl) ?_
    rw [Script.onward_ok, Script.ensures_pure, ← (AccountStore.mem_of_byId? owner.byId).2]
    rfl
  exact hends

/-- The caller may update the own record. -/
theorem updateUser_result (owner : Owner w token caller u) (payload : User) :
    (d.service.updateUser token payload w).result = .ok () := by
  have hends : (Script.updateUser token payload).Ensures d.service.backing w
      fun result _ => result = .ok () := by
    rw [Script.updateUser, Script.ensures_bind, Script.identify]
    refine Script.ensures_ask_of_ok owner.identify_result ?_
    rw [Script.onward_ok]
    exact Script.ensures_ask_of_ok (owner.update_result _ rfl) rfl
  exact hends

/-- A new password is refused for its format, or because it cannot be hashed. -/
theorem resetPassword_result (owner : Owner w token caller u) (password : String)
    (error : AccountError) (h : (d.service.resetPassword token password w).result = .error error) :
    error = .bare .passwordFormat ∨ ∃ cause, error = .byHash .malformedEntity cause := by
  have hends : (Script.resetPassword d.accepts token password).Ensures d.service.backing w
      fun result _ => ∀ error, result = .error error →
        error = .bare .passwordFormat ∨ ∃ cause, error = .byHash .malformedEntity cause := by
    rw [Script.resetPassword, if_neg owner.named, Script.ensures_bind, Script.identify]
    refine Script.ensures_ask_of_ok owner.identify_result ?_
    rw [Script.onward_ok, Script.ensures_bind, Script.existing, Script.ensures_bind, Script.byEmail]
    refine Script.ensures_ask_of_ok (owner.byEmail_result rfl) ?_
    rw [Script.onward_ok, if_neg owner.email_ne, Script.ensures_pure, Script.onward_ok,
      Script.ensures_bind, Script.checkPassword, Script.ensures_ite]
    refine ⟨fun _ => ?_, fun _ => ?_⟩
    · rw [Script.ensures_pure, Script.onward_ok, Script.ensures_bind, Script.hash,
        Script.ensures_ask]
      refine ⟨fun hash _ => ?_, fun cause _ => ?_⟩
      · rw [Script.onward_ok]
        -- looking the record up has left the store alone
        have hsame := d.storesIn.reads (.byEmail caller.email) id
          (d.service.backing (.identify token) w).state
        exact Script.ensures_ask_of_ok (owner.update_result _ hsame) nofun
      · rw [Script.onward_error]
        rintro _ ⟨⟩
        exact Or.inr ⟨cause, rfl⟩
    · rw [Script.ensures_fail, Script.onward_error]
      rintro _ ⟨⟩
      exact Or.inl rfl
  exact hends error h

end Owner

/-- The store that is built by saving some records is well-formed. -/
theorem wellFormed_seeded (users : List User) : (Rehearsal.seeded users).WellFormed :=
  List.foldlRecOn users _ AccountStore.wellFormed_empty fun _ wf user _ => wf.save user

end Deployment

end AccessControl
