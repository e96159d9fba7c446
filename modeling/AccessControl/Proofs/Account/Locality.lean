import AccessControl.Proofs.Deployment

/-!
# Scripts that stay with one account

A script stays with an account if all its calls read and change the record with the email of the
account, or hash and compare passwords. What such a script answers, and the change that it makes to
the record, depend on nothing but this record (`Script.settles`), as long as the hasher answers by
its arguments.

Changes of records with different emails do not meet, so they may be made in any order
(`AccountStore.modifyByEmail_comm`).
-/

namespace AccessControl

variable {α ω ε β : Type}

/-! ## Changes of one record -/

namespace AccountStore

variable {store : AccountStore} {email email' id : String} {f g : User → User}

theorem keepsKeys_same : KeepsKeys fun u => u := fun _ => ⟨rfl, rfl⟩

/-- Changes that leave ids and addresses do so one behind the other. -/
theorem KeepsKeys.comp (hg : KeepsKeys g) (hf : KeepsKeys f) : KeepsKeys (g ∘ f) :=
  fun u => ⟨(hg (f u)).1.trans (hf u).1, (hg (f u)).2.trans (hf u).2⟩

theorem modifyByEmail_same (store : AccountStore) (email : String) :
    store.modifyByEmail email (fun u => u) = store := by
  simp only [modifyByEmail, ite_self, List.map_id']

/-- Two changes of one record are one change. -/
theorem modifyByEmail_comp (hf : KeepsKeys f) :
    (store.modifyByEmail email f).modifyByEmail email g = store.modifyByEmail email (g ∘ f) := by
  simp only [modifyByEmail, List.map_map]
  congr 2
  funext u
  by_cases h : u.email = email
  · simp [h, (hf u).2]
  · simp [h]

/-- Changes of different records can be made in any order. -/
theorem modifyByEmail_comm (hf : KeepsKeys f) (hg : KeepsKeys g) (h : email ≠ email') :
    (store.modifyByEmail email f).modifyByEmail email' g =
      (store.modifyByEmail email' g).modifyByEmail email f := by
  simp only [modifyByEmail, List.map_map]
  congr 2
  funext u
  by_cases hu : u.email = email
  · simp [hu, (hf u).2, h]
  · by_cases hu' : u.email = email'
    · simp [hu', (hg u).2, h.symm]
    · simp [hu, hu']

/-- Under the address of a change, the changed user is found. -/
theorem byEmail?_modifyByEmail_self (hf : KeepsKeys f) :
    (store.modifyByEmail email f).byEmail? email = (store.byEmail? email).map f := by
  rw [byEmail?_modifyByEmail hf]
  apply Option.map_congr
  intro u hu
  exact if_pos (mem_of_byEmail? hu).2

/-- Under another address, the same user is found as before. -/
theorem byEmail?_modifyByEmail_of_ne (hf : KeepsKeys f) (h : email' ≠ email) :
    (store.modifyByEmail email f).byEmail? email' = store.byEmail? email' := by
  rw [byEmail?_modifyByEmail hf]
  cases hu : store.byEmail? email' with
  | none => rfl
  | some u => rw [Option.map_some, if_neg ((mem_of_byEmail? hu).2 ▸ h)]

/-- A record is found by its id as it is by its email. -/
theorem WellFormed.byId?_eq_byEmail? (wf : store.WellFormed) (h : (id, email) ∈ store.keys) :
    store.byId? id = store.byEmail? email := by
  obtain ⟨u, hu, hid, hemail⟩ := mem_keys_iff.mp h
  rw [wf.byId?_eq_some_iff.mpr ⟨hu, hid⟩, wf.byEmail?_eq_some_iff.mpr ⟨hu, hemail⟩]

/-- The store is well-formed, has these ids and emails, and shows this record under an email. -/
structure Shows (store : AccountStore) (keys : List (String × String)) (email : String)
    (own : Option User) : Prop where
  wellFormed : store.WellFormed
  keys_eq : store.keys = keys
  own_eq : store.byEmail? email = own

namespace Shows

variable {keys : List (String × String)} {own : Option User}

/-- A well-formed store shows its own keys and the user it finds. -/
theorem of_wellFormed (wf : store.WellFormed) (email : String) :
    store.Shows store.keys email (store.byEmail? email) :=
  ⟨wf, rfl, rfl⟩

/-- A change of the record shows in the record. -/
theorem modify (shows : store.Shows keys email own) (hf : KeepsKeys f) :
    (store.modifyByEmail email f).Shows keys email (own.map f) where
  wellFormed := shows.wellFormed.modifyByEmail hf
  keys_eq := (keys_modifyByEmail hf).trans shows.keys_eq
  own_eq := by rw [byEmail?_modifyByEmail_self hf, shows.own_eq]

/-- A change of another record does not show. -/
theorem modify_other (shows : store.Shows keys email own) (hf : KeepsKeys f) (h : email ≠ email') :
    (store.modifyByEmail email' f).Shows keys email own where
  wellFormed := shows.wellFormed.modifyByEmail hf
  keys_eq := (keys_modifyByEmail hf).trans shows.keys_eq
  own_eq := (byEmail?_modifyByEmail_of_ne hf h).trans shows.own_eq

end Shows

end AccountStore

open AccountStore (KeepsKeys)

/-! ## Settled actions -/

/-- Every hash and every comparison is determined by the arguments. -/
structure Hasher.Functional (hasher : Hasher ω) : Prop where
  hash : ∀ password, ∃ result, ∀ o, (hasher.hash password o).result = result
  compare : ∀ password hash, ∃ result, ∀ o, (hasher.compare password hash o).result = result

/-- Wherever the store shows this record under the email, the action ends with the result, makes the
change to the record, and leaves the identity service alone. -/
def Settles (keys : List (String × String)) (email : String) (own : Option User)
    (action : Action (World α ω) ε β) (result : Except ε β) (f : User → User) : Prop :=
  ∀ w, w.accounts.Shows keys email own →
    (action w).result = result ∧ (action w).state.identity = w.identity ∧
      (action w).state.accounts = w.accounts.modifyByEmail email f

/-- The call reads and changes no record but the one with the email. -/
def BackingCall.StaysWith (keys : List (String × String)) (email : String) : BackingCall → Prop
  | byEmail email' | updatePassword email' _ => email' = email
  | updateUser user => user.email = email
  | byId id => (id, email) ∈ keys
  | hash _ | compare .. => True
  | _ => False

section Settles

variable {keys : List (String × String)} {email : String} {own : Option User}

/-- An action that only looks at the account. -/
theorem Settles.reading {action : Action (World α ω) ε β} {result : Except ε β}
    (h : ∀ w, w.accounts.Shows keys email own → (action w).result = result ∧
      (action w).state.identity = w.identity ∧ (action w).state.accounts = w.accounts) :
    Settles keys email own action result fun u => u := by
  intro w shows
  rw [AccountStore.modifyByEmail_same]
  exact h w shows

/-- An update succeeds if there is a record, and then changes it. -/
theorem exists_settles_update (keys : List (String × String)) (email : String) (own : Option User)
    {f : User → User} (hf : KeepsKeys f) :
    ∃ result g, KeepsKeys g ∧ Settles (α := α) (ω := ω) keys email own
      (World.onAccounts (AccountStore.update email f)) result g := by
  cases own with
  | none =>
    refine ⟨.error (.bare .notFound), _, AccountStore.keepsKeys_same, .reading fun w shows => ?_⟩
    have hrun := AccountStore.update_run email f w.accounts
    rw [shows.own_eq] at hrun
    exact ⟨congrArg Outcome.result hrun, rfl, congrArg Outcome.state hrun⟩
  | some user =>
    refine ⟨.ok (), f, hf, fun w shows => ?_⟩
    have hrun := AccountStore.update_run email f w.accounts
    rw [shows.own_eq] at hrun
    exact ⟨congrArg Outcome.result hrun, rfl, congrArg Outcome.state hrun⟩

variable {d : Deployment α ω}

/-- A call that stays with the account is settled by its record. -/
theorem Deployment.exists_settles_call (functional : d.hasher.Functional) {call : BackingCall}
    (stays : call.StaysWith keys email) (own : Option User) :
    ∃ ending f, KeepsKeys f ∧ Settles keys email own (d.backing call) ending f := by
  cases call with
  | byEmail email' =>
    obtain rfl : email' = email := stays
    refine ⟨own.elim (.error (.bare .notFound)) .ok, _, AccountStore.keepsKeys_same,
      .reading fun w shows => ?_⟩
    rw [backing_byEmail, shows.own_eq]
    cases own <;> exact ⟨rfl, rfl, rfl⟩
  | byId id =>
    refine ⟨own.elim (.error (.bare .notFound)) .ok, _, AccountStore.keepsKeys_same,
      .reading fun w shows => ?_⟩
    have hkey : (id, email) ∈ w.accounts.keys := shows.keys_eq ▸ stays
    rw [backing_byId, shows.wellFormed.byId?_eq_byEmail? hkey, shows.own_eq]
    cases own <;> exact ⟨rfl, rfl, rfl⟩
  | updateUser user =>
    obtain rfl : user.email = email := stays
    exact exists_settles_update keys _ own (AccountStore.keepsKeys_metadata user.metadata)
  | updatePassword email' hash =>
    obtain rfl : email' = email := stays
    exact exists_settles_update keys _ own (AccountStore.keepsKeys_password hash)
  | hash password =>
    obtain ⟨result, hresult⟩ := functional.hash password
    exact ⟨result, _, AccountStore.keepsKeys_same, .reading fun w _ => ⟨hresult _, rfl, rfl⟩⟩
  | compare password hash =>
    obtain ⟨result, hresult⟩ := functional.compare password hash
    exact ⟨result, _, AccountStore.keepsKeys_same, .reading fun w _ => ⟨hresult _, rfl, rfl⟩⟩
  | _ => exact absurd stays id

/-- A script that stays with the account is settled by its record. -/
theorem Script.exists_settles (functional : d.hasher.Functional) {script : Script β}
    (stays : script.Only (BackingCall.StaysWith keys email)) (own : Option User) :
    ∃ result f, KeepsKeys f ∧ Settles keys email own (script.run d.backing) result f := by
  -- behind a call, the rest of the script is settled by what the call has made of the record
  induction script generalizing own with
  | answer x =>
    exact ⟨.ok x, _, AccountStore.keepsKeys_same, .reading fun w _ => ⟨rfl, rfl, rfl⟩⟩
  | fail error =>
    exact ⟨.error error, _, AccountStore.keepsKeys_same, .reading fun w _ => ⟨rfl, rfl, rfl⟩⟩
  | emit event next ih => exact ih stays own
  | call request next ih =>
    obtain ⟨ending, f, hf, hcall⟩ := d.exists_settles_call functional stays.1 own
    obtain ⟨result, g, hg, hnext⟩ := ih ending (stays.2 ending) (own.map f)
    refine ⟨result, g ∘ f, hg.comp hf, fun w shows => ?_⟩
    obtain ⟨hending, hidentity, haccounts⟩ := hcall w shows
    have hshows : (d.backing request w).state.accounts.Shows keys email (own.map f) :=
      haccounts ▸ shows.modify hf
    simp only [run, Action.bind_run, Action.attempt_run, hending]
    obtain ⟨hresult, hidentity', haccounts'⟩ := hnext _ hshows
    refine ⟨hresult, hidentity'.trans hidentity, ?_⟩
    rw [haccounts', haccounts, AccountStore.modifyByEmail_comp hf]

end Settles

end AccessControl
