import AccessControl.Account.Store
import Mathlib.Data.List.Nodup

/-!
# The store of user records

A well-formed store has no two records with one id or one email, and no record without an id.
In such a store a look-up finds a record exactly when the record is there. The lemmas named
`..._run` say what each action does to the store and what it answers; saving and changing records
keep the store well-formed.
-/

namespace AccessControl.AccountStore

variable {store : AccountStore} {user u : User} {id email : String} {f : User → User}

/-- No two records share an id or an email, and every record has an id. -/
structure WellFormed (store : AccountStore) : Prop where
  ids_nodup : (store.users.map (·.id)).Nodup
  emails_nodup : (store.users.map (·.email)).Nodup
  ids_ne : ∀ u ∈ store.users, u.id ≠ ""

theorem wellFormed_empty : WellFormed {} :=
  ⟨List.nodup_nil, List.nodup_nil, by simp⟩

/-! ## Looking records up -/

/-- Nothing is found under an address exactly when no user has it. -/
theorem byEmail?_eq_none_iff :
    store.byEmail? email = none ↔ ∀ u ∈ store.users, u.email ≠ email := by
  simp [byEmail?]

/-- Nothing is found under an id exactly when no user has it. -/
theorem byId?_eq_none_iff : store.byId? id = none ↔ ∀ u ∈ store.users, u.id ≠ id := by
  simp [byId?]

/-- What is found under an address is a stored user with this address. -/
theorem mem_of_byEmail? (h : store.byEmail? email = some u) : u ∈ store.users ∧ u.email = email :=
  ⟨List.mem_of_find?_eq_some h, by simpa using List.find?_some h⟩

/-- What is found under an id is a stored user with this id. -/
theorem mem_of_byId? (h : store.byId? id = some u) : u ∈ store.users ∧ u.id = id :=
  ⟨List.mem_of_find?_eq_some h, by simpa using List.find?_some h⟩

/-- Two records of a well-formed store with one email are the same record. -/
theorem WellFormed.eq_of_email (wf : WellFormed store) {u v : User} (hu : u ∈ store.users)
    (hv : v ∈ store.users) (h : u.email = v.email) : u = v :=
  List.inj_on_of_nodup_map wf.emails_nodup hu hv h

/-- Two stored users with one id are the same. -/
theorem WellFormed.eq_of_id (wf : WellFormed store) {u v : User} (hu : u ∈ store.users)
    (hv : v ∈ store.users) (h : u.id = v.id) : u = v :=
  List.inj_on_of_nodup_map wf.ids_nodup hu hv h

/-- A look-up by email finds exactly the record with this email. -/
theorem WellFormed.byEmail?_eq_some_iff (wf : WellFormed store) :
    store.byEmail? email = some u ↔ u ∈ store.users ∧ u.email = email := by
  refine ⟨mem_of_byEmail?, ?_⟩
  rintro ⟨hu, rfl⟩
  cases h : store.byEmail? u.email with
  | none => exact absurd rfl (byEmail?_eq_none_iff.mp h u hu)
  | some v =>
    obtain ⟨hv, hemail⟩ := mem_of_byEmail? h
    rw [wf.eq_of_email hv hu hemail]

/-- A look-up by id finds exactly the record with this id. -/
theorem WellFormed.byId?_eq_some_iff (wf : WellFormed store) :
    store.byId? id = some u ↔ u ∈ store.users ∧ u.id = id := by
  refine ⟨mem_of_byId?, ?_⟩
  rintro ⟨hu, rfl⟩
  cases h : store.byId? u.id with
  | none => exact absurd rfl (byId?_eq_none_iff.mp h u hu)
  | some v =>
    obtain ⟨hv, hid⟩ := mem_of_byId? h
    rw [wf.eq_of_id hv hu hid]

/-! ## What the actions do -/

/-- A lookup by address answers with the user found, or that there is none, and changes nothing. -/
theorem byEmail_run (email : String) (store : AccountStore) :
    byEmail email store =
      ⟨match store.byEmail? email with
        | some user => .ok user
        | none => .error (.bare .notFound), [], store⟩ := by
  simp only [byEmail, Action.bind_run, Action.get_run]
  cases store.byEmail? email <;> rfl

/-- A lookup by id answers with the user found, or that there is none, and changes nothing. -/
theorem byId_run (id : String) (store : AccountStore) :
    byId id store =
      ⟨match store.byId? id with
        | some user => .ok user
        | none => .error (.bare .notFound), [], store⟩ := by
  simp only [byId, Action.bind_run, Action.get_run]
  cases store.byId? id <;> rfl

/-- A save fails without an id and where the id or the address is taken, and adds the user at the
end otherwise. -/
theorem save_run (user : User) (store : AccountStore) :
    save user store =
      if user.id = "" then ⟨.error (.bare .malformedEntity), [], store⟩
      else if (store.byEmail? user.email).isSome || (store.byId? user.id).isSome then
        ⟨.error (.bare .conflict), [], store⟩
      else ⟨.ok user.id, [], ⟨store.users ++ [user]⟩⟩ := by
  unfold save
  by_cases hid : user.id = ""
  · simp only [if_pos hid, Action.fail_run]
  · simp only [if_neg hid, Action.bind_run, Action.get_run]
    split <;> simp [Action.bind_run]

/-- An update changes the users under the address, and fails where there are none. -/
theorem update_run (email : String) (f : User → User) (store : AccountStore) :
    update email f store =
      if (store.byEmail? email).isSome then ⟨.ok (), [], store.modifyByEmail email f⟩
      else ⟨.error (.bare .notFound), [], store⟩ := by
  simp only [update, Action.bind_run, Action.get_run]
  split <;> simp

/-- A record that is saved had an id, and no record of the store shared its id or its email. -/
theorem save_of_ok (h : (save user store).result = .ok id) :
    id = user.id ∧ user.id ≠ "" ∧ store.byEmail? user.email = none ∧
      store.byId? user.id = none ∧ (save user store).state = ⟨store.users ++ [user]⟩ := by
  rw [save_run] at h ⊢
  by_cases hid : user.id = ""
  · simp [hid] at h
  · by_cases hold : (store.byEmail? user.email).isSome || (store.byId? user.id).isSome
    · simp [hid, hold] at h
    · simp only [if_neg hid, if_neg hold] at h ⊢
      simp only [Bool.or_eq_true, not_or, Option.not_isSome_iff_eq_none] at hold
      exact ⟨(Except.ok.inj h).symm, hid, hold.1, hold.2, trivial⟩

/-- A record that cannot be saved leaves the store alone. -/
theorem save_state_of_error {error : AccountError} (h : (save user store).result = .error error) :
    (save user store).state = store := by
  rw [save_run] at h ⊢
  grind

/-- A record that is changed was there. -/
theorem update_of_ok (h : (update email f store).result = .ok ()) :
    (∃ u, store.byEmail? email = some u) ∧
      (update email f store).state = store.modifyByEmail email f := by
  rw [update_run] at h ⊢
  cases hold : store.byEmail? email with
  | none => simp [hold] at h
  | some u => exact ⟨⟨u, rfl⟩, by simp⟩

/-- An update that fails leaves the store as it was. -/
theorem update_state_of_error {error : AccountError}
    (h : (update email f store).result = .error error) : (update email f store).state = store := by
  rw [update_run] at h ⊢
  grind

/-! ## What keeps a store well-formed -/

/-- A change of a record that keeps its id and its email. -/
def KeepsKeys (f : User → User) : Prop :=
  ∀ u, (f u).id = u.id ∧ (f u).email = u.email

/-- New metadata leaves the id and the address. -/
theorem keepsKeys_metadata (metadata : Metadata) :
    KeepsKeys ({ · with metadata := metadata }) := fun _ => ⟨rfl, rfl⟩

/-- A new password leaves the id and the address. -/
theorem keepsKeys_password (hash : String) : KeepsKeys ({ · with password := hash }) :=
  fun _ => ⟨rfl, rfl⟩

/-- The change of one record of a store keeps all ids and emails. -/
theorem map_keys_modifyByEmail {β : Type} (key : User → β) (hf : ∀ u, key (f u) = key u) :
    (store.modifyByEmail email f).users.map key = store.users.map key := by
  simp only [modifyByEmail, List.map_map]
  apply List.map_congr_left
  intro u _
  by_cases h : u.email = email <;> simp [h, hf]

/-- A change that leaves ids and addresses leaves a store well-formed. -/
theorem WellFormed.modifyByEmail (wf : WellFormed store) (hf : KeepsKeys f) :
    WellFormed (store.modifyByEmail email f) where
  ids_nodup := by
    rw [map_keys_modifyByEmail (·.id) fun u => (hf u).1]
    exact wf.ids_nodup
  emails_nodup := by
    rw [map_keys_modifyByEmail (·.email) fun u => (hf u).2]
    exact wf.emails_nodup
  ids_ne := by
    intro u hu
    have hid : u.id ∈ store.users.map (·.id) := by
      rw [← map_keys_modifyByEmail (·.id) fun u => (hf u).1]
      exact List.mem_map_of_mem hu
    obtain ⟨v, hv, hvid⟩ := List.mem_map.mp hid
    exact hvid ▸ wf.ids_ne v hv

/-- A store stays well-formed with one more user, of a new id and a new address. -/
theorem WellFormed.append (wf : WellFormed store) (hid : user.id ≠ "")
    (hemail : store.byEmail? user.email = none) (hfresh : store.byId? user.id = none) :
    WellFormed ⟨store.users ++ [user]⟩ where
  ids_nodup := by
    rw [List.map_append, List.nodup_append]
    refine ⟨wf.ids_nodup, List.nodup_singleton _, ?_⟩
    simpa using byId?_eq_none_iff.mp hfresh
  emails_nodup := by
    rw [List.map_append, List.nodup_append]
    refine ⟨wf.emails_nodup, List.nodup_singleton _, ?_⟩
    simpa using byEmail?_eq_none_iff.mp hemail
  ids_ne := by
    intro u hu
    rcases List.mem_append.mp hu with hu | hu
    · exact wf.ids_ne u hu
    · rw [List.mem_singleton.mp hu]
      exact hid

/-- Saving a record keeps a store well-formed, whether it is refused or not. -/
theorem WellFormed.save (wf : WellFormed store) (user : User) :
    WellFormed (save user store).state := by
  cases h : (AccountStore.save user store).result with
  | ok id =>
    obtain ⟨_, hid, hemail, hfresh, hstate⟩ := save_of_ok h
    rw [hstate]
    exact wf.append hid hemail hfresh
  | error error =>
    rw [save_state_of_error h]
    exact wf

/-- The ids and emails of all records. -/
def keys (store : AccountStore) : List (String × String) :=
  store.users.map fun u => (u.id, u.email)

/-- The keys of a store are the ids and addresses of its users. -/
theorem mem_keys_iff {id email : String} :
    (id, email) ∈ store.keys ↔ ∃ u ∈ store.users, u.id = id ∧ u.email = email := by
  simp [keys]

/-- One more user brings its own key, at the end. -/
theorem keys_append : (AccountStore.mk (store.users ++ [user])).keys =
    store.keys ++ [(user.id, user.email)] := by
  rw [keys, List.map_append]
  rfl

/-- A change that leaves ids and addresses leaves the keys. -/
theorem keys_modifyByEmail (hf : KeepsKeys f) :
    (store.modifyByEmail email f).keys = store.keys :=
  map_keys_modifyByEmail _ fun u => by rw [(hf u).1, (hf u).2]

/-! ## Looking up behind a change -/

/-- A user at the end is found under its address only where no earlier one has it. -/
theorem byEmail?_append :
    (AccountStore.mk (store.users ++ [user])).byEmail? email =
      (store.byEmail? email).or (if user.email = email then some user else none) := by
  by_cases h : user.email = email <;> simp [byEmail?, h]

/-- A change that keeps emails shows in the record with the given email only. -/
theorem byEmail?_modifyByEmail (hf : KeepsKeys f) (email' : String) :
    (store.modifyByEmail email f).byEmail? email' =
      (store.byEmail? email').map fun u => if u.email = email then f u else u := by
  simp only [byEmail?, modifyByEmail, List.find?_map]
  congr 2
  funext u
  by_cases h : u.email = email <;> simp [h, (hf u).2]

end AccessControl.AccountStore
