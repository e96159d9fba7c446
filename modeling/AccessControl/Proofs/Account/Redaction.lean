import AccessControl.Proofs.Account.Alike
import AccessControl.Proofs.Account.Store
import Mathlib.Data.List.Sort

/-!
# The repository does not look at passwords

What the repository answers, and what becomes of its records up to their passwords, depends on the
records up to their passwords only. Stores that are the same up to passwords are *alike*.
-/

namespace AccessControl.AccountStore

/-- The store without passwords. -/
def redacted (store : AccountStore) : AccountStore :=
  ⟨store.users.map User.redacted⟩

variable {store : AccountStore} {user : User} {email : String} {f : User → User}

/-- Without passwords, the same user is found under an address, without its password. -/
theorem byEmail?_redacted (email : String) (store : AccountStore) :
    store.redacted.byEmail? email = (store.byEmail? email).map User.redacted := by
  simp only [byEmail?, redacted, List.find?_map]
  rfl

/-- Without passwords, the same user is found under an id, without its password. -/
theorem byId?_redacted (id : String) (store : AccountStore) :
    store.redacted.byId? id = (store.byId? id).map User.redacted := by
  simp only [byId?, redacted, List.find?_map]
  rfl

/-- Without passwords, the same users are selected, without theirs. -/
theorem selected_redacted (query : UserQuery) (store : AccountStore) :
    store.redacted.selected query = (store.selected query).map User.redacted := by
  simp only [selected, redacted, List.filter_map]
  rw [List.map_mergeSort]
  · rfl
  · exact fun _ _ _ _ => rfl

/-- A page of users is the same without passwords. -/
theorem page_redacted (query : UserQuery) (store : AccountStore) :
    store.redacted.page query = store.page query := by
  simp only [page, selected_redacted, List.length_map, window, ← List.map_drop, ← List.map_take,
    List.map_map]
  rfl

/-- A change that is the same without passwords can be made without them. -/
theorem modifyByEmail_redacted {f' : User → User} (h : ∀ u, (f u).redacted = f' u.redacted) :
    (store.modifyByEmail email f).redacted = store.redacted.modifyByEmail email f' := by
  simp only [redacted, modifyByEmail, List.map_map]
  congr 1
  apply List.map_congr_left
  intro u _
  show (if u.email = email then f u else u).redacted =
    if u.redacted.email = email then f' u.redacted else u.redacted
  by_cases hemail : u.email = email
  · rw [if_pos hemail, if_pos (show u.redacted.email = email from hemail)]
    exact h u
  · rw [if_neg hemail, if_neg (show ¬ u.redacted.email = email from hemail)]

/-- The stores are the same up to passwords. -/
def Alike (store store' : AccountStore) : Prop :=
  store.redacted = store'.redacted

section Alike

variable {store' : AccountStore} {user' : User}

/-- A look-up finds the same record in both up to its password, or none in both. -/
theorem Alike.found {found found' : Option User}
    (alike : found.map User.redacted = found'.map User.redacted) :
    found = none ∧ found' = none ∨ ∃ u u', found = some u ∧ found' = some u' ∧ u.Alike u' := by
  cases found with
  | none =>
    cases found' with
    | none => exact Or.inl ⟨rfl, rfl⟩
    | some u' => cases alike
  | some u =>
    cases found' with
    | none => cases alike
    | some u' => exact Or.inr ⟨u, u', rfl, rfl, Option.some.inj alike⟩

theorem Alike.byEmail? (alike : store.Alike store') (email : String) :
    (store.byEmail? email).map User.redacted = (store'.byEmail? email).map User.redacted := by
  rw [← byEmail?_redacted, ← byEmail?_redacted, show store.redacted = store'.redacted from alike]

theorem Alike.byId? (alike : store.Alike store') (id : String) :
    (store.byId? id).map User.redacted = (store'.byId? id).map User.redacted := by
  rw [← byId?_redacted, ← byId?_redacted, show store.redacted = store'.redacted from alike]

theorem Alike.page (alike : store.Alike store') (query : UserQuery) :
    store.page query = store'.page query := by
  rw [← page_redacted query store, ← page_redacted query store',
    show store.redacted = store'.redacted from alike]

/-- A change that is the same without passwords does the same to alike stores. -/
theorem Alike.update (alike : store.Alike store') (email : String) {f g : User → User}
    (f' : User → User) (hf : ∀ u, (f u).redacted = f' u.redacted)
    (hg : ∀ u, (g u).redacted = f' u.redacted) :
    (update email f store).result = (update email g store').result ∧
      (update email f store).events = (update email g store').events ∧
      (update email f store).state.Alike (update email g store').state := by
  rw [update_run, update_run]
  obtain ⟨h, h'⟩ | ⟨u, u', h, h', _⟩ := Alike.found (alike.byEmail? email) <;> rw [h, h']
  · exact ⟨rfl, rfl, alike⟩
  · refine ⟨rfl, rfl, ?_⟩
    show (store.modifyByEmail email f).redacted = (store'.modifyByEmail email g).redacted
    rw [modifyByEmail_redacted hf, modifyByEmail_redacted hg,
      show store.redacted = store'.redacted from alike]

/-- A new record that is the same up to its password is saved into alike stores, or refused by
both. -/
theorem Alike.save (alike : store.Alike store') (halike : user.Alike user') :
    (save user store).result = (save user' store').result ∧
      (save user store).events = (save user' store').events ∧
      (save user store).state.Alike (save user' store').state := by
  have isSome {found found' : Option User}
      (h : found.map User.redacted = found'.map User.redacted) : found.isSome = found'.isSome := by
    simpa using congrArg Option.isSome h
  rw [save_run, save_run, ← halike.id_eq, ← halike.email_eq, isSome (alike.byEmail? user.email),
    isSome (alike.byId? user.id)]
  split_ifs
  · exact ⟨rfl, rfl, alike⟩
  · exact ⟨rfl, rfl, alike⟩
  · refine ⟨rfl, rfl, ?_⟩
    have husers : store.users.map User.redacted = store'.users.map User.redacted :=
      congrArg AccountStore.users alike
    simp only [Alike, redacted, List.map_append, husers, List.map_cons, List.map_nil,
      show user.redacted = user'.redacted from halike]

end Alike

end AccessControl.AccountStore
