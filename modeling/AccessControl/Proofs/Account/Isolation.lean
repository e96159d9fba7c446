import AccessControl.Proofs.Deployment
import Mathlib.Data.List.Forall2

/-!
# Isolation of accounts

A request changes at most the record of the identity it comes from, and of that record at most its
metadata or its password. Only a registration adds a record, and it changes none.
-/

namespace AccessControl.Deployment

variable {α ω : Type} {d : Deployment α ω} {request : ServiceCall}
  {result : Except AccountError request.Answer}

/-- What a request that ended so makes of the record of its caller. -/
def Replaced (d : Deployment α ω) :
    (request : ServiceCall) → Except AccountError request.Answer → User → User → Prop
  | .updateUser _ payload, .ok _, u, u' => u' = { u with metadata := payload.metadata }
  | .resetPassword _ password, .ok _, u, u' =>
    ∃ hash, d.hasher.Hashes password hash ∧ u' = { u with password := hash }
  | .changePassword _ password _, .ok _, u, u' =>
    ∃ hash, d.hasher.Hashes password hash ∧ u' = { u with password := hash }
  | _, _, u, u' => u' = u

/-- The records that a request that ended so adds. -/
def Added (d : Deployment α ω) :
    (request : ServiceCall) → Except AccountError request.Answer → List User → Prop
  | .register _ user, .ok id, added =>
    ∃ hash, d.ids.Draws id ∧ d.hasher.Hashes user.password hash ∧
      added = [{ user with id := id, password := hash }]
  | _, _, added => added = []

/-- What a request may make of the record of any user. -/
def Permitted (d : Deployment α ω) (w : World α ω) (request : ServiceCall)
    (result : Except AccountError request.Answer) (u u' : User) : Prop :=
  if ∃ caller, w.callerOf request = some caller ∧ caller.email = u.email then
    d.Replaced request result u u'
  else u' = u

/-- A request that writes nothing or fails replaces nothing. -/
theorem replaced_self (failed : request.Writes → ∃ error, result = .error error) (u : User) :
    d.Replaced request result u u := by
  cases request with
  | updateUser | resetPassword | changePassword =>
    obtain ⟨error, rfl⟩ := failed trivial
    rfl
  | _ => cases result <;> rfl

/-- A request that writes nothing or fails adds nothing. -/
theorem added_nil (failed : request.Writes → ∃ error, result = .error error) :
    d.Added request result [] := by
  cases request with
  | register =>
    obtain ⟨error, rfl⟩ := failed trivial
    rfl
  | _ => cases result <;> rfl

theorem permitted_of_replaced_self {w : World α ω} {u : User}
    (h : d.Replaced request result u u) : d.Permitted w request result u u := by
  unfold Permitted
  split_ifs
  · exact h
  · rfl

/-- A change of the record with the caller's email is permitted if it is the one that was asked
for. -/
theorem permitted_modify {w : World α ω} {caller : Identity} {f : User → User} {u : User}
    (hcaller : w.callerOf request = some caller) (h : d.Replaced request result u (f u)) :
    d.Permitted w request result u (if u.email = caller.email then f u else u) := by
  unfold Permitted
  by_cases hemail : u.email = caller.email
  · rw [if_pos ⟨caller, hcaller, hemail.symm⟩, if_pos hemail]
    exact h
  · rw [if_neg hemail, if_neg]
    rintro ⟨caller', hcaller', hemail'⟩
    rw [hcaller, Option.some.injEq] at hcaller'
    exact hemail (hcaller' ▸ hemail'.symm)

/-- What a request does to the store touches only what is permitted. -/
theorem permitted_of_effect {w : World α ω} {store : AccountStore}
    (effect : Effect d.service World.accounts w request result store) :
    ∃ users added, store.users = users ++ added ∧
      List.Forall₂ (d.Permitted w request result) w.accounts.users users ∧
      d.Added request result added := by
  -- a change by email reaches at most the record of the caller
  have hmodified : ∀ {caller : Identity} {f : User → User},
      w.callerOf request = some caller → (∀ u, d.Replaced request result u (f u)) →
      List.Forall₂ (d.Permitted w request result) w.accounts.users
        (w.accounts.modifyByEmail caller.email f).users := by
    intro caller f hcaller h
    rw [AccountStore.modifyByEmail, List.forall₂_map_right_iff, List.forall₂_same]
    exact fun u _ => permitted_modify hcaller (h u)
  cases effect with
  | kept failed =>
    refine ⟨w.accounts.users, [], (List.append_nil _).symm, ?_, added_nil failed⟩
    exact List.forall₂_same.mpr fun u _ => permitted_of_replaced_self (replaced_self failed u)
  | @registered token user id hash valid accepted fresh hashed saved =>
    refine ⟨w.accounts.users, _, rfl, ?_, hash, draws_of_answers fresh, hashes_of_answers hashed,
      rfl⟩
    exact List.forall₂_same.mpr fun u _ => permitted_of_replaced_self rfl
  | updated resolved there =>
    exact ⟨_, [], (List.append_nil _).symm,
      hmodified (callerOf_eq_some rfl resolved) fun u => rfl, rfl⟩
  | reset resolved there accepted hashed =>
    exact ⟨_, [], (List.append_nil _).symm,
      hmodified (callerOf_eq_some rfl resolved) fun u => ⟨_, hashes_of_answers hashed, rfl⟩, rfl⟩
  | changed resolved there accepted hashed =>
    exact ⟨_, [], (List.append_nil _).symm,
      hmodified (callerOf_eq_some rfl resolved) fun u => ⟨_, hashes_of_answers hashed, rfl⟩, rfl⟩

/-- A request that is meant to change the record of its caller succeeds only if there is one. -/
theorem exists_changed_of_effect {w : World α ω} {store : AccountStore}
    (effect : Effect d.service World.accounts w request result store) (changes : request.Changes)
    (succeeds : ∃ x, result = .ok x) :
    ∃ caller, w.callerOf request = some caller ∧
      ∃ u ∈ w.accounts.users, u.email = caller.email := by
  obtain ⟨x, rfl⟩ := succeeds
  have hfound : ∀ {caller : Identity}, (∃ u, w.accounts.byEmail? caller.email = some u) →
      ∃ u ∈ w.accounts.users, u.email = caller.email :=
    fun ⟨u, hu⟩ => ⟨u, AccountStore.mem_of_byEmail? hu⟩
  cases effect with
  | kept failed =>
    obtain ⟨error, herror⟩ := failed changes.writes
    cases herror
  | registered => exact changes.elim
  | updated resolved there => exact ⟨_, callerOf_eq_some rfl resolved, hfound there⟩
  | reset resolved there => exact ⟨_, callerOf_eq_some rfl resolved, hfound there⟩
  | changed resolved there => exact ⟨_, callerOf_eq_some rfl resolved, hfound there⟩

/-- Wherever a run from an empty store leads, no two records share an id or an email, and a request
leaves every record alone but that of its caller; there it makes the change it was asked for if it
succeeds, and none if it fails. A request that asks for a change succeeds only if its caller has a
record. A successful registration adds one record, and no other request adds any. From then on,
records keep their ids and emails, and none is removed. -/
theorem accounts_isolated (d : Deployment α ω) (identity : IdentityState α) (outside : ω)
    (moves : List Move) (request : ServiceCall) :
    let w := d.run { identity, outside } moves
    let o := d.service.serve request w
    w.accounts.WellFormed ∧
      (∃ users added, o.state.accounts.users = users ++ added ∧
        List.Forall₂ (d.Permitted w request o.result) w.accounts.users users ∧
        d.Added request o.result added) ∧
      (request.Changes → (∃ x, o.result = .ok x) → ∃ caller, w.callerOf request = some caller ∧
        ∃ u ∈ w.accounts.users, u.email = caller.email) ∧
      ∀ later, w.accounts.keys <+: (d.run w later).accounts.keys := by
  intro w o
  have effect := d.service.serve_effect d.storesIn request w
  exact ⟨wellFormed_run moves AccountStore.wellFormed_empty, permitted_of_effect effect,
    exists_changed_of_effect effect, fun later => keys_run later⟩

end AccessControl.Deployment
