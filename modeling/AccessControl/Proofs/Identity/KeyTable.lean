import AccessControl.Identity.KeyTable
import AccessControl.Proofs.Calendar.Timestamp
import Mathlib.Data.List.Nodup
import Mathlib.Data.Set.Insert

/-!
# The table of issued keys

The lemmas named `get?_...` say what each operation does to the claims of every token. A sweep looks
at all bindings of a token, so its lemma asks for a table that binds each token once; every
operation keeps it so.

`KeyTable.resolve_eq_ok_iff` says which tokens resolve: those bound to claims that are alive.
`KeyTable.Sheds` says of a table that it becomes another one by losing dead keys only.
-/

namespace AccessControl

open AccessControl.Calendar

/-- Claims are valid at exactly the times between their issue and their expiry. -/
theorem KeyClaims.validate_eq_ok_iff {claims : KeyClaims} {now : Timestamp} :
    claims.validate now = .ok () ↔ claims.Alive now := by
  unfold validate Alive
  constructor
  · intro h
    split_ifs at h with _ hissued hexpired
    exact ⟨not_lt.mp hissued, not_le.mp hexpired⟩
  · rintro ⟨hissued, hexpired⟩
    rw [if_neg (not_le.mpr (lt_of_le_of_lt hissued hexpired)), if_neg (not_lt.mpr hissued),
      if_neg (not_le.mpr hexpired)]

/-- The key has expired at `now`, or is never alive. -/
def KeyClaims.Dead (claims : KeyClaims) (now : Timestamp) : Prop :=
  claims.expiresAt ≤ claims.issuedAt ∨ claims.expiresAt ≤ now

/-- A dead key never comes to life again. -/
theorem KeyClaims.Dead.not_alive {claims : KeyClaims} {now later : Timestamp}
    (dead : claims.Dead now) (forward : now ≤ later) : ¬ claims.Alive later := by
  rintro ⟨hissued, hexpired⟩
  rcases dead with hwindow | hlate
  · exact absurd hwindow (not_le.mpr (lt_of_le_of_lt hissued hexpired))
  · exact absurd (le_trans hlate forward) (not_le.mpr hexpired)

/-- Claims that fail for good are dead. -/
theorem KeyClaims.dead_of_isFinal {claims : KeyClaims} {now : Timestamp} {error : ClaimsError}
    (h : claims.validate now = .error error) (final : error.isFinal = true) : claims.Dead now := by
  unfold validate at h
  split_ifs at h with hwindow hearly hlate
  · exact Or.inl hwindow
  · rw [← Except.error.inj h] at final
    exact absurd final (by decide)
  · exact Or.inr hlate

namespace KeyTable

variable {table : KeyTable} {token : String} {claims : KeyClaims} {now : Timestamp}

/-- Every token is bound at most once. -/
def Unique (table : KeyTable) : Prop :=
  (table.keys.map (·.1)).Nodup

theorem unique_empty : Unique empty := List.nodup_nil

theorem get?_empty (token : String) : empty.get? token = none := rfl

/-- An erased token is found no more, and every other as before. -/
theorem get?_erase (table : KeyTable) (token other : String) :
    (table.erase token).get? other = if other = token then none else table.get? other := by
  simp only [get?, erase, List.find?_filter]
  by_cases h : other = token
  · subst h
    simp
  · rw [if_neg h]
    congr 2
    funext binding
    by_cases hb : binding.1 = other <;> simp [hb, h]

/-- An inserted token is found with its claims, and every other as before. -/
theorem get?_insert (table : KeyTable) (token other : String) (claims : KeyClaims) :
    (table.insert token claims).get? other =
      if other = token then some claims else table.get? other := by
  have hfind : (table.insert token claims).get? other =
      ((table.erase token).get? other).or (if token = other then some claims else none) := by
    simp only [get?, insert, List.find?_append]
    by_cases h : token = other <;> cases (table.erase token).keys.find? (·.1 == other) <;> simp [h]
  rw [hfind, get?_erase]
  by_cases h : other = token
  · simp [h]
  · simp [h, Ne.symm h]

/-- A sweep drops exactly the claims whose expiry is not after it. -/
theorem Unique.get?_sweep (unique : Unique table) (now : Timestamp) (token : String) :
    (table.sweep now).get? token =
      (table.get? token).filter fun claims => decide (now < claims.expiresAt) := by
  obtain ⟨keys⟩ := table
  simp only [Unique] at unique
  simp only [get?, sweep]
  induction keys with
  | nil => rfl
  | cons binding rest ih =>
    obtain ⟨bound, claims⟩ := binding
    rw [List.map_cons, List.nodup_cons] at unique
    by_cases hb : bound = token
    · -- further bindings of the token would break uniqueness, so the tail holds none
      have hrest : rest.find? (·.1 == token) = none := by
        rw [List.find?_eq_none]
        intro other hother heq
        refine unique.1 (List.mem_map.mpr ⟨other, hother, ?_⟩)
        rw [hb]
        simpa using heq
      by_cases hlive : now < claims.expiresAt
      · simp [hb, hlive, Option.filter]
      · have htail := ih unique.2
        rw [hrest] at htail
        simp only [List.filter_cons, hlive, decide_false, Bool.false_eq_true, if_false,
          List.find?_cons, hb, beq_self_eq_true, Option.map_some, Option.filter]
        exact htail
    · have htail := ih unique.2
      by_cases hlive : now < claims.expiresAt <;> simpa [hb, hlive] using htail

theorem Unique.erase (unique : Unique table) (token : String) : Unique (table.erase token) :=
  (List.Sublist.map _ List.filter_sublist).nodup unique

theorem Unique.sweep (unique : Unique table) (now : Timestamp) : Unique (table.sweep now) :=
  (List.Sublist.map _ List.filter_sublist).nodup unique

/-- Inserting a token leaves the tokens distinct, since the old entry goes. -/
theorem Unique.insert (unique : Unique table) (token : String) (claims : KeyClaims) :
    Unique (table.insert token claims) := by
  simp only [Unique, KeyTable.insert, List.map_append, List.nodup_append]
  refine ⟨unique.erase token, List.nodup_singleton _, ?_⟩
  simp [KeyTable.erase]

/-- Enrolling a key leaves the tokens distinct. -/
theorem Unique.enroll (unique : Unique table) (token : String) (claims : KeyClaims) :
    Unique (table.enroll token claims) :=
  (unique.sweep _).insert token claims

/-- Resolving a token leaves the tokens distinct. -/
theorem Unique.resolve (unique : Unique table) (token : String) (now : Timestamp) :
    Unique (table.resolve token now).2 := by
  unfold KeyTable.resolve
  split_ifs
  · exact unique
  · split
    · exact unique
    · split
      · exact unique
      · split_ifs
        · exact unique.erase token
        · exact unique

/-- Behind an enrolment, the new token is found with its claims, and an older one if it had not
expired when the new one was issued. -/
theorem Unique.get?_enroll (unique : Unique table) (token other : String) (claims : KeyClaims) :
    (table.enroll token claims).get? other =
      if other = token then some claims
      else (table.get? other).filter fun old => decide (claims.issuedAt < old.expiresAt) := by
  rw [KeyTable.enroll, get?_insert, unique.get?_sweep]

/-- A token resolves exactly if it is bound to claims that are alive. -/
theorem resolve_eq_ok_iff {identity : Identity} :
    (table.resolve token now).1 = .ok identity ↔
      token ≠ "" ∧ ∃ claims, table.get? token = some claims ∧ claims.Alive now ∧
        claims.identity = identity := by
  unfold resolve
  by_cases htoken : token = ""
  · simp [htoken]
  · cases hget : table.get? token with
    | none => simp [htoken]
    | some claims =>
      cases hvalid : claims.validate now with
      | ok _ => simp [htoken, hvalid, ← KeyClaims.validate_eq_ok_iff]
      | error error => simp [htoken, hvalid, ← KeyClaims.validate_eq_ok_iff]

/-! ## Bindings -/

/-- Claims that are found under a token stand in the table with it. -/
theorem mem_of_get? (h : table.get? token = some claims) : (token, claims) ∈ table.keys := by
  simp only [get?, Option.map_eq_some_iff] at h
  obtain ⟨⟨bound, _⟩, hfind, rfl⟩ := h
  have hbound : bound = token := by simpa using List.find?_some hfind
  exact hbound ▸ List.mem_of_find?_eq_some hfind

/-- Resolving adds no entry. -/
theorem mem_of_mem_resolve {binding : String × KeyClaims}
    (h : binding ∈ (table.resolve token now).2.keys) : binding ∈ table.keys := by
  unfold resolve at h
  split_ifs at h
  · exact h
  · split at h
    · exact h
    · split at h
      · exact h
      · split_ifs at h
        · exact (List.mem_filter.mp h).1
        · exact h

/-- Enrolling adds no entry but the new one. -/
theorem mem_of_mem_enroll {binding : String × KeyClaims}
    (h : binding ∈ (table.enroll token claims).keys) :
    binding ∈ table.keys ∨ binding = (token, claims) := by
  rcases List.mem_append.mp h with h | h
  · exact Or.inl (List.mem_filter.mp (List.mem_filter.mp h).1).1
  · exact Or.inr (List.mem_singleton.mp h)

/-! ## Losing dead keys -/

/-- At some of the given times `before` loses keys that are dead then, and so becomes `after`. -/
def Sheds (before : KeyTable) (times : Set Timestamp) (after : KeyTable) : Prop :=
  ∀ token, after.get? token = before.get? token ∨ after.get? token = none ∧
    ∃ claims, before.get? token = some claims ∧ ∃ time ∈ times, claims.Dead time

namespace Sheds

variable {first second third : KeyTable} {times times' : Set Timestamp}

theorem refl (table : KeyTable) (times : Set Timestamp) : table.Sheds times table :=
  fun _ => Or.inl rfl

theorem mono (h : first.Sheds times second) (sub : times ⊆ times') : first.Sheds times' second := by
  intro token
  refine (h token).imp_right ?_
  rintro ⟨hnone, claims, hclaims, time, htime, hdead⟩
  exact ⟨hnone, claims, hclaims, time, sub htime, hdead⟩

theorem trans (h : first.Sheds times second) (h' : second.Sheds times third) :
    first.Sheds times third := by
  intro token
  rcases h' token with heq' | ⟨hnone', claims, hclaims, hdead⟩
  · rw [heq']
    exact h token
  · -- a key that is still there at the second table was there at the first one
    rcases h token with heq | ⟨hnone, _⟩
    · exact Or.inr ⟨hnone', claims, heq ▸ hclaims, hdead⟩
    · rw [hnone] at hclaims
      cases hclaims

/-- What is lost at one time does not come to life behind it. -/
theorem not_alive {now : Timestamp} (h : first.Sheds {now} second) (token : String) :
    second.get? token = first.get? token ∨ second.get? token = none ∧
      ∀ claims, first.get? token = some claims → ∀ later, now ≤ later → ¬ claims.Alive later := by
  refine (h token).imp_right ?_
  rintro ⟨hnone, claims, hclaims, time, rfl, hdead⟩
  refine ⟨hnone, fun claims' hclaims' later forward => ?_⟩
  obtain rfl := Option.some.inj (hclaims.symm.trans hclaims')
  exact hdead.not_alive forward

end Sheds

/-- Resolving a token loses at most this one, and only if it is dead. -/
theorem sheds_resolve (table : KeyTable) (token : String) (now : Timestamp) :
    table.Sheds {now} (table.resolve token now).2 := by
  intro other
  by_cases htoken : token = ""
  · left
    simp only [resolve, if_pos htoken]
  · cases hget : table.get? token with
    | none =>
      left
      simp only [resolve, if_neg htoken, hget]
    | some claims =>
      cases hvalid : claims.validate now with
      | ok _ =>
        left
        simp only [resolve, if_neg htoken, hget, hvalid]
      | error error =>
        simp only [resolve, if_neg htoken, hget, hvalid]
        by_cases final : error.isFinal = true
        · rw [if_pos final, get?_erase]
          by_cases h : other = token
          · have hdead := KeyClaims.dead_of_isFinal hvalid final
            exact Or.inr ⟨if_pos h, claims, h ▸ hget, now, rfl, hdead⟩
          · exact Or.inl (if_neg h)
        · rw [if_neg final]
          exact Or.inl rfl

/-- A sweep loses the keys that have expired. -/
theorem Unique.sheds_sweep (unique : Unique table) (now : Timestamp) :
    table.Sheds {now} (table.sweep now) := by
  intro token
  rw [unique.get?_sweep]
  cases table.get? token with
  | none => exact Or.inl rfl
  | some claims =>
    by_cases hlive : now < claims.expiresAt
    · exact Or.inl (by simp [hlive])
    · refine Or.inr ⟨?_, claims, rfl, now, rfl, Or.inr (not_lt.mp hlive)⟩
      simp only [Option.filter_some, hlive, decide_false, Bool.false_eq_true, if_false]

end KeyTable

end AccessControl
