import AccessControl.Proofs.Identity.Requests
import Mathlib.Data.List.Induction
import Mathlib.Data.List.Nodup

/-!
# Groups

The members of a group under a type are the ids that were assigned to it under this type, each once
and in the order of their first assignment (`GroupTable.members_assign`), as long as the table is
usable. A table that is out of use stays so. Of all requests to the identity service only an
assignment changes the groups (`LocalIdentity.groups_handle`), and a listing of members changes
nothing (`LocalIdentity.members_run`).
-/

namespace AccessControl

variable {α β : Type}

/-! ## First occurrences -/

section FirstOccurrences

variable [BEq β] [LawfulBEq β]

theorem eraseDups_concat (xs : List β) (x : β) [Decidable (x ∈ xs)] :
    (xs ++ [x]).eraseDups = if x ∈ xs then xs.eraseDups else xs.eraseDups ++ [x] := by
  rw [List.eraseDups_append]
  by_cases h : x ∈ xs
  · simp [h, List.removeAll]
  · simp [h, List.removeAll, List.eraseDups_cons]

theorem nodup_eraseDups (xs : List β) : xs.eraseDups.Nodup := by
  classical
  induction xs using List.reverseRecOn with
  | nil => exact List.nodup_nil
  | append_singleton xs x ih =>
    rw [eraseDups_concat]
    split
    · exact ih
    · rename_i hnew
      rw [← List.concat_eq_append]
      exact ih.concat (mt List.mem_eraseDups.mp hnew)

end FirstOccurrences

/-! ## What an assignment does -/

namespace GroupTable

variable {table : GroupTable} {group memberType : String}

/-- The members of a group are the ids that were assigned to it. -/
theorem mem_members_iff {id : String} :
    id ∈ table.members group memberType ↔ ⟨group, memberType, id⟩ ∈ table.memberships := by
  simp only [members, List.mem_map, List.mem_filter, Bool.and_eq_true, beq_iff_eq]
  constructor
  · rintro ⟨m, ⟨hm, rfl, rfl⟩, rfl⟩
    exact hm
  · exact fun hm => ⟨_, ⟨hm, rfl, rfl⟩, rfl⟩

/-- A membership adds a member to its own group under its own type, and to no other. -/
theorem members_add (m : Membership) :
    (table.add m).members group memberType =
      if (m.group = group ∧ m.memberType = memberType) ∧ m.id ∉ table.members group memberType then
        table.members group memberType ++ [m.id]
      else table.members group memberType := by
  unfold add
  by_cases hthere : m ∈ table.memberships
  · rw [if_pos (List.contains_iff_mem.mpr hthere), if_neg]
    rintro ⟨⟨rfl, rfl⟩, hnew⟩
    exact hnew (mem_members_iff.mpr hthere)
  · rw [if_neg (mt List.contains_iff_mem.mp hthere)]
    by_cases hsame : m.group = group ∧ m.memberType = memberType
    · obtain ⟨rfl, rfl⟩ := hsame
      rw [if_pos ⟨⟨rfl, rfl⟩, mt mem_members_iff.mp hthere⟩]
      simp [members]
    · rw [if_neg fun h => hsame h.1]
      simp [members, hsame]

/-- Members that are the first occurrences of some ids remain so when more are added. -/
theorem members_addAll {assigned : List String} (group' memberType' : String) (ids : List String)
    (h : table.members group memberType = assigned.eraseDups) :
    (table.addAll group' memberType' ids).members group memberType =
      (assigned ++ if group' = group ∧ memberType' = memberType then ids else []).eraseDups := by
  induction ids generalizing table assigned with
  | nil =>
    rw [ite_self, List.append_nil]
    exact h
  | cons id ids ih =>
    have hadd : (table.add ⟨group', memberType', id⟩).members group memberType =
        (assigned ++ if group' = group ∧ memberType' = memberType then [id] else []).eraseDups := by
      rw [members_add, h]
      by_cases hsame : group' = group ∧ memberType' = memberType
      · rw [if_pos hsame, eraseDups_concat]
        by_cases hold : id ∈ assigned
        · simp [hold]
        · simp [hold, hsame]
      · rw [if_neg hsame, if_neg fun h => hsame h.1, List.append_nil]
    refine (ih hadd).trans ?_
    by_cases hsame : group' = group ∧ memberType' = memberType
    · simp only [if_pos hsame, List.append_assoc, List.singleton_append]
    · simp only [if_neg hsame, List.append_assoc, List.nil_append]

/-- Members that are the first occurrences of some ids remain so behind an assignment, whether its
supply died or not. -/
theorem members_assign {assigned : List String} (group' memberType' : String) (supply : IdSupply)
    (h : table.members group memberType = assigned.eraseDups) :
    (table.assign group' memberType' supply).members group memberType =
      (assigned ++
        if group' = group ∧ memberType' = memberType then supply.ids else []).eraseDups :=
  members_addAll group' memberType' supply.ids h

end GroupTable

/-! ## Requests -/

/-- The ids that a request assigns to a group under a type. -/
def IdentityCall.assigned (group memberType : String) : IdentityCall → List String
  | .assign group' memberType' supply =>
    if group' = group ∧ memberType' = memberType then supply.ids else []
  | _ => []

namespace LocalIdentity

/-- What a request makes of the groups. -/
def groupsBehind (groups : GroupTable) : IdentityCall → GroupTable
  | .assign group memberType supply =>
    if groups.usable then groups.assign group memberType supply else groups
  | _ => groups

/-- Only an assignment changes the groups, and only if the table is usable. -/
theorem groups_handle (service : LocalIdentity α) (request : IdentityCall) (s : IdentityState α) :
    (service.handle request s).state.groups = groupsBehind s.groups request := by
  cases request with
  | issue id email kind =>
    rw [handle, issue_run]
    split_ifs
    · rfl
    · split <;> rfl
  | identify token => rfl
  | revoke token => rfl
  | assign group memberType supply =>
    simp only [handle, assign, groupsBehind, Action.bind_run, Action.get_run]
    by_cases husable : s.groups.usable = true
    · simp only [if_pos husable, Action.bind_run, Action.set_run]
      split <;> rfl
    · simp only [if_neg husable, Action.fail_run]
  | members token group offset limit memberType => rw [handle, members_state]; rfl
  | authorize tuple => rw [handle, (authorize_run service tuple s).2]; rfl
  | addPolicy tuple => rw [handle, (addPolicy_run service tuple s).2]; rfl
  | addPolicies token batch =>
    obtain ⟨a, keys, hstate, _⟩ := addPolicies_state service token batch s
    rw [handle, hstate]
    rfl

/-- Groups that are usable behind a request were so in front of it. -/
theorem usable_of_usable_groupsBehind {groups : GroupTable} {request : IdentityCall}
    (h : (groupsBehind groups request).usable = true) : groups.usable = true := by
  cases request with
  | assign group memberType supply =>
    by_contra hunusable
    rw [groupsBehind, if_neg hunusable] at h
    exact hunusable h
  | _ => exact h

/-- Members that are the first occurrences of some ids remain so behind a request. -/
theorem members_groupsBehind {groups : GroupTable} {group memberType : String}
    {assigned : List String} (usable : groups.usable = true) (request : IdentityCall)
    (h : groups.members group memberType = assigned.eraseDups) :
    (groupsBehind groups request).members group memberType =
      (assigned ++ request.assigned group memberType).eraseDups := by
  cases request with
  | assign group' memberType' supply =>
    rw [groupsBehind, if_pos usable]
    exact GroupTable.members_assign group' memberType' supply h
  | _ => exact h.trans (congrArg List.eraseDups (List.append_nil assigned).symm)

/-- A token that resolves stays as it is. -/
theorem resolve_of_ok {keys : KeyTable} {token : String} {now : Calendar.Timestamp}
    {caller : Identity} (h : (keys.resolve token now).1 = .ok caller) :
    (keys.resolve token now).2 = keys := by
  unfold KeyTable.resolve at h ⊢
  grind

/-- Whoever has a token that resolves is answered with a slice of the members, and changes
nothing. -/
theorem members_run {token : String} {s : IdentityState α} {caller : Identity}
    (resolves : (s.keys.resolve token s.now).1 = .ok caller) (usable : s.groups.usable = true)
    (group : String) (offset limit : Nat) (memberType : String) :
    members token group offset limit memberType s =
      ⟨.ok (window offset limit (s.groups.members group memberType)), [], s⟩ := by
  simp only [members, Action.bind_run, identify_run, resolves, resolve_of_ok resolves,
    Action.get_run, if_pos usable]
  rfl

end LocalIdentity

end AccessControl
