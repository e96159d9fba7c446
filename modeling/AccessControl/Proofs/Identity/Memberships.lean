import AccessControl.Proofs.Account.Listing
import AccessControl.Proofs.Identity.Groups
import AccessControl.Proofs.Identity.IssuanceLog

/-!
# Members of groups along a run

All memberships are kept in one list, and the members of a group under a type are picked from it
when they are asked for. Along a run of the identity service they are the ids that its requests
assigned to this group under this type, each once and in the order of the first assignment
(`LocalIdentity.Run.members_eq`), whatever was assigned to other groups or under other types
meanwhile. Whoever has a token that resolves is shown slices of this list, and slices of one size
make up the whole (`LocalIdentity.Run.members_listed`).
-/

namespace AccessControl

variable {α β : Type}

/-! ## The order of first occurrences -/

/-- First occurrences stand in the order in which they occur first. -/
theorem pairwise_idxOf_eraseDups [BEq β] [LawfulBEq β] (xs : List β) :
    xs.eraseDups.Pairwise fun a b => xs.idxOf a < xs.idxOf b := by
  classical
  induction xs using List.reverseRecOn with
  | nil => exact List.Pairwise.nil
  | append_singleton xs x ih =>
    have hbefore : xs.eraseDups.Pairwise fun a b => (xs ++ [x]).idxOf a < (xs ++ [x]).idxOf b := by
      refine ih.imp_of_mem fun {a b} ha hb hab => ?_
      rw [List.idxOf_append_of_mem (List.mem_eraseDups.mp ha),
        List.idxOf_append_of_mem (List.mem_eraseDups.mp hb)]
      exact hab
    rw [eraseDups_concat]
    split
    · exact hbefore
    · rename_i hnew
      refine List.pairwise_append.mpr ⟨hbefore, List.pairwise_singleton _ x, ?_⟩
      -- the new one comes behind all others
      intro a ha b hb
      have ha' := List.mem_eraseDups.mp ha
      rw [List.mem_singleton.mp hb, List.idxOf_append_of_mem ha',
        List.idxOf_append_of_notMem hnew]
      exact Nat.lt_add_right _ (List.idxOf_lt_length_of_mem ha')

/-! ## Assignments -/

namespace GroupTable

variable {table : GroupTable} {group memberType : String}

theorem usable_addAll (ids : List String) :
    (table.addAll group memberType ids).usable = table.usable := by
  induction ids generalizing table with
  | nil => rfl
  | cons id ids ih =>
    refine ih.trans ?_
    show (table.add ⟨group, memberType, id⟩).usable = table.usable
    unfold add
    split <;> rfl

/-- Behind an assignment, the groups are usable if they were and it did not die. -/
theorem usable_assign (supply : IdSupply) :
    (table.assign group memberType supply).usable = (table.usable && !supply.dies) := by
  rw [assign, usable_addAll]

/-- Assigning members again changes nothing. -/
theorem assign_members {ids : List String} (h : ∀ id ∈ ids, id ∈ table.members group memberType) :
    table.assign group memberType ⟨ids, false⟩ = table := by
  have hall : table.addAll group memberType ids = table := by
    induction ids with
    | nil => rfl
    | cons id ids ih =>
      obtain ⟨hid, hids⟩ := List.forall_mem_cons.mp h
      have hadd : table.add ⟨group, memberType, id⟩ = table :=
        if_pos (List.contains_iff_mem.mpr (mem_members_iff.mp hid))
      rw [addAll, List.foldl_cons, hadd]
      exact ih hids
  simp only [assign, hall, Bool.not_false, Bool.and_true]

end GroupTable

namespace IdentityCall

/-- The request is an assignment whose supply of ids dies. -/
def Breaks : IdentityCall → Prop
  | .assign _ _ supply => supply.dies = true
  | _ => False

/-- Only an assignment assigns. -/
theorem assigned_eq_nil {request : IdentityCall} {group : String}
    (h : ∀ memberType supply, request ≠ .assign group memberType supply) (memberType : String) :
    request.assigned group memberType = [] := by
  cases request with
  | assign group' memberType' supply =>
    refine if_neg fun hsame => h memberType' supply ?_
    rw [hsame.1]
  | _ => rfl

end IdentityCall

namespace LocalIdentity

variable {service : LocalIdentity α} {start s : IdentityState α} {history : List Handled}
  {group memberType : String}

/-- An assignment to usable groups succeeds. -/
theorem assign_run (usable : s.groups.usable = true) (group memberType : String)
    (ids : List String) :
    assign group memberType ⟨ids, false⟩ s =
      ⟨.ok (), [], { s with groups := s.groups.assign group memberType ⟨ids, false⟩ }⟩ := by
  simp only [assign, Action.bind_run, Action.get_run, if_pos usable, Action.set_run]
  rfl

/-- Whoever has a token that resolves is shown slices of the members, and changes nothing. -/
theorem members_run_of_eq {token : String} {caller : Identity} {listing : List String}
    (resolves : (s.keys.resolve token s.now).1 = .ok caller) (usable : s.groups.usable = true)
    (h : s.groups.members group memberType = listing) (offset limit : Nat) :
    members token group offset limit memberType s =
      ⟨.ok (listing.extract offset (offset + limit)), [], s⟩ := by
  rw [members_run resolves usable, window_eq_extract, h]

/-- Only an assignment whose supply dies puts the table out of use. -/
theorem usable_groupsBehind {groups : GroupTable} {request : IdentityCall}
    (usable : groups.usable = true) (unbroken : ¬ request.Breaks) :
    (groupsBehind groups request).usable = true := by
  cases request with
  | assign group memberType supply =>
    have halive : supply.dies = false := Bool.eq_false_of_not_eq_true unbroken
    rw [groupsBehind, if_pos usable, GroupTable.usable_assign, usable, halive]
    rfl
  | _ => exact usable

/-! ## Runs -/

/-- The ids that the requests of a history assigned to a group under a type, in their order. -/
def assignedIn (history : List Handled) (group memberType : String) : List String :=
  history.flatMap fun e => e.request.assigned group memberType

/-- As long as no supply of ids dies, the members of a group are the ids that were assigned to it,
in the order of their first assignment. -/
theorem Run.members_eq (run : Run service start history s) (fresh : start.groups = {})
    (unbroken : ∀ e ∈ history, ¬ e.request.Breaks) :
    s.groups.usable = true ∧ ∀ group memberType,
      s.groups.members group memberType = (assignedIn history group memberType).eraseDups := by
  induction run with
  | start =>
    rw [fresh]
    exact ⟨rfl, fun _ _ => rfl⟩
  | @handle history s _ now request ih =>
    obtain ⟨usable, hmembers⟩ := ih fun e he => unbroken e (List.mem_append_left _ he)
    have hrequest : ¬ request.Breaks :=
      unbroken _ (List.mem_append_right _ (List.mem_singleton_self _))
    rw [groups_handle]
    refine ⟨usable_groupsBehind usable hrequest, fun group memberType => ?_⟩
    refine (members_groupsBehind usable request (hmembers group memberType)).trans ?_
    rw [assignedIn, assignedIn, List.flatMap_append, List.flatMap_singleton]

/-- After a run in which no supply of ids died, whoever has a token that resolves is shown slices of
the listing of a group and a type: the ids that were assigned to this group under this type, each
once, in the order of their first assignment. Slices of one size, one behind the other, make it up.

One more assignment is taken whatever it assigns. To another group, or under another type, it leaves
the listing as it is, and with ids of the listing alone it changes nothing at all. A group to which
nothing was assigned has no members. -/
theorem Run.members_listed (run : Run service start history s) (fresh : start.groups = {})
    (unbroken : ∀ e ∈ history, ¬ e.request.Breaks) {token : String} {now : Calendar.Timestamp}
    {caller : Identity} (resolves : (identify token (s.at now)).result = .ok caller)
    (group memberType : String) :
    let assigned := assignedIn history group memberType
    let listing := assigned.eraseDups
    (listing.Nodup ∧ (∀ id, id ∈ listing ↔ id ∈ assigned) ∧
      listing.Pairwise fun a b => assigned.idxOf a < assigned.idxOf b) ∧
    (∀ offset limit, members token group offset limit memberType (s.at now) =
      ⟨.ok (listing.extract offset (offset + limit)), [], s.at now⟩) ∧
    (∀ n k, listing.length ≤ k * n →
      ((List.range k).flatMap fun i => listing.extract (i * n) (i * n + n)) = listing) ∧
    (∀ group' memberType' ids,
      let o := assign group' memberType' ⟨ids, false⟩ (s.at now)
      o.result = .ok () ∧
      (¬ (group' = group ∧ memberType' = memberType) → ∀ offset limit,
        members token group offset limit memberType o.state =
          ⟨.ok (listing.extract offset (offset + limit)), [], o.state⟩)) ∧
    (∀ ids, (∀ id ∈ ids, id ∈ listing) →
      assign group memberType ⟨ids, false⟩ (s.at now) = ⟨.ok (), [], s.at now⟩) ∧
    ((∀ e ∈ history, ∀ memberType' supply, e.request ≠ .assign group memberType' supply) →
      listing = []) := by
  intro assigned listing
  obtain ⟨usable, hmembers⟩ := run.members_eq fresh unbroken
  obtain ⟨t, ht⟩ : ∃ t, s.at now = t := ⟨_, rfl⟩
  have hlisting : t.groups.members group memberType = listing :=
    ht ▸ hmembers group memberType
  replace usable : t.groups.usable = true := ht ▸ usable
  rw [ht] at resolves ⊢
  refine ⟨⟨nodup_eraseDups _, fun id => List.mem_eraseDups, pairwise_idxOf_eraseDups _⟩,
    members_run_of_eq resolves usable hlisting, fun n k hall => ?_,
    fun group' memberType' ids => ?_, fun ids hids => ?_, fun hunknown => ?_⟩
  · rw [flatMap_extract, List.take_of_length_le hall]
  · rw [assign_run usable]
    refine ⟨rfl, fun hother => members_run_of_eq resolves ?_ ?_⟩
    · rw [GroupTable.usable_assign, usable]
      rfl
    · have hsame := GroupTable.members_assign group' memberType' ⟨ids, false⟩ hlisting
      rw [if_neg hother, List.append_nil] at hsame
      exact hsame
  · rw [assign_run usable, GroupTable.assign_members fun id hid => hlisting ▸ hids id hid]
  · have hnone : assigned = [] :=
      List.flatMap_eq_nil_iff.mpr fun e he => IdentityCall.assigned_eq_nil (hunknown e he) _
    exact congrArg List.eraseDups hnone

/-- Three ids are assigned to a group as users, one of them twice and one of them also as a bot. The
second page of one member shows the second of them. -/
theorem second_member_listed :
    let service : LocalIdentity TupleSet :=
      { tokenAt := fun n => (Uuid.ofEntropy n).simple, agent := TupleSet.agent }
    let start : IdentityState TupleSet := { now := ⟨0, 0, by decide⟩, agent := TupleSet.empty }
    let now : Calendar.Timestamp := ⟨0, 0, by decide⟩
    let issued := (service.handle (.issue "u1" "a@x.com" .user) (start.at now)).state
    let first := (service.handle (.assign "staff" "users" ⟨["m2", "m1", "m2"], false⟩)
      (issued.at now)).state
    let second := (service.handle (.assign "staff" "bots" ⟨["m3", "m1"], false⟩)
      (first.at now)).state
    let third := (service.handle (.assign "staff" "users" ⟨["m1", "m3"], false⟩)
      (second.at now)).state
    (members (Uuid.ofEntropy 0).simple "staff" 1 1 "users" (third.at now)).result =
      .ok ["m1"] := by
  intro service start now issued first second third
  have run := (((Run.start : Run service start [] start).handle now
    (.issue "u1" "a@x.com" .user)).handle now
    (.assign "staff" "users" ⟨["m2", "m1", "m2"], false⟩)).handle now
    (.assign "staff" "bots" ⟨["m3", "m1"], false⟩) |>.handle now
    (.assign "staff" "users" ⟨["m1", "m3"], false⟩)
  have resolves : (identify (Uuid.ofEntropy 0).simple (third.at now)).result =
      .ok ⟨"u1", "a@x.com"⟩ := by decide +kernel
  have hpage := (run.members_listed rfl (by simp [IdentityCall.Breaks]) resolves "staff"
    "users").2.1 1 1
  exact (congrArg Outcome.result hpage).trans (by decide +kernel)

end LocalIdentity

end AccessControl
