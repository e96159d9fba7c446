import AccessControl.Proofs.Identity.DeadTokens
import AccessControl.Proofs.Identity.Memberships

/-!
# A group table out of use

An assignment whose supply of ids dies keeps what it was given so far, and puts the table of groups
out of use (`LocalIdentity.assign_run_of_dies`). From then on every assignment is refused, and so is
every listing of members, behind the look at the token.

All other requests ignore the groups: they do the same whatever the groups are, and leave them as
they are (`LocalIdentity.handle_ignoresGroups`). The lemmas named `ignoresGroups_...` say so of the
actions that the requests are made of.
-/

namespace AccessControl

variable {α β γ ε : Type}

/-! ## What a dying supply leaves -/

namespace GroupTable

variable {table : GroupTable} {group memberType : String}

/-- The memberships that some ids make: one for each that is no member yet, in the order in which
they occur first. -/
def added (table : GroupTable) (group memberType : String) (ids : List String) : List Membership :=
  (ids.eraseDups.map (⟨group, memberType, ·⟩)).filter (· ∉ table.memberships)

/-- Added are the memberships that were asked for and not there before. -/
theorem mem_added_iff {ids : List String} {m : Membership} :
    m ∈ table.added group memberType ids ↔
      (∃ id ∈ ids, ⟨group, memberType, id⟩ = m) ∧ m ∉ table.memberships := by
  simp only [added, List.mem_filter, List.mem_map, List.mem_eraseDups, decide_eq_true_eq]

/-- One more id adds its membership unless it is there. -/
theorem added_concat (ids : List String) (id : String) :
    table.added group memberType (ids ++ [id]) =
      if ⟨group, memberType, id⟩ ∈ table.memberships ++ table.added group memberType ids then
        table.added group memberType ids
      else table.added group memberType ids ++ [⟨group, memberType, id⟩] := by
  simp only [List.mem_append, mem_added_iff]
  by_cases hagain : id ∈ ids
  · rw [added, eraseDups_concat, if_pos hagain, if_pos, added]
    exact or_iff_not_imp_left.mpr fun hnew => ⟨⟨id, hagain, rfl⟩, hnew⟩
  · by_cases hold : (⟨group, memberType, id⟩ : Membership) ∈ table.memberships <;>
      simp [added, eraseDups_concat, hagain, hold]

/-- Behind an assignment, the memberships are the old ones and the added ones. -/
theorem memberships_addAll (ids : List String) : (table.addAll group memberType ids).memberships =
    table.memberships ++ table.added group memberType ids := by
  induction ids using List.reverseRecOn with
  | nil => exact (List.append_nil _).symm
  | append_singleton ids id ih =>
    have hstep : table.addAll group memberType (ids ++ [id]) =
        (table.addAll group memberType ids).add ⟨group, memberType, id⟩ := by
      simp only [addAll, List.foldl_append, List.foldl_cons, List.foldl_nil]
    rw [hstep, add, ih, added_concat]
    by_cases hthere :
        ⟨group, memberType, id⟩ ∈ table.memberships ++ table.added group memberType ids
    · rw [if_pos (List.contains_iff_mem.mpr hthere), if_pos hthere, ih]
    · rw [if_neg (mt List.contains_iff_mem.mp hthere), if_neg hthere, List.append_assoc]

/-- An assignment whose supply dies keeps what it was given, and puts the table out of use. -/
theorem assign_of_dies (ids : List String) : table.assign group memberType ⟨ids, true⟩ =
    ⟨table.memberships ++ table.added group memberType ids, false⟩ := by
  simp only [assign, memberships_addAll, Bool.not_true, Bool.and_false]

end GroupTable

/-- The request is about groups. -/
def IdentityCall.OnGroups : IdentityCall → Prop
  | .assign .. | .members .. => True
  | _ => False

/-- The same state with other groups. -/
def IdentityState.withGroups (s : IdentityState α) (groups : GroupTable) : IdentityState α :=
  { s with groups := groups }

namespace LocalIdentity

variable {service : LocalIdentity α} {s : IdentityState α}

/-! ## Requests on groups -/

/-- An assignment that dies leaves all of its memberships behind, and the groups unusable. -/
theorem assign_run_of_dies (usable : s.groups.usable = true) (group memberType : String)
    (ids : List String) : assign group memberType ⟨ids, true⟩ s =
      ⟨.error .died, [], s.withGroups
        ⟨s.groups.memberships ++ s.groups.added group memberType ids, false⟩⟩ := by
  simp only [assign, Action.bind_run, Action.get_run, if_pos usable, Action.set_run,
    GroupTable.assign_of_dies]
  rfl

/-- A table that is out of use takes no assignment. -/
theorem assign_run_of_unusable (unusable : s.groups.usable = false) (group memberType : String)
    (supply : IdSupply) :
    assign group memberType supply s = ⟨.error (.refused .unavailable), [], s⟩ := by
  simp only [assign, Action.bind_run, Action.get_run, unusable, Bool.false_eq_true, if_false,
    Action.fail_run, List.append_nil]

/-- A table that is out of use shows no members. A token that does not resolve is told so first. -/
theorem members_run_of_unusable (unusable : s.groups.usable = false) (token group : String)
    (offset limit : Nat) (memberType : String) : members token group offset limit memberType s =
      ⟨(identify token s).result.bind fun _ => .error .unavailable, [],
        (identify token s).state⟩ := by
  simp only [members, Action.bind_run, identify_run]
  cases (s.keys.resolve token s.now).1 with
  | error e => rfl
  | ok caller => simp [unusable, Except.bind]

/-- Over unusable groups, asking for members fails. -/
theorem exists_error_of_unusable (unusable : s.groups.usable = false) (token group : String)
    (offset limit : Nat) (memberType : String) :
    ∃ error, (members token group offset limit memberType s).result = .error error := by
  rw [members_run_of_unusable unusable]
  cases (identify token s).result with
  | ok caller => exact ⟨_, rfl⟩
  | error error => exact ⟨_, rfl⟩

/-- A token that does not resolve is unknown or not valid. -/
theorem error_of_identify {token : String} {error : IdentityError}
    (h : (identify token s).result = .error error) :
    error = .unauthorized ∨ ∃ fault, error = .invalidToken fault := by
  have hlook := s.keys.lookUp_resolve token s.now
  rw [show (s.keys.resolve token s.now).1 = .error error from h] at hlook
  generalize (s.keys.resolve token s.now).2 = left at hlook
  cases hlook with
  | unknown => exact Or.inl rfl
  | early | expired | windowless => exact Or.inr ⟨_, rfl⟩

/-! ## Requests on anything else -/

/-- The action does the same whatever the groups are, and leaves them as they are. -/
def IgnoresGroups (action : Action (IdentityState α) ε β) : Prop :=
  ∀ s groups, action (s.withGroups groups) =
    ⟨(action s).result, (action s).events, (action s).state.withGroups groups⟩

theorem ignoresGroups_pure (x : β) :
    IgnoresGroups (pure x : Action (IdentityState α) ε β) := fun _ _ => rfl

theorem ignoresGroups_ofExcept (result : Except ε β) :
    IgnoresGroups (Action.ofExcept result : Action (IdentityState α) ε β) := fun _ _ => rfl

theorem ignoresGroups_emit (event : Event) :
    IgnoresGroups (Action.emit event : Action (IdentityState α) ε Unit) := fun _ _ => rfl

/-- A sequence ignores the groups when both of its parts do. -/
theorem ignoresGroups_bind {first : Action (IdentityState α) ε β}
    {next : β → Action (IdentityState α) ε γ} (hfirst : IgnoresGroups first)
    (hnext : ∀ x, IgnoresGroups (next x)) : IgnoresGroups (first >>= next) := by
  intro s groups
  rw [Action.bind_run, Action.bind_run, hfirst s groups]
  rcases first s with ⟨_ | x, events, left⟩
  · rfl
  · simp only [hnext x left groups]

/-- An action whose errors are caught ignores the groups when the action does. -/
theorem ignoresGroups_attempt {ε' : Type} {action : Action (IdentityState α) ε β}
    (h : IgnoresGroups action) :
    IgnoresGroups (Action.attempt action : Action (IdentityState α) ε' (Except ε β)) := by
  intro s groups
  simp only [Action.attempt_run, h s groups]

/-- A question to the agent ignores the groups. -/
theorem ignoresGroups_ofAgent (action : Action α PolicyError β) :
    IgnoresGroups (ofAgent action) := fun _ _ => rfl

/-- Identifying a token ignores the groups. -/
theorem ignoresGroups_identify (token : String) :
    IgnoresGroups (identify token : Act α Identity) := fun _ _ => rfl

/-- Issuing a key ignores the groups. -/
theorem ignoresGroups_issue (service : LocalIdentity α) (id email : String) (kind : KeyKind) :
    IgnoresGroups (service.issue id email kind) := by
  intro s groups
  simp only [issue_run, IdentityState.withGroups]
  split
  · rfl
  · cases s.now.add? (service.lifetime kind) <;> rfl

/-- Authorizing ignores the groups. -/
theorem ignoresGroups_authorize (service : LocalIdentity α) (t : RelationTuple) :
    IgnoresGroups (service.authorize t) := by
  refine ignoresGroups_bind (ignoresGroups_attempt (ignoresGroups_ofAgent _)) fun ending => ?_
  cases ending with
  | ok _ => exact ignoresGroups_pure _
  | error _ => exact ignoresGroups_bind (ignoresGroups_emit _) fun _ => ignoresGroups_pure _

/-- Adding a policy ignores the groups. -/
theorem ignoresGroups_addPolicy (service : LocalIdentity α) (t : RelationTuple) :
    IgnoresGroups (service.addPolicy t) :=
  ignoresGroups_bind (ignoresGroups_ofAgent _) fun _ => ignoresGroups_pure _

/-- Granting a list ignores the groups. -/
theorem ignoresGroups_grantAll (service : LocalIdentity α) (ts : List RelationTuple) :
    IgnoresGroups (service.grantAll ts) := by
  induction ts with
  | nil => exact ignoresGroups_pure ()
  | cons t ts ih => exact ignoresGroups_bind (ignoresGroups_ofAgent _) fun _ => ih

/-- Adding a batch of policies ignores the groups. -/
theorem ignoresGroups_addPolicies (service : LocalIdentity α) (token : String)
    (batch : GrantBatch) : IgnoresGroups (service.addPolicies token batch) :=
  ignoresGroups_bind (ignoresGroups_ofExcept _) fun _ =>
    ignoresGroups_bind (ignoresGroups_identify token) fun _ =>
      ignoresGroups_bind (ignoresGroups_ofAgent _) fun _ => ignoresGroups_grantAll service _

/-- All requests that are not about groups ignore them. -/
theorem handle_ignoresGroups (service : LocalIdentity α) {request : IdentityCall}
    (other : ¬ request.OnGroups) : IgnoresGroups (service.handle request) := by
  cases request with
  | issue id email kind => exact ignoresGroups_issue service id email kind
  | identify token => exact ignoresGroups_identify token
  | revoke token => exact fun _ _ => rfl
  | assign => exact absurd trivial other
  | members => exact absurd trivial other
  | authorize tuple => exact ignoresGroups_authorize service tuple
  | addPolicy tuple => exact ignoresGroups_addPolicy service tuple
  | addPolicies token batch => exact ignoresGroups_addPolicies service token batch

/-- Over groups that are out of use a request leads where it leads over others, and leaves the
groups out of use. -/
theorem state_handle_withGroups (service : LocalIdentity α) (request : IdentityCall)
    (s : IdentityState α) {groups : GroupTable} (unusable : groups.usable = false) :
    (service.handle request (s.withGroups groups)).state =
      (service.handle request s).state.withGroups groups := by
  cases request with
  | assign group memberType supply =>
    obtain ⟨_, hstate⟩ := assign_state group memberType supply s
    rw [handle, assign_run_of_unusable unusable, hstate]
    rfl
  | members token group offset limit memberType =>
    rw [handle, members_state, members_state]
    rfl
  | issue | identify | revoke | authorize | addPolicy | addPolicies =>
    rw [service.handle_ignoresGroups id]

end LocalIdentity

end AccessControl
