import AccessControl.Proofs.Account.Calls
import AccessControl.Proofs.Account.Conditions
import AccessControl.Proofs.Account.Credentials
import AccessControl.Proofs.Identity.DeadGroups

/-!
# What a dead group table takes along

Once the group table of a deployment is out of use, it stays so. `Deployment.FencedOff` compares
such a world with one whose group table may be usable: requests on groups are refused, and all
others are answered alike. Two worlds that are the same but for the groups and what the clock shows
stay so along every run (`Deployment.apart_runOn`), so a crash in an assignment is felt by the
requests on groups and by nothing else (`Deployment.crash_fences_groups`).

A run is a list of occasions here, each with its own conditions: a page of members that is not
served any more saves a backing call, and the conditions of a later request must not depend on it.
-/

namespace AccessControl

open AccessControl.Calendar

variable {α ω : Type}

/-- The same world with other groups. -/
def World.withGroups (w : World α ω) (groups : GroupTable) : World α ω :=
  { w with identity := w.identity.withGroups groups }

/-- The call is about groups. -/
def BackingCall.OnGroups : BackingCall → Prop
  | .members .. => True
  | _ => False

/-- The request is about groups. -/
def ServiceCall.OnGroups : ServiceCall → Prop
  | .listMembers .. => True
  | _ => False

/-- A request that may make a call on groups is one on groups. -/
theorem ServiceCall.onGroups_of_mayMake {request : ServiceCall} {call : BackingCall}
    (h : request.MayMake call) (hcall : call.OnGroups) : request.OnGroups := by
  cases call with
  | members =>
    cases request with
    | listMembers => trivial
    | _ => exact h
  | _ => exact hcall.elim

/-- A move and the conditions under which it is made. -/
structure Occasion where
  conditions : Conditions
  move : Move

namespace Deployment

variable (d : Deployment α ω)

/-- What an occasion makes of the world. The conditions count the calls of this occasion, and the
clock shows the time of the first one when it begins. -/
def on (w : World α ω) (occasion : Occasion) : World α ω :=
  (d.moveUnder occasion.conditions (w.at (occasion.conditions.clock 0), 0) occasion.move).1

/-- What a list of occasions makes of the world. -/
def runOn (w : World α ω) (occasions : List Occasion) : World α ω :=
  occasions.foldl d.on w

/-! ## Worlds with different groups -/

/-- An action that ignores the groups does the same over any others. -/
theorem onIdentity_withGroups {ε β : Type} {action : Action (IdentityState α) ε β}
    (h : LocalIdentity.IgnoresGroups action) (w : World α ω) (groups : GroupTable) :
    let o := World.onIdentity action w
    World.onIdentity action (w.withGroups groups) =
      ⟨o.result, o.events, o.state.withGroups groups⟩ :=
  congrArg (fun o : Outcome _ ε β => (⟨o.result, o.events, { w with identity := o.state }⟩ :
    Outcome (World α ω) ε β)) (h w.identity groups)

/-- Calls that are not about groups do the same whatever the groups are, and leave them as they
are. -/
theorem backing_withGroups {call : BackingCall} (other : ¬ call.OnGroups) (w : World α ω)
    (groups : GroupTable) :
    let o := d.backing call w
    d.backing call (w.withGroups groups) = ⟨o.result, o.events, o.state.withGroups groups⟩ := by
  cases call with
  | issue id email kind =>
    exact onIdentity_withGroups (LocalIdentity.ignoresGroups_issue _ id email kind) w groups
  | authorize tuple =>
    exact onIdentity_withGroups (LocalIdentity.ignoresGroups_authorize _ tuple) w groups
  | addPolicy tuple =>
    exact onIdentity_withGroups (LocalIdentity.ignoresGroups_addPolicy _ tuple) w groups
  | members => exact absurd trivial other
  | _ => rfl

/-- No call changes the groups, or makes anything else of them. -/
theorem state_backing_withGroups (call : BackingCall) (w : World α ω) (groups : GroupTable) :
    (d.backing call (w.withGroups groups)).state = (d.backing call w).state.withGroups groups := by
  by_cases hcall : call.OnGroups
  · cases call with
    | members token group offset limit memberType =>
      simp only [backing, World.onIdentity, Action.zoom_run, LocalIdentity.members_state]
      rfl
    | _ => exact hcall.elim
  · rw [backing_withGroups d hcall]

variable (conditions : Conditions)

/-- A call that is not on groups does the same over any others. -/
theorem callUnder_withGroups {call : BackingCall} (other : ¬ call.OnGroups) (s : World α ω × Nat)
    (groups : GroupTable) :
    let o := (d.serviceUnder conditions).backing call s
    (d.serviceUnder conditions).backing call (s.1.withGroups groups, s.2) =
      ⟨o.result, o.events, o.state.1.withGroups groups, o.state.2⟩ := by
  have hset (w : World α ω) (now : Timestamp) :
      (w.at now).withGroups groups = (w.withGroups groups).at now := rfl
  exact Backing.under_view (fun w => d.backing_withGroups other w groups) hset conditions s

/-- Any call leaves the same state over any other groups, but for these. -/
theorem state_callUnder_withGroups (call : BackingCall) (s : World α ω × Nat)
    (groups : GroupTable) :
    let left := ((d.serviceUnder conditions).backing call s).state
    ((d.serviceUnder conditions).backing call (s.1.withGroups groups, s.2)).state =
      (left.1.withGroups groups, left.2) := by
  simp only [serviceUnder, Backing.under]
  cases conditions.fault s.2 call with
  | some failure => rfl
  | none =>
    exact congrArg (·, s.2 + 1)
      (d.state_backing_withGroups call (s.1.at (conditions.clock s.2)) groups)

/-- Requests that are not about groups do the same whatever the groups are, and leave them as they
are. -/
theorem serveUnder_withGroups {request : ServiceCall} (other : ¬ request.OnGroups)
    (s : World α ω × Nat) (groups : GroupTable) :
    let o := (d.serviceUnder conditions).serve request s
    (d.serviceUnder conditions).serve request (s.1.withGroups groups, s.2) =
      ⟨o.result, o.events, o.state.1.withGroups groups, o.state.2⟩ := by
  have only : (request.script d.accepts).Only fun call => ¬ call.OnGroups :=
    (request.script_only d.accepts).mono fun call h hcall =>
      other (ServiceCall.onGroups_of_mayMake h hcall)
  have projects (call : BackingCall) (hcall : ¬ call.OnGroups) (s : World α ω × Nat) :=
    d.callUnder_withGroups conditions hcall s groups
  exact Script.run_view_of_only projects only s

/-! ## Listing members -/

section ListMembers

variable (token group : String) (offset limit : Nat) (metadata : Metadata)

/-- Listing records leaves everything but the clock as it is. -/
theorem at_list (query : UserQuery) (s : World α ω × Nat) (now : Timestamp) :
    ((d.serviceUnder conditions).backing (.list query) s).state.1.at now = s.1.at now := by
  obtain ⟨_, ⟨_, hstate⟩ | ⟨_, hstate⟩⟩ :=
    Backing.under_cases d.backing World.at conditions (.list query) s
  · exact (congrArg (World.at · now) hstate).trans rfl
  · exact (congrArg (World.at · now) hstate).trans rfl

/-- Where a listing of members leads, apart from what the clock shows: the token is looked up, and
if it resolves, the members are asked for. -/
theorem at_listMembers (s : World α ω × Nat) (now : Timestamp) :
    let service := d.serviceUnder conditions
    let looked := service.backing (.identify token) s
    let asked := service.backing (.members token group offset limit Script.userMembers) looked.state
    (service.serve (.listMembers token group offset limit metadata) s).state.1.at now =
      if looked.result.isOk then asked.state.1.at now else looked.state.1.at now := by
  intro service looked asked
  show (Script.listMembers token group offset limit metadata).Ensures service.backing s
    fun _ s' => s'.1.at now = _
  rw [Script.listMembers, Script.ensures_bind, Script.identify, Script.ensures_ask]
  refine ⟨fun caller hcaller => ?_, fun error herror => ?_⟩
  · have hlooked : looked.result.isOk = true := congrArg Except.isOk hcaller
    rw [Script.onward_ok, Script.ensures_bind, Script.ensures_ask]
    refine ⟨fun ids _ => ?_, fun error _ => (if_pos hlooked).symm⟩
    rw [Script.onward_ok, Script.ensures_ite]
    refine ⟨fun _ => (if_pos hlooked).symm, fun _ => ?_⟩
    rw [Script.ensures_bind, Script.ensures_ask, if_pos hlooked]
    exact ⟨fun page _ => d.at_list conditions _ _ now, fun error _ => d.at_list conditions _ _ now⟩
  · have hlooked : looked.result.isOk = false := congrArg Except.isOk herror
    rw [hlooked]
    rfl

/-- A listing of members ends with the failure of the look at the token, or with that of asking for
the members, if there is one. -/
theorem listMembers_fails {s : World α ω × Nat} :
    let service := d.serviceUnder conditions
    let looked := service.backing (.identify token) s
    let asked := service.backing (.members token group offset limit Script.userMembers) looked.state
    let listed := service.serve (.listMembers token group offset limit metadata) s
    (∀ error, looked.result = .error error →
      listed.result = .error (.byIdentity .unauthorized error)) ∧
    ∀ caller error, looked.result = .ok caller → asked.result = .error error →
      listed.result = .error (.byIdentity .authorization error) := by
  intro service looked asked listed
  refine ⟨fun error herror => ?_, fun caller error hcaller herror => ?_⟩
  · show (Script.listMembers token group offset limit metadata).Ensures service.backing s
      fun result _ => result = .error (.byIdentity .unauthorized error)
    rw [Script.listMembers, Script.ensures_bind, Script.identify, Script.ensures_ask]
    refine ⟨fun caller hcaller => ?_, fun error' herror' => ?_⟩
    · cases herror.symm.trans hcaller
    · rw [Except.error.inj (herror'.symm.trans herror)]
      rfl
  · show (Script.listMembers token group offset limit metadata).Ensures service.backing s
      fun result _ => result = .error (.byIdentity .authorization error)
    rw [Script.listMembers, Script.ensures_bind, Script.identify]
    refine Script.ensures_ask_of_ok hcaller ?_
    rw [Script.onward_ok, Script.ensures_bind, Script.ensures_ask]
    refine ⟨fun ids hids => ?_, fun error' herror' => ?_⟩
    · cases herror.symm.trans hids
    · rw [Except.error.inj (herror'.symm.trans herror)]
      rfl

end ListMembers

/-- Wherever a request leads, apart from what the clock shows, it leads there whatever the groups
are, and leaves them as they are. -/
theorem at_serveUnder_withGroups (request : ServiceCall) (s : World α ω × Nat)
    (groups : GroupTable) (now : Timestamp) :
    ((d.serviceUnder conditions).serve request (s.1.withGroups groups, s.2)).state.1.at now =
      (((d.serviceUnder conditions).serve request s).state.1.at now).withGroups groups := by
  by_cases hrequest : request.OnGroups
  · cases request with
    | listMembers token group offset limit metadata =>
      have other : ¬ (BackingCall.identify token).OnGroups := id
      rw [at_listMembers, at_listMembers, callUnder_withGroups d conditions other]
      simp only [state_callUnder_withGroups]
      split <;> rfl
    | _ => exact hrequest.elim
  · rw [serveUnder_withGroups d conditions hrequest]
    rfl

/-! ## Runs -/

section Apart

variable {d} {fence : GroupTable} {w w' : World α ω}

/-- Two worlds that are the same but for the groups and what the clock shows stay so, if the first
of them has groups that are out of use. -/
theorem apart_on (unusable : fence.usable = false)
    (apart : ∀ now, w.at now = (w'.at now).withGroups fence) (occasion : Occasion)
    (now : Timestamp) :
    (d.on w occasion).at now = ((d.on w' occasion).at now).withGroups fence := by
  obtain ⟨conditions, m⟩ := occasion
  rw [on, on, apart]
  -- both begin at the same time, so nothing but the groups is different
  generalize w'.at (conditions.clock 0) = v
  cases m with
  | serve request => exact d.at_serveUnder_withGroups conditions request (v, 0) fence now
  | identity request =>
    exact congrArg (fun s => World.at { v with identity := s } now)
      (d.identity.state_handle_withGroups request v.identity unusable)
  | port call => exact congrArg (World.at · now) (d.state_backing_withGroups call v fence)
  | clock time => rfl

/-- Two worlds that differ in unusable groups only still do behind the same occasions. -/
theorem apart_runOn (unusable : fence.usable = false)
    (apart : ∀ now, w.at now = (w'.at now).withGroups fence) (occasions : List Occasion) :
    ∀ now, (d.runOn w occasions).at now = ((d.runOn w' occasions).at now).withGroups fence := by
  induction occasions generalizing w w' with
  | nil => exact apart
  | cons occasion occasions ih => exact ih (apart_on unusable apart occasion)

/-- Requests on groups are refused in a world, and all other requests are answered there as they are
in another one, at any time and under any conditions. -/
structure FencedOff (d : Deployment α ω) (w w' : World α ω) : Prop where
  /-- No assignment is taken, and none changes anything. -/
  assign : ∀ now group memberType supply, let s := w.identity.at now
    LocalIdentity.assign group memberType supply s = ⟨.error (.refused .unavailable), [], s⟩
  /-- No members are listed, for no group. A token that does not resolve is told so first. -/
  members : ∀ now token group offset limit memberType, let s := w.identity.at now
    (LocalIdentity.members token group offset limit memberType s).result =
        (LocalIdentity.identify token s).result.bind (fun _ => .error .unavailable) ∧
      ∀ error, (LocalIdentity.identify token s).result = .error error →
        error = .unauthorized ∨ ∃ fault, error = .invalidToken fault
  /-- No page of members is served: the request fails with the failure of the look at its token, or
  else with that of asking for the members. -/
  listMembers : ∀ conditions now token group offset limit metadata,
    let service := d.serviceUnder conditions
    let looked := service.backing (.identify token) (w.at now, 0)
    let asked := service.backing (.members token group offset limit Script.userMembers) looked.state
    let listed := service.serve (.listMembers token group offset limit metadata) (w.at now, 0)
    (∀ error, looked.result = .error error →
      listed.result = .error (.byIdentity .unauthorized error)) ∧
    ∀ caller, looked.result = .ok caller → ∃ error, asked.result = .error error ∧
      listed.result = .error (.byIdentity .authorization error)
  /-- Other requests to the identity service are answered alike. -/
  identity : ∀ now (request : IdentityCall), ¬ request.OnGroups →
    let o := d.identity.handle request (w.identity.at now)
    let o' := d.identity.handle request (w'.identity.at now)
    o.result = o'.result ∧ o.events = o'.events
  /-- Other requests to the account service are answered alike. -/
  serve : ∀ conditions now (request : ServiceCall), ¬ request.OnGroups →
    let o := (d.serviceUnder conditions).serve request (w.at now, 0)
    let o' := (d.serviceUnder conditions).serve request (w'.at now, 0)
    o.result = o'.result ∧ o.events = o'.events

/-- Asking for members fails while the groups are out of use. -/
theorem members_fails (unusable : w.identity.groups.usable = false) (conditions : Conditions)
    (n : Nat) (token group : String) (offset limit : Nat) (memberType : String) :
    ∃ error, ((d.serviceUnder conditions).backing
      (.members token group offset limit memberType) (w, n)).result = .error error := by
  obtain ⟨_, ⟨hfails, _⟩ | ⟨hresult, _⟩⟩ := Backing.under_cases d.backing World.at conditions
    (.members token group offset limit memberType) (w, n)
  · exact hfails
  · obtain ⟨error, herror⟩ := LocalIdentity.exists_error_of_unusable
      (s := w.identity.at (conditions.clock n)) unusable token group offset limit memberType
    exact ⟨error, hresult.trans herror⟩

/-- A world with groups that are out of use is fenced off from one that is the same but for the
groups and what the clock shows. -/
theorem fencedOff_of_apart (unusable : fence.usable = false)
    (apart : ∀ now, w.at now = (w'.at now).withGroups fence) : d.FencedOff w w' := by
  have hgroups (now : Timestamp) : (w.identity.at now).groups.usable = false := by
    have hfence := congrArg (fun w : World α ω => w.identity.groups) (apart now)
    exact (congrArg GroupTable.usable hfence).trans unusable
  have hidentity (now : Timestamp) : w.identity.at now = (w'.identity.at now).withGroups fence :=
    congrArg World.identity (apart now)
  constructor
  case assign =>
    exact fun now group memberType supply =>
      LocalIdentity.assign_run_of_unusable (hgroups now) group memberType supply
  case members =>
    intro now token group offset limit memberType s
    rw [LocalIdentity.members_run_of_unusable (hgroups now)]
    exact ⟨rfl, fun error h => LocalIdentity.error_of_identify h⟩
  case listMembers =>
    intro conditions now token group offset limit metadata service looked asked listed
    obtain ⟨hunresolved, hunlisted⟩ := d.listMembers_fails conditions token group offset limit
      metadata (s := (w.at now, 0))
    refine ⟨hunresolved, fun caller hcaller => ?_⟩
    have hleft : looked.state.1.identity.groups.usable = false :=
      (congrArg GroupTable.usable ((d.relaysUnder conditions).call_cases (.identify token)
        (w.at now, 0)).1).trans (hgroups now)
    obtain ⟨error, herror⟩ := members_fails (d := d) hleft conditions looked.state.2 token group
      offset limit Script.userMembers
    exact ⟨error, herror, hunlisted caller error hcaller herror⟩
  case identity =>
    intro now request other
    rw [hidentity, d.identity.handle_ignoresGroups other]
    exact ⟨rfl, rfl⟩
  case serve =>
    intro conditions now request other
    have hsame := d.serveUnder_withGroups conditions other (w'.at now, 0) fence
    rw [← apart now] at hsame
    rw [hsame]
    exact ⟨rfl, rfl⟩

end Apart

/-- A crash in an assignment fences the groups off, and nothing else.

What was assigned before the crash stays, each new membership once and in the order of the ids, and
the table is out of use. (Over a table that is out of use already the assignment is refused, so that
nothing can crash in it.) Wherever a run leads from there, requests on groups are refused. All other
requests are answered as they are where the same run leads without the crash, or with any other
groups at all; nothing but the groups is different there, and what the clock shows. -/
theorem crash_fences_groups (d : Deployment α ω) (w : World α ω) (group memberType : String)
    (ids : List String) :
    let groups := w.identity.groups
    let o := LocalIdentity.assign group memberType ⟨ids, true⟩ w.identity
    let crashed := { w with identity := o.state }
    (groups.usable = true → o.result = .error .died ∧ crashed = w.withGroups
      ⟨groups.memberships ++ groups.added group memberType ids, false⟩) ∧
    (groups.usable = false → o.result = .error (.refused .unavailable) ∧ crashed = w) ∧
    ∀ groups' occasions,
      let later := d.runOn crashed occasions
      let otherwise := d.runOn (w.withGroups groups') occasions
      (∀ now, later.at now = (otherwise.at now).withGroups crashed.identity.groups) ∧
        d.FencedOff later otherwise := by
  intro groups o crashed
  have hcrash (usable : groups.usable = true) : o = ⟨.error .died, [], w.identity.withGroups
      ⟨groups.memberships ++ groups.added group memberType ids, false⟩⟩ :=
    LocalIdentity.assign_run_of_dies usable group memberType ids
  have hrefused (unusable : groups.usable = false) :
      o = ⟨.error (.refused .unavailable), [], w.identity⟩ :=
    LocalIdentity.assign_run_of_unusable unusable group memberType _
  have hfence : crashed.identity.groups.usable = false ∧
      crashed = w.withGroups crashed.identity.groups := by
    cases husable : groups.usable with
    | true =>
      simp only [crashed, hcrash husable]
      exact ⟨rfl, rfl⟩
    | false =>
      simp only [crashed, hrefused husable]
      exact ⟨husable, rfl⟩
  refine ⟨fun usable => ?_, fun unusable => ?_, fun groups' occasions => ?_⟩
  · simp only [crashed, hcrash usable, true_and]
    rfl
  · simp only [crashed, hrefused unusable, true_and]
  · intro later otherwise
    have apart (now : Timestamp) :
        crashed.at now = ((w.withGroups groups').at now).withGroups crashed.identity.groups :=
      congrArg (World.at · now) hfence.2
    have hlater := apart_runOn (d := d) hfence.1 apart occasions
    exact ⟨hlater, fencedOff_of_apart hfence.1 hlater⟩

/-- Two ids were assigned when the supply died, one of them a second time. Keys are still issued and
resolve, but whoever has one is not shown the members. -/
theorem members_hidden_after_crash :
    let conditions : Conditions := ⟨fun _ => ⟨0, 0, by decide⟩, fun _ _ => none⟩
    let w : World TupleSet Unit :=
      { identity :=
          { now := ⟨0, 0, by decide⟩
            groups := ⟨[⟨"staff", "users", "m1"⟩], true⟩
            agent := TupleSet.empty }
        outside := () }
    let crashed : World TupleSet Unit :=
      { w with identity :=
          (LocalIdentity.assign "staff" "users" ⟨["m2", "m1", "m2"], true⟩ w.identity).state }
    let later := miniature.runOn crashed [⟨conditions, .identity (.issue "u1" "a@x.com" .user)⟩]
    let token := (Uuid.ofEntropy 0).simple
    crashed.identity.groups = ⟨[⟨"staff", "users", "m1"⟩, ⟨"staff", "users", "m2"⟩], false⟩ ∧
      (LocalIdentity.identify token (later.identity.at ⟨0, 0, by decide⟩)).result =
        .ok ⟨"u1", "a@x.com"⟩ ∧
      ((miniature.serviceUnder conditions).serve (.listMembers token "staff" 0 10 [])
        (later.at ⟨0, 0, by decide⟩, 0)).result =
          .error (.byIdentity .authorization .unavailable) := by
  intro conditions w crashed later token
  obtain ⟨hcrash, -, hlater⟩ := crash_fences_groups miniature w "staff" "users" ["m2", "m1", "m2"]
  obtain ⟨-, fenced⟩ := hlater {} [⟨conditions, .identity (.issue "u1" "a@x.com" .user)⟩]
  let looked := (miniature.serviceUnder conditions).backing (.identify token)
    (later.at ⟨0, 0, by decide⟩, 0)
  have hlooked : looked.result = .ok ⟨"u1", "a@x.com"⟩ := by decide +kernel
  have hasked : ((miniature.serviceUnder conditions).backing
      (.members token "staff" 0 10 Script.userMembers) looked.state).result =
        .error .unavailable := by decide +kernel
  obtain ⟨error, herror, hlisted⟩ := (fenced.listMembers conditions ⟨0, 0, by decide⟩ token "staff"
    0 10 []).2 _ hlooked
  obtain rfl : error = .unavailable := Except.error.inj (herror.symm.trans hasked)
  have hgroups := congrArg (fun w : World TupleSet Unit => w.identity.groups) (hcrash rfl).2
  refine ⟨hgroups.trans ?_, by decide +kernel, hlisted⟩
  decide +kernel

end Deployment

end AccessControl
