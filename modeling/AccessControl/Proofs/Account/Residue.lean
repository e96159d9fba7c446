import AccessControl.Proofs.Account.Credentials
import AccessControl.Proofs.Account.Grants
import Mathlib.Data.Set.Function
import Mathlib.Order.Interval.Set.Basic

/-!
# What a failed request leaves behind

Nothing is rolled back, so a request that fails at a late call leaves the effects of its earlier
calls. `Residue` lists them. The records and the groups are as they were, a registration may have
granted ownership of an id that no record has, a recovery key may have been issued and not
delivered, and keys may have been dropped that were dead.

Every token of the table was drawn (`IdentityState.Drawn`), so a key that is issued is a new one.
-/

namespace AccessControl

open AccessControl.Calendar

variable {α ω : Type}

/-! ## Drawn tokens -/

/-- The table binds each token once, and only tokens that were drawn. -/
structure IdentityState.Drawn (service : LocalIdentity α) (s : IdentityState α) : Prop where
  unique : s.keys.Unique
  drawn : ∀ token claims, s.keys.get? token = some claims →
    ∃ n < s.drawn, service.tokenAt n = token

namespace IdentityState.Drawn

variable {service : LocalIdentity α} {s s' : IdentityState α}

theorem of_empty (h : s.keys = KeyTable.empty) : s.Drawn service where
  unique := h ▸ KeyTable.unique_empty
  drawn token claims hclaims := by
    rw [h, KeyTable.get?_empty] at hclaims
    cases hclaims

/-- Fewer keys, and no fewer tokens drawn. -/
theorem shrink (h : s.Drawn service) (unique : s'.keys.Unique) (hdrawn : s'.drawn = s.drawn)
    (hget : ∀ token, s'.keys.get? token = s.keys.get? token ∨ s'.keys.get? token = none) :
    s'.Drawn service where
  unique := unique
  drawn token claims hclaims := by
    rw [hdrawn]
    rcases hget token with hsame | hnone
    · exact h.drawn token claims (hsame ▸ hclaims)
    · rw [hnone] at hclaims
      cases hclaims

/-- A key is issued under the next token. -/
theorem issue (h : s.Drawn service) {claims : KeyClaims} (hdrawn : s'.drawn = s.drawn + 1)
    (hkeys : s'.keys = s.keys.enroll (service.tokenAt s.drawn) claims) : s'.Drawn service where
  unique := hkeys ▸ h.unique.enroll _ _
  drawn token claims' hclaims := by
    rw [hdrawn]
    rw [hkeys, h.unique.get?_enroll] at hclaims
    by_cases htoken : token = service.tokenAt s.drawn
    · exact ⟨s.drawn, Nat.lt_succ_self _, htoken.symm⟩
    · rw [if_neg htoken, Option.filter_eq_some_iff] at hclaims
      obtain ⟨n, hn, hn'⟩ := h.drawn token claims' hclaims.1
      exact ⟨n, Nat.lt_succ_of_lt hn, hn'⟩

/-- The next token is not in the table. -/
theorem get?_next (h : s.Drawn service) (distinct : Set.InjOn service.tokenAt (Set.Iic s.drawn)) :
    s.keys.get? (service.tokenAt s.drawn) = none := by
  by_contra hbound
  obtain ⟨claims, hclaims⟩ := Option.ne_none_iff_exists'.mp hbound
  obtain ⟨n, hn, htoken⟩ := h.drawn _ claims hclaims
  exact absurd (distinct (Set.mem_Iic.mpr hn.le) (Set.mem_Iic.mpr le_rfl) htoken) hn.ne

end IdentityState.Drawn

/-- A call keeps that all tokens were drawn. -/
theorem Backing.Relays.drawn_call {σ : Type} {backing : Backing σ} {service : LocalIdentity α}
    {identity : σ → IdentityState α} {clock : σ → Timestamp}
    (relays : backing.Relays service identity clock) (call : BackingCall) {s : σ}
    (h : (identity s).Drawn service) : (identity (backing call s).state).Drawn service := by
  obtain ⟨_, ⟨id, email, kind, expiry, _, _, _, hdrawn, hkeys⟩ |
    ⟨_, hdrawn, hkeys | ⟨token, hkeys⟩⟩⟩ := relays.call_cases call s
  · exact h.issue hdrawn hkeys
  · exact h.shrink (hkeys ▸ h.unique) hdrawn fun _ => Or.inl (by rw [hkeys])
  · refine h.shrink (hkeys ▸ h.unique.resolve _ _) hdrawn fun other => ?_
    rw [hkeys]
    exact (KeyTable.sheds_resolve _ token _ other).imp_right (·.1)

/-- A request to the identity service keeps that all tokens were drawn. -/
theorem LocalIdentity.drawn_handle (service : LocalIdentity α) (request : IdentityCall)
    (now : Timestamp) {s : IdentityState α} (h : s.Drawn service) :
    (service.handle request (s.at now)).state.Drawn service := by
  obtain ⟨id, email, kind, expiry, _, _, hdrawn, hkeys⟩ | ⟨token, _, hdrawn, hkeys⟩ |
    ⟨_, hdrawn, hkeys | ⟨token, hkeys⟩⟩ := service.handle_cases s now request
  · exact h.issue hdrawn hkeys
  · refine h.shrink (hkeys ▸ h.unique.erase token) hdrawn fun other => ?_
    rw [hkeys, KeyTable.get?_erase]
    by_cases hother : other = token
    · exact Or.inr (if_pos hother)
    · exact Or.inl (if_neg hother)
  · exact h.shrink (hkeys ▸ h.unique) hdrawn fun _ => Or.inl (by rw [hkeys])
  · refine h.shrink (hkeys ▸ h.unique.resolve _ _) hdrawn fun other => ?_
    rw [hkeys]
    exact (KeyTable.sheds_resolve _ token _ other).imp_right (·.1)

namespace Deployment

variable {d : Deployment α ω} {conditions : Conditions} {s s' : World α ω × Nat}

/-- In every reachable state all tokens of the table were drawn. -/
theorem drawn_runUnder (moves : List Move) (start : s.1.identity.Drawn d.identity) :
    (d.runUnder conditions s moves).1.identity.Drawn d.identity := by
  induction moves generalizing s with
  | nil => exact start
  | cons m moves ih =>
    refine ih (s := d.moveUnder conditions s m) ?_
    cases m with
    | serve request =>
      exact Script.run_keeps (fun s : World α ω × Nat => s.1.identity.Drawn d.identity)
        (fun call _ _ h => (d.relaysUnder conditions).drawn_call call h) (Script.only_true _) start
    | identity request => exact d.identity.drawn_handle request s.1.identity.now start
    | port call => exact d.relays.drawn_call call start
    | clock now => exact ⟨start.unique, start.drawn⟩

/-! ## Keys while a request is served -/

/-- Between two states no key was issued, and keys were dropped only if they were dead. -/
structure Unissued (conditions : Conditions) (s s' : World α ω × Nat) : Prop where
  count : s.2 ≤ s'.2
  unique : s'.1.identity.keys.Unique
  drawn : s'.1.identity.drawn = s.1.identity.drawn
  sheds : s.1.identity.keys.Sheds (conditions.shown s.2 s'.2) s'.1.identity.keys

/-- Between two states one key was issued, for recovery, and keys were dropped only if they were
dead. -/
def RecoveryIssued (conditions : Conditions) (s s' : World α ω × Nat) : Prop :=
  ∃ kept token claims, s.1.identity.keys.Sheds (conditions.shown s.2 s'.2) kept ∧
    s.1.identity.keys.get? token = none ∧ claims.kind = .recovery ∧
    s'.1.identity.keys = kept.insert token claims

/-- Where nothing happens, nothing is issued. -/
theorem Unissued.refl (unique : s.1.identity.keys.Unique) : Unissued conditions s s :=
  ⟨le_rfl, unique, rfl, KeyTable.Sheds.refl _ _⟩

/-- What is dead at a call is dead at one of the times up to the next call. -/
theorem Unissued.sheds_next (h : Unissued conditions s s') {table : KeyTable}
    (hsheds : s'.1.identity.keys.Sheds {conditions.clock s'.2} table) :
    s.1.identity.keys.Sheds (conditions.shown s.2 (s'.2 + 1)) table := by
  refine (h.sheds.mono (conditions.shown_mono le_rfl (Nat.le_succ _))).trans (hsheds.mono ?_)
  rintro time rfl
  exact ⟨s'.2, h.count, Nat.lt_succ_self _, rfl⟩

/-- A call that issues no key. -/
theorem Unissued.call (h : Unissued conditions s s') (call : BackingCall)
    (hcall : ∀ id email kind token,
      Exchange.mk call ((d.serviceUnder conditions).backing call s').result ≠
        .issued id email kind token) :
    Unissued conditions s ((d.serviceUnder conditions).backing call s').state := by
  have hcount := d.count_call conditions call s'
  obtain ⟨_, ⟨id, email, kind, expiry, hissued, _⟩ | ⟨_, hdrawn, hkeys⟩⟩ :=
    (d.relaysUnder conditions).call_cases call s'
  · exact absurd hissued (hcall id email kind _)
  · constructor
    case count => exact hcount ▸ Nat.le_succ_of_le h.count
    case drawn => exact hdrawn.trans h.drawn
    case unique =>
      rcases hkeys with hkeys | ⟨token, hkeys⟩
      · exact hkeys ▸ h.unique
      · exact hkeys ▸ h.unique.resolve _ _
    case sheds =>
      rw [hcount]
      apply h.sheds_next
      rcases hkeys with hkeys | ⟨token, hkeys⟩
      · exact hkeys ▸ KeyTable.Sheds.refl _ _
      · exact hkeys ▸ KeyTable.sheds_resolve _ token _

/-- A call that asks for no key issues none. -/
theorem Unissued.call_of_ne (h : Unissued conditions s s') (call : BackingCall)
    (hcall : ∀ id email kind, call ≠ .issue id email kind) :
    Unissued conditions s ((d.serviceUnder conditions).backing call s').state :=
  h.call call (Exchange.ne_issued hcall _)

/-- A call that fails issues no key. -/
theorem Unissued.call_of_error (h : Unissued conditions s s') {call : BackingCall}
    {error : call.Failure}
    (herror : ((d.serviceUnder conditions).backing call s').result = .error error) :
    Unissued conditions s ((d.serviceUnder conditions).backing call s').state := by
  apply h.call call
  rw [herror]
  exact Exchange.error_ne_issued call error

/-- A recovery key that is issued is new. -/
theorem Unissued.recoveryIssued (h : Unissued conditions s s')
    (drawn : s.1.identity.Drawn d.identity)
    (distinct : Set.InjOn d.identity.tokenAt (Set.Iic s.1.identity.drawn)) {id email token : String}
    (hissued : ((d.serviceUnder conditions).backing (.issue id email .recovery) s').result =
      .ok token) :
    RecoveryIssued conditions s
      ((d.serviceUnder conditions).backing (.issue id email .recovery) s').state := by
  have hcount := d.count_call conditions (.issue id email .recovery) s'
  obtain ⟨_, ⟨id', email', kind, expiry, hcall, _, _, _, hkeys⟩ | ⟨hquiet, _⟩⟩ :=
    (d.relaysUnder conditions).call_cases (.issue id email .recovery) s'
  · have hkind : KeyKind.recovery = kind := by
      have hsame := congrArg Exchange.call hcall
      injection hsame
    refine ⟨s'.1.identity.keys.sweep (conditions.clock s'.2), _, _, ?_, ?_, hkind.symm, hkeys⟩
    · rw [hcount]
      exact h.sheds_next (h.unique.sheds_sweep _)
    · rw [h.drawn]
      exact drawn.get?_next distinct
  · rw [hissued] at hquiet
    exact absurd rfl (hquiet id email .recovery token)

/-- Mailing a token does not reach the keys. -/
theorem RecoveryIssued.sendReset (h : RecoveryIssued conditions s s') (recipients : List String)
    (host token : String) :
    RecoveryIssued conditions s
      ((d.serviceUnder conditions).backing (.sendReset recipients host token) s').state := by
  obtain ⟨kept, token', claims, hsheds, hnew, hkind, hkeys⟩ := h
  refine ⟨kept, token', claims, hsheds.mono ?_, hnew, hkind, ?_⟩
  · rw [d.count_call]
    exact conditions.shown_mono le_rfl (Nat.le_succ _)
  · rw [(d.relaysUnder conditions).others (.sendReset recipients host token) rfl s']
    exact hkeys

/-- A request that fails issues no key, unless it was to mail one. -/
theorem unissued_of_failed {request : ServiceCall}
    (hrequest : ∀ email host, request ≠ .generateResetToken email host)
    (unique : s.1.identity.keys.Unique) :
    (request.script d.accepts).Ensures (d.serviceUnder conditions).backing s fun result s' =>
      ∀ error, result = .error error → Unissued conditions s s' := by
  have keeps : ∀ call : BackingCall, (∀ id email kind, call ≠ .issue id email kind) → ∀ s',
      Unissued conditions s s' →
        Unissued conditions s ((d.serviceUnder conditions).backing call s').state :=
    fun call hcall s' h => h.call_of_ne call hcall
  by_cases hlogin : ∃ user, request = .login user
  · -- the key is issued by the last call, which fails if the request does
    obtain ⟨user, rfl⟩ := hlogin
    refine Script.ensures_bind_of_only keeps (Script.only_authenticate (by simp) (by simp))
      (.refl unique) (fun _ _ h _ _ => h) fun stored s₁ _ hs₁ => ?_
    rw [Script.issue, Script.ensures_ask]
    exact ⟨fun _ _ _ h => (by cases h), fun error herror _ _ => hs₁.call_of_error herror⟩
  · refine fun _ _ => Script.run_keeps _ keeps ((request.script_only d.accepts).mono ?_)
      (.refl unique)
    intro call may id email kind hcall
    subst hcall
    cases request with
    | login user => exact hlogin ⟨user, rfl⟩
    | generateResetToken email host => exact hrequest email host rfl
    | _ => exact may

/-- The request to mail a recovery key fails in three ways: there is no such account, no key is
issued, or the key that was issued is not delivered. -/
theorem generateResetToken_of_failed (drawn : s.1.identity.Drawn d.identity)
    (distinct : Set.InjOn d.identity.tokenAt (Set.Iic s.1.identity.drawn)) (email host : String) :
    (Script.generateResetToken email host).Ensures (d.serviceUnder conditions).backing s
      fun result s' => ∀ error, result = .error error →
        error.kind ≠ .emailDelivery ∧ Unissued conditions s s' ∨
          error.kind = .emailDelivery ∧ RecoveryIssued conditions s s' := by
  have hstart : Unissued conditions s s := .refl drawn.unique
  have stop : ∀ {error : AccountError} {s' : World α ω × Nat}, error.kind ≠ .emailDelivery →
      Unissued conditions s s' → ∀ error', (.error error : Except _ Unit) = .error error' →
        error'.kind ≠ .emailDelivery ∧ Unissued conditions s s' ∨
          error'.kind = .emailDelivery ∧ RecoveryIssued conditions s s' := by
    rintro error s' hkind hs' _ ⟨⟩
    exact Or.inl ⟨hkind, hs'⟩
  rw [Script.generateResetToken, Script.ensures_ite]
  refine ⟨fun _ => stop (by decide) hstart, fun _ => ?_⟩
  rw [Script.ensures_bind, Script.existing, Script.ensures_bind, Script.byEmail, Script.ensures_ask]
  refine ⟨fun user huser => ?_,
    fun error herror => stop (by rintro ⟨⟩) (hstart.call_of_error herror)⟩
  have hfound := hstart.call_of_ne (d := d) (.byEmail email) (by simp)
  rw [Script.onward_ok, Script.ensures_ite]
  refine ⟨fun _ => stop (by decide) hfound, fun _ => ?_⟩
  rw [Script.ensures_pure, Script.onward_ok, Script.ensures_bind, Script.issue, Script.ensures_ask]
  refine ⟨fun token htoken => ?_,
    fun error herror => stop (by rintro ⟨⟩) (hfound.call_of_error herror)⟩
  have hissued := hfound.recoveryIssued drawn distinct htoken
  rw [Script.onward_ok, Script.sendPasswordReset, Script.ensures_call]
  split
  · rintro _ ⟨⟩
  · rw [Script.ensures_bind, Script.ensures_log, Script.onward_ok, Script.ensures_fail]
    rintro _ ⟨⟩
    exact Or.inr ⟨rfl, hissued.sendReset [email] host token⟩

/-! ## All that is left behind -/

/-- What a request that failed with an error makes of a state, with the calls it made. -/
structure Residue (tuples : α → Set RelationTuple) (conditions : Conditions)
    (request : ServiceCall) (error : AccountError) (calls : List Exchange)
    (s s' : World α ω × Nat) : Prop where
  accounts : s'.1.accounts = s.1.accounts
  groups : s'.1.identity.groups = s.1.identity.groups
  /-- A registration whose hash or whose saving failed has granted ownership of the id it drew. -/
  granted : (∃ token user, request = .register token user) → Unfinished calls →
    ∃ id, ⟨.freshId, .ok id⟩ ∈ calls ∧
      tuples s'.1.identity.agent = insert (.ownership id) (tuples s.1.identity.agent)
  /-- Otherwise the tuples are as they were. -/
  ungranted : ¬ ((∃ token user, request = .register token user) ∧ Unfinished calls) →
    tuples s'.1.identity.agent = tuples s.1.identity.agent
  /-- A recovery key that could not be mailed has been issued. -/
  issued : (∃ email host, request = .generateResetToken email host) →
    error.kind = .emailDelivery → RecoveryIssued conditions s s'
  /-- Otherwise only dead keys have been dropped. -/
  unissued : ¬ ((∃ email host, request = .generateResetToken email host) ∧
      error.kind = .emailDelivery) →
    s.1.identity.keys.Sheds (conditions.shown s.2 s'.2) s'.1.identity.keys

section Failed

variable {request : ServiceCall} {error : AccountError} {tuples : α → Set RelationTuple}

/-- No request changes the groups. -/
theorem groups_serve (request : ServiceCall) (s : World α ω × Nat) :
    ((d.serviceUnder conditions).serve request s).state.1.identity.groups =
      s.1.identity.groups :=
  Script.run_keeps (fun s' : World α ω × Nat => s'.1.identity.groups = s.1.identity.groups)
    (fun call _ s' h => ((d.relaysUnder conditions).call_cases call s').1.trans h)
    (Script.only_true _) rfl

/-- A registration that fails behind its grant has granted ownership of the id it drew. -/
theorem tuples_of_unfinished (keeps : d.identity.agent.Keeps tuples) {token : String} {user : User}
    (unfinished : Unfinished ((d.serviceUnder conditions).exchanges (.register token user) s)) :
    ∃ id, ⟨.freshId, .ok id⟩ ∈ (d.serviceUnder conditions).exchanges (.register token user) s ∧
      tuples ((d.serviceUnder conditions).serve (.register token user) s).state.1.identity.agent =
        insert (.ownership id) (tuples s.1.identity.agent) := by
  obtain ⟨_, hfinished⟩ | ⟨id, hdrawn, hgrants, _⟩ :=
    ((d.serviceUnder conditions).register_exchanges token user s).grants_cases
  · exact absurd unfinished hfinished
  · refine ⟨id, hdrawn, Set.ext fun t => ?_⟩
    rw [AccountService.mem_tuples_serve (d.relaysUnder conditions) keeps, hgrants,
      Set.mem_insert_iff, or_comm]

/-- A request that fails grants nothing, unless it is a registration that fails behind its grant. -/
theorem tuples_of_failed (keeps : d.identity.agent.Keeps tuples)
    (failed : ((d.serviceUnder conditions).serve request s).result = .error error)
    (finished : ¬ ((∃ token user, request = .register token user) ∧
      Unfinished ((d.serviceUnder conditions).exchanges request s))) :
    tuples ((d.serviceUnder conditions).serve request s).state.1.identity.agent =
      tuples s.1.identity.agent := by
  ext t
  rw [AccountService.mem_tuples_serve (d.relaysUnder conditions) keeps]
  refine or_iff_left fun hgranted => ?_
  by_cases hregister : ∃ token user, request = .register token user
  · obtain ⟨token, user, rfl⟩ := hregister
    obtain ⟨hnone, _⟩ | ⟨_, _, _, hunfinished⟩ :=
      ((d.serviceUnder conditions).register_exchanges token user s).grants_cases
    · exact hnone t hgranted
    · exact finished ⟨⟨token, user, rfl⟩, hunfinished ⟨error, failed⟩⟩
  · exact AccountService.not_grants (fun token user h => hregister ⟨token, user, h⟩) t hgranted

end Failed

/-- In every reachable state, a request that fails leaves behind no more than its residue, whatever
calls fail meanwhile and whatever the clock shows. -/
theorem failed_leaves_residue (d : Deployment α ω) {tuples : α → Set RelationTuple}
    (keeps : d.identity.agent.Keeps tuples) (conditions : Conditions) (start : World α ω × Nat)
    (hkeys : start.1.identity.keys = KeyTable.empty) (moves : List Move) (request : ServiceCall)
    (error : AccountError) :
    let service := d.serviceUnder conditions
    let s := d.runUnder conditions start moves
    let o := service.serve request s
    Set.InjOn d.identity.tokenAt (Set.Iic s.1.identity.drawn) → o.result = .error error →
    Residue tuples conditions request error (service.exchanges request s) s o.state := by
  intro service s o distinct failed
  have drawn : s.1.identity.Drawn d.identity := drawn_runUnder moves (.of_empty hkeys)
  have effect := service.serve_effect (d.storesInUnder conditions) request s
  rw [failed] at effect
  constructor
  case accounts => exact effect.eq_of_error
  case groups => exact groups_serve request s
  case granted =>
    rintro ⟨token, user, rfl⟩ unfinished
    exact tuples_of_unfinished keeps unfinished
  case ungranted => exact tuples_of_failed keeps failed
  case issued =>
    rintro ⟨email, host, rfl⟩ hkind
    have hends := generateResetToken_of_failed drawn distinct email host error failed
    exact (hends.resolve_left fun h => h.1 hkind).2
  case unissued =>
    intro hnot
    by_cases hrequest : ∃ email host, request = .generateResetToken email host
    · obtain ⟨email, host, rfl⟩ := hrequest
      have hends := generateResetToken_of_failed drawn distinct email host error failed
      exact (hends.resolve_right fun h => hnot ⟨⟨email, host, rfl⟩, h.1⟩).2.sheds
    · exact (unissued_of_failed (fun email host h => hrequest ⟨email, host, h⟩) drawn.unique
        error failed).sheds

/-- The hasher is out of reach when a user registers. -/
theorem residue_without_hash :
    let conditions : Conditions :=
      { clock := fun _ => ⟨0, 0, by decide⟩
        fault := fun n call =>
          match n, call with
          | 3, .hash _ => some (.failed "hasher offline")
          | _, _ => none }
    let identity : IdentityState TupleSet :=
      { now := ⟨0, 0, by decide⟩, agent := TupleSet.ofList [RelationTuple.bootstrap] }
    let s : World TupleSet Unit × Nat := ({ identity, outside := () }, 0)
    let request : ServiceCall := .register "" { email := "a@x.com", password := "password" }
    let service := miniature.serviceUnder conditions
    let error : AccountError := .byHash .malformedEntity (.failed "hasher offline")
    (service.serve request s).result = .error error ∧
      Residue TupleSet.toSet conditions request error (service.exchanges request s) s
        (service.serve request s).state := by
  intro conditions identity s request service error
  have failed : (service.serve request s).result = .error error := by rfl
  refine ⟨failed, failed_leaves_residue miniature TupleSet.keeps conditions s rfl [] request error
    ?_ failed⟩
  exact Uuid.simple_injOn.mono (Set.Iic_subset_Iio.mpr (by decide))

end Deployment

end AccessControl
