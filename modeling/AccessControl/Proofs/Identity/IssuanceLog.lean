import AccessControl.Policy.TupleSet
import AccessControl.Proofs.Identity.Requests
import AccessControl.Proofs.Uuid
import Mathlib.Data.List.Basic
import Mathlib.Data.Set.Function
import Mathlib.Order.Interval.Set.Basic

/-!
# The table of keys as a log of issues

A run of the identity service leaves a history of handled requests. In the history alone, claims
*stand* under a token if the token was issued with them and nobody asked to forget it since. The
table of keys is smaller: dead keys are dropped when they are met and swept whenever a key is
enrolled. `Tracks` is the invariant that links the two. Every claim in the table stands, and claims
that stand without being in the table never come to life again. So a token resolves exactly if
claims stand under it that have not expired.
-/

namespace AccessControl.LocalIdentity

open AccessControl.Calendar

variable {α : Type} {service : LocalIdentity α} {start s s' : IdentityState α}
  {history : List Handled} {token : String} {claims : KeyClaims} {now : Timestamp} {e : Handled}

/-- The service comes from a state to another one by handling the requests of a history. -/
inductive Run (service : LocalIdentity α) (start : IdentityState α) :
    List Handled → IdentityState α → Prop
  | start : Run service start [] start
  | handle {history : List Handled} {s : IdentityState α} (earlier : Run service start history s)
      (now : Timestamp) (request : IdentityCall) :
      Run service start (history ++ [⟨now, request, (service.handle request (s.at now)).result⟩])
        (service.handle request (s.at now)).state

/-- Under a token stand the claims it was issued with, unless it was to be forgotten since. -/
def Standing (service : LocalIdentity α) (history : List Handled) (token : String)
    (claims : KeyClaims) : Prop :=
  (∃ before after, history = before ++
      ⟨claims.issuedAt, .issue claims.id claims.email claims.kind, .ok token⟩ :: after ∧
    ∀ e ∈ after, e.request ≠ .revoke token) ∧
  claims.issuedAt.add? (service.lifetime claims.kind) = some claims.expiresAt

/-! ## What stands in a history -/

/-- The claims of a token that stands were issued with it. -/
theorem Standing.mem (h : Standing service history token claims) :
    ⟨claims.issuedAt, .issue claims.id claims.email claims.kind, .ok token⟩ ∈ history := by
  obtain ⟨⟨before, after, rfl, _⟩, _⟩ := h
  exact List.mem_append_right _ List.mem_cons_self

/-- One more request ends the claims of the token it forgets, and adds those of the token it
issues. -/
theorem standing_snoc :
    Standing service (history ++ [e]) token claims ↔
      Standing service history token claims ∧ e.request ≠ .revoke token ∨
      e = ⟨claims.issuedAt, .issue claims.id claims.email claims.kind, .ok token⟩ ∧
        claims.issuedAt.add? (service.lifetime claims.kind) = some claims.expiresAt := by
  constructor
  · rintro ⟨⟨before, after, hsplit, hafter⟩, hexpiry⟩
    rcases List.eq_nil_or_concat' after with rfl | ⟨init, last, rfl⟩
    · obtain ⟨_, hlast⟩ := List.append_inj' hsplit rfl
      exact Or.inr ⟨(List.cons.inj hlast).1, hexpiry⟩
    · rw [← List.cons_append, ← List.append_assoc] at hsplit
      obtain ⟨hinit, hlast⟩ := List.append_inj' hsplit rfl
      rw [(List.cons.inj hlast).1]
      refine Or.inl ⟨⟨⟨before, init, hinit, ?_⟩, hexpiry⟩, ?_⟩
      · exact fun e he => hafter e (List.mem_append_left _ he)
      · exact hafter last (List.mem_append_right _ List.mem_cons_self)
  · rintro (⟨⟨⟨before, after, rfl, hafter⟩, hexpiry⟩, he⟩ | ⟨rfl, hexpiry⟩)
    · refine ⟨⟨before, after ++ [e], by rw [List.append_assoc, List.cons_append], ?_⟩, hexpiry⟩
      intro e' he'
      rcases List.mem_append.mp he' with he' | he'
      · exact hafter e' he'
      · rw [List.mem_singleton.mp he']
        exact he
    · exact ⟨⟨history, [], rfl, by simp⟩, hexpiry⟩

/-- A request that does not concern a token leaves what stands under it. -/
theorem standing_snoc_of_not_concerns (h : ¬ e.Concerns token) :
    Standing service (history ++ [e]) token claims ↔ Standing service history token claims := by
  rw [standing_snoc]
  constructor
  · rintro (⟨hstanding, _⟩ | ⟨rfl, _⟩)
    · exact hstanding
    · exact absurd (Or.inl ⟨_, _, _, _, rfl⟩) h
  · exact fun hstanding => Or.inl ⟨hstanding, fun he => h (Or.inr he)⟩

/-! ## The invariant -/

/-- How the state of a service fits the history that led to it. -/
structure Tracks (service : LocalIdentity α) (history : List Handled) (s : IdentityState α) :
    Prop where
  unique : s.keys.Unique
  /-- Issued tokens were drawn. -/
  drawn : ∀ e ∈ history, ∀ token, e.Issued token → ∃ k < s.drawn, token = service.tokenAt k
  /-- What is in the table stands. -/
  sound : ∀ token claims, s.keys.get? token = some claims → Standing service history token claims
  /-- What stands is in the table, or is dead for good. -/
  complete : ∀ token claims, Standing service history token claims →
    s.keys.get? token = some claims ∨
      ∀ now, (∀ e ∈ history, e.time ≤ now) → ¬ claims.Alive now
  /-- A token that was forgotten is gone. -/
  gone : ∀ e ∈ history, ∀ token, e.Forgot token → s.keys.get? token = none
  /-- A token that was forgotten had been issued. -/
  traced : ∀ e ∈ history, ∀ token, e.Forgot token → ∃ e' ∈ history, e'.Issued token
  /-- No token was forgotten twice. -/
  once : ∀ token, history.Pairwise fun e e' => ¬ (e.Forgot token ∧ e'.Forgot token)

theorem tracks_start (hkeys : s.keys = KeyTable.empty) : Tracks service [] s where
  unique := hkeys ▸ KeyTable.unique_empty
  drawn := by simp
  sound := by simp [hkeys, KeyTable.get?_empty]
  complete := by
    rintro token claims ⟨⟨before, after, hsplit, _⟩, _⟩
    simp at hsplit
  gone := by simp
  traced := by simp
  once := fun _ => List.Pairwise.nil

/-! ## What each request keeps -/

/-- The next token string was not issued before. -/
theorem Tracks.not_issued (tracks : Tracks service history s)
    (distinct : Set.InjOn service.tokenAt (Set.Iic s.drawn)) (he : e ∈ history)
    (hissued : e.Issued token) : token ≠ service.tokenAt s.drawn := by
  obtain ⟨k, hk, rfl⟩ := tracks.drawn e he token hissued
  intro h
  have hkdrawn : k = s.drawn := distinct (Set.mem_Iic.mpr hk.le) (Set.mem_Iic.mpr le_rfl) h
  omega

/-- Tokens that were issued are still among those drawn, one request later. -/
theorem Tracks.drawn_snoc (tracks : Tracks service history s) (hdrawn : s.drawn ≤ s'.drawn)
    (hissued : ∀ token, e.Issued token → ∃ k < s'.drawn, token = service.tokenAt k) :
    ∀ e' ∈ history ++ [e], ∀ token, e'.Issued token →
      ∃ k < s'.drawn, token = service.tokenAt k := by
  rw [List.forall_mem_append, List.forall_mem_singleton]
  refine ⟨fun e' he' token h => ?_, hissued⟩
  obtain ⟨k, hk, htoken⟩ := tracks.drawn e' he' token h
  exact ⟨k, hk.trans_le hdrawn, htoken⟩

/-- Tokens that were forgotten are still among those issued, one request later. -/
theorem Tracks.traced_snoc (tracks : Tracks service history s)
    (hforgot : ∀ token, e.Forgot token → ∃ e' ∈ history, e'.Issued token) :
    ∀ e' ∈ history ++ [e], ∀ token, e'.Forgot token →
      ∃ e'' ∈ history ++ [e], e''.Issued token := by
  have hwiden : ∀ token, (∃ e' ∈ history, e'.Issued token) →
      ∃ e' ∈ history ++ [e], e'.Issued token :=
    fun token ⟨e', he', h⟩ => ⟨e', List.mem_append_left _ he', h⟩
  rw [List.forall_mem_append, List.forall_mem_singleton]
  exact ⟨fun e' he' token h => hwiden token (tracks.traced e' he' token h),
    fun token h => hwiden token (hforgot token h)⟩

/-- No token is forgotten twice, one request later. -/
theorem Tracks.once_snoc (tracks : Tracks service history s)
    (hforgot : ∀ token, e.Forgot token → ∀ e' ∈ history, ¬ e'.Forgot token) (token : String) :
    (history ++ [e]).Pairwise fun e e' => ¬ (e.Forgot token ∧ e'.Forgot token) := by
  refine List.pairwise_append.mpr ⟨tracks.once token, List.pairwise_singleton _ _, ?_⟩
  intro e' he' e'' he''
  rw [List.mem_singleton.mp he'']
  exact fun h => hforgot token h.2 e' he' h.1

/-- Claims that a sweep drops stay dead. -/
theorem not_alive_of_swept (h : ¬ now < claims.expiresAt) {later : Timestamp}
    (forward : now ≤ later) : ¬ claims.Alive later :=
  fun alive => h (lt_of_le_of_lt forward alive.2)

/-- Issuing a fresh token keeps the invariant. -/
theorem Tracks.issue (tracks : Tracks service history s)
    (distinct : Set.InjOn service.tokenAt (Set.Iic s.drawn)) {id email : String} {kind : KeyKind}
    {expiry : Timestamp} (hexpiry : now.add? (service.lifetime kind) = some expiry)
    (hdrawn : s'.drawn = s.drawn + 1)
    (hkeys : s'.keys = s.keys.enroll (service.tokenAt s.drawn) ⟨id, email, kind, now, expiry⟩) :
    Tracks service
      (history ++ [⟨now, .issue id email kind, .ok (service.tokenAt s.drawn)⟩]) s' := by
  have hget := fun other => tracks.unique.get?_enroll (service.tokenAt s.drawn) other
    ⟨id, email, kind, now, expiry⟩
  rw [← hkeys] at hget
  have hnot : ∀ token, ¬ Handled.Forgot token
      ⟨now, .issue id email kind, .ok (service.tokenAt s.drawn)⟩ := by
    rintro token ⟨time, h⟩
    simp at h
  constructor
  case unique => exact hkeys ▸ tracks.unique.enroll _ _
  case drawn =>
    apply tracks.drawn_snoc (by omega)
    rintro token ⟨time, id', email', kind', h⟩
    obtain ⟨_, _, _, _, htoken⟩ := Handled.issue_eq_iff.mp h
    exact ⟨s.drawn, by omega, htoken.symm⟩
  case sound =>
    intro token claims h
    rw [hget] at h
    rw [standing_snoc]
    by_cases htoken : token = service.tokenAt s.drawn
    · rw [if_pos htoken, Option.some.injEq] at h
      rw [← h, htoken]
      exact Or.inr ⟨rfl, hexpiry⟩
    · rw [if_neg htoken, Option.filter_eq_some_iff] at h
      exact Or.inl ⟨tracks.sound token claims h.1, by simp⟩
  case complete =>
    intro token claims h
    rw [hget]
    rcases standing_snoc.mp h with ⟨hold, _⟩ | ⟨hnew, hclaims⟩
    · -- claims that stood before are not those of the fresh token; the sweep took them only if dead
      have htoken := tracks.not_issued distinct hold.mem ⟨_, _, _, _, rfl⟩
      rw [if_neg htoken, Option.filter_eq_some_iff]
      rcases tracks.complete token claims hold with hbound | hdead
      · by_cases hlive : now < claims.expiresAt
        · exact Or.inl ⟨hbound, by simpa using hlive⟩
        · refine Or.inr fun later hlater => not_alive_of_swept hlive ?_
          exact hlater _ (List.mem_append_right _ List.mem_cons_self)
      · exact Or.inr fun later hlater =>
          hdead later fun e he => hlater e (List.mem_append_left _ he)
    · obtain ⟨rfl, rfl, rfl, rfl, rfl⟩ := Handled.issue_eq_iff.mp hnew
      rw [hexpiry, Option.some.injEq] at hclaims
      rw [if_pos rfl, hclaims]
      exact Or.inl rfl
  case gone =>
    rw [List.forall_mem_append, List.forall_mem_singleton]
    refine ⟨fun e he token hforgot => ?_, fun token hforgot => absurd hforgot (hnot token)⟩
    -- a token that was forgotten is not the fresh one, so it was not bound again
    obtain ⟨e', he', hissued⟩ := tracks.traced e he token hforgot
    rw [hget, if_neg (tracks.not_issued distinct he' hissued), tracks.gone e he token hforgot]
    rfl
  case traced => exact tracks.traced_snoc fun token h => absurd h (hnot token)
  case once => exact tracks.once_snoc fun token h => absurd h (hnot token)

/-- Forgetting a token keeps the invariant. -/
theorem Tracks.revoke (tracks : Tracks service history s) (token : String)
    (hdrawn : s'.drawn = s.drawn) (hkeys : s'.keys = s.keys.erase token) :
    Tracks service (history ++ [⟨now, .revoke token, .ok (s.keys.get? token).isSome⟩]) s' := by
  have hget := s.keys.get?_erase token
  rw [← hkeys] at hget
  -- the token is forgotten only if it was in the table
  have hforgot : ∀ other, Handled.Forgot other
      ⟨now, .revoke token, .ok (s.keys.get? token).isSome⟩ →
      other = token ∧ ∃ claims, s.keys.get? token = some claims := by
    rintro other ⟨time, h⟩
    obtain ⟨_, rfl, hfound⟩ := Handled.revoke_eq_iff.mp h
    exact ⟨rfl, Option.isSome_iff_exists.mp hfound⟩
  constructor
  case unique => exact hkeys ▸ tracks.unique.erase _
  case drawn =>
    apply tracks.drawn_snoc hdrawn.ge
    rintro other ⟨time, id, email, kind, h⟩
    simp at h
  case sound =>
    intro other claims h
    rw [hget] at h
    by_cases hother : other = token
    · rw [if_pos hother] at h
      cases h
    · rw [if_neg hother] at h
      refine standing_snoc.mpr (Or.inl ⟨tracks.sound other claims h, ?_⟩)
      simpa using Ne.symm hother
  case complete =>
    intro other claims h
    rcases standing_snoc.mp h with ⟨hold, hrequest⟩ | ⟨hnew, _⟩
    · rw [hget, if_neg fun hother => hrequest (by rw [hother])]
      exact (tracks.complete other claims hold).imp_right fun hdead later hlater =>
        hdead later fun e he => hlater e (List.mem_append_left _ he)
    · simp at hnew
  case gone =>
    rw [List.forall_mem_append, List.forall_mem_singleton]
    refine ⟨fun e he other h => ?_, fun other h => ?_⟩
    · rw [hget, tracks.gone e he other h, ite_self]
    · rw [hget, if_pos (hforgot other h).1]
  case traced =>
    apply tracks.traced_snoc
    intro other h
    obtain ⟨rfl, claims, hclaims⟩ := hforgot other h
    exact ⟨_, (tracks.sound other claims hclaims).mem, _, _, _, _, rfl⟩
  case once =>
    apply tracks.once_snoc
    intro other h e he h'
    obtain ⟨rfl, claims, hclaims⟩ := hforgot other h
    rw [tracks.gone e he other h'] at hclaims
    cases hclaims

/-- A request that concerns no token and drops only keys that are dead for good keeps the
invariant. -/
theorem Tracks.look (tracks : Tracks service history s) (hquiet : ∀ token, ¬ e.Concerns token)
    (hdrawn : s'.drawn = s.drawn) (unique : s'.keys.Unique)
    (hget : ∀ token, s'.keys.get? token = s.keys.get? token ∨
      s'.keys.get? token = none ∧ ∀ claims, s.keys.get? token = some claims →
        ∀ later, e.time ≤ later → ¬ claims.Alive later) :
    Tracks service (history ++ [e]) s' := by
  constructor
  case unique => exact unique
  case drawn =>
    exact tracks.drawn_snoc hdrawn.ge fun token h => absurd (Or.inl h) (hquiet token)
  case sound =>
    intro token claims h
    rw [standing_snoc_of_not_concerns (hquiet token)]
    rcases hget token with hsame | ⟨hnone, _⟩
    · exact tracks.sound token claims (hsame ▸ h)
    · rw [hnone] at h
      cases h
  case complete =>
    intro token claims h
    rw [standing_snoc_of_not_concerns (hquiet token)] at h
    rcases tracks.complete token claims h with hbound | hdead
    · refine (hget token).imp (fun hsame => hsame.trans hbound) ?_
      rintro ⟨_, hdead⟩ later hlater
      exact hdead claims hbound later (hlater e (List.mem_append_right _ List.mem_cons_self))
    · exact Or.inr fun later hlater =>
        hdead later fun e' he => hlater e' (List.mem_append_left _ he)
  case gone =>
    rw [List.forall_mem_append, List.forall_mem_singleton]
    refine ⟨fun e' he token h => ?_, fun token h => absurd h.concerns (hquiet token)⟩
    exact (hget token).elim (fun hsame => hsame.trans (tracks.gone e' he token h)) (·.1)
  case traced => exact tracks.traced_snoc fun token h => absurd h.concerns (hquiet token)
  case once => exact tracks.once_snoc fun token h => absurd h.concerns (hquiet token)

/-- Whatever the request, handling it keeps the invariant. -/
theorem Tracks.handle (tracks : Tracks service history s)
    (distinct : Set.InjOn service.tokenAt (Set.Iic s.drawn)) (now : Timestamp)
    (request : IdentityCall) :
    Tracks service (history ++ [⟨now, request, (service.handle request (s.at now)).result⟩])
      (service.handle request (s.at now)).state := by
  obtain ⟨id, email, kind, expiry, hissue, hexpiry, hdrawn, hkeys⟩ |
    ⟨token, hrevoke, hdrawn, hkeys⟩ | ⟨hquiet, hdrawn, hkeys⟩ :=
    service.handle_cases s now request
  · rw [hissue]
    exact tracks.issue distinct hexpiry hdrawn hkeys
  · rw [hrevoke]
    exact tracks.revoke token hdrawn hkeys
  · rcases hkeys with hkeys | ⟨token, hkeys⟩
    · exact tracks.look hquiet hdrawn (hkeys ▸ tracks.unique) fun _ => Or.inl (by rw [hkeys])
    · refine tracks.look hquiet hdrawn (hkeys ▸ tracks.unique.resolve token now) fun other => ?_
      rw [hkeys]
      exact (KeyTable.sheds_resolve s.keys token now).not_alive other

/-! ## Runs -/

/-- Token strings are drawn one after the other. -/
theorem drawn_le_handle (service : LocalIdentity α) (s : IdentityState α) (now : Timestamp)
    (request : IdentityCall) : s.drawn ≤ (service.handle request (s.at now)).state.drawn := by
  obtain ⟨_, _, _, _, _, _, hdrawn, _⟩ | ⟨_, _, hdrawn, _⟩ | ⟨_, hdrawn, _⟩ :=
    service.handle_cases s now request <;> omega

/-- The invariant holds along every run that draws distinct token strings. -/
theorem Run.tracks (run : Run service start history s) (hkeys : start.keys = KeyTable.empty)
    (distinct : Set.InjOn service.tokenAt (Set.Iic s.drawn)) : Tracks service history s := by
  induction run with
  | start => exact tracks_start hkeys
  | handle earlier now request ih =>
    -- what was drawn before the last request is among what was drawn in all
    have hearlier := distinct.mono (Set.Iic_subset_Iic.mpr (service.drawn_le_handle _ now request))
    exact (ih hearlier).handle hearlier now request

/-- The empty token never stands, since none like it is issued. -/
theorem Tracks.not_standing_empty (tracks : Tracks service history s)
    (nonempty : ∀ n, service.tokenAt n ≠ "") : ¬ Standing service history "" claims := by
  intro hstanding
  obtain ⟨k, _, hk⟩ := tracks.drawn _ hstanding.mem "" ⟨_, _, _, _, rfl⟩
  exact nonempty k hk.symm

/-- Where the invariant holds, a token resolves exactly if claims stand under it that have not
expired. -/
theorem Tracks.identify_iff (tracks : Tracks service history s)
    (nonempty : ∀ n, service.tokenAt n ≠ "") (present : ∀ e ∈ history, e.time ≤ now)
    {identity : Identity} :
    (identify token (s.at now)).result = .ok identity ↔
      ∃ claims, Standing service history token claims ∧ now < claims.expiresAt ∧
        claims.identity = identity := by
  rw [identify_run]
  apply KeyTable.resolve_eq_ok_iff.trans
  constructor
  · rintro ⟨_, claims, hbound, halive, hidentity⟩
    exact ⟨claims, tracks.sound token claims hbound, halive.2, hidentity⟩
  · rintro ⟨claims, hstanding, hlive, hidentity⟩
    -- the issue is in the history, so its time has come
    have halive : claims.Alive now := ⟨present _ hstanding.mem, hlive⟩
    have htoken : token ≠ "" := by
      rintro rfl
      exact tracks.not_standing_empty nonempty hstanding
    rcases tracks.complete token claims hstanding with hbound | hdead
    · exact ⟨htoken, claims, hbound, halive, hidentity⟩
    · exact absurd halive (hdead now present)

/-- The table of keys behaves as the log of issues and revocations says. On a clock that has not
gone behind any handled request:
* a token resolves exactly to the identity it was issued to, until it expires or is revoked;
* a request that neither issues nor revokes a token never changes how it resolves from then on;
* revoking a token that still resolves answers that it was there, and no token is ever answered to
  have been there twice. -/
theorem Run.resolves_as_logged (run : Run service start history s)
    (hkeys : start.keys = KeyTable.empty)
    (distinct : Set.InjOn service.tokenAt (Set.Iic s.drawn))
    (nonempty : ∀ n, service.tokenAt n ≠ "") (present : ∀ e ∈ history, e.time ≤ now) :
    (∀ token identity, (identify token (s.at now)).result = .ok identity ↔
      ∃ claims, Standing service history token claims ∧ now < claims.expiresAt ∧
        claims.identity = identity) ∧
    (∀ request token,
      ¬ Handled.Concerns token ⟨now, request, (service.handle request (s.at now)).result⟩ →
      ∀ later, now ≤ later → ∀ identity,
        (identify token ((service.handle request (s.at now)).state.at later)).result =
            .ok identity ↔
          (identify token (s.at later)).result = .ok identity) ∧
    (∀ token identity, (identify token (s.at now)).result = .ok identity →
      (revoke token (s.at now)).result = .ok true) ∧
    ∀ token, history.Pairwise fun e e' => ¬ (e.Forgot token ∧ e'.Forgot token) := by
  have tracks := run.tracks hkeys distinct
  refine ⟨fun token identity => tracks.identify_iff nonempty present, ?_, ?_, tracks.once⟩
  · intro request token hquiet later forward identity
    have hpresent : ∀ e ∈ history, e.time ≤ later := fun e he => le_trans (present e he) forward
    have htracks := tracks.handle distinct now request
    rw [tracks.identify_iff nonempty hpresent, htracks.identify_iff nonempty]
    · simp only [standing_snoc_of_not_concerns hquiet]
    · intro e he
      rcases List.mem_append.mp he with he | he
      · exact hpresent e he
      · rw [List.mem_singleton.mp he]
        exact forward
  · intro token identity h
    obtain ⟨_, claims, hbound, _⟩ := KeyTable.resolve_eq_ok_iff.mp (identify_run token _ ▸ h)
    simp only [revoke_run, IdentityState.at] at hbound ⊢
    rw [hbound]
    rfl

/-- A key for ten hours is good after nine. -/
theorem resolves_after_nine_hours :
    let service : LocalIdentity TupleSet :=
      { tokenAt := fun n => (Uuid.ofEntropy n).simple, agent := TupleSet.agent }
    let start : IdentityState TupleSet := { now := ⟨0, 0, by decide⟩, agent := TupleSet.empty }
    let issued := service.handle (.issue "u1" "a@x.com" .user) (start.at ⟨0, 0, by decide⟩)
    (identify (Uuid.ofEntropy 0).simple (issued.state.at ⟨32400, 0, by decide⟩)).result =
      .ok ⟨"u1", "a@x.com"⟩ := by
  intro service start issued
  have hexpiry : (⟨0, 0, by decide⟩ : Timestamp).add? (service.lifetime .user) =
      some ⟨36000, 0, by decide⟩ := by decide
  have hissued : issued.result = .ok (Uuid.ofEntropy 0).simple := by
    simp only [issued, handle, issue_run, IdentityState.at, hexpiry]
    rfl
  have run := Run.handle (Run.start : Run service start [] start) ⟨0, 0, by decide⟩
    (.issue "u1" "a@x.com" .user)
  refine ((run.resolves_as_logged rfl ?_ ?_ ?_).1 _ _).mpr ⟨⟨"u1", "a@x.com", .user,
    ⟨0, 0, by decide⟩, ⟨36000, 0, by decide⟩⟩, ⟨⟨[], [], ?_, by simp⟩, hexpiry⟩, by decide, rfl⟩
  · exact Uuid.simple_injOn.mono (Set.Iic_subset_Iio.mpr (by decide))
  · exact fun n => Uuid.simple_ne_empty _
  · simp only [List.nil_append, List.mem_singleton, forall_eq]
    decide
  · exact congrArg (fun ending => [(⟨_, _, ending⟩ : Handled)]) hissued

end AccessControl.LocalIdentity
