import AccessControl.Proofs.Identity.Relay
import Mathlib.Data.Set.Function
import Mathlib.Order.Interval.Set.Basic

/-!
# The fate of a key

`IdentityState.Step` lists all that can happen to the keys at one time, whoever asks for it.
`IdentityState.KeyFate` follows the key that was issued under the `n`-th token string from there on:
its claims stand under the token, or nothing does. Then the token was forgotten, or the claims were
dead at a time at which something happened. As long as the string is not drawn again no other claims
come to stand under it.
-/

namespace AccessControl

open AccessControl.Calendar

variable {α : Type} {service : LocalIdentity α} {time : Timestamp} {forgotten : Set String}
  {s s' : IdentityState α}

/-- All that can happen to the keys at a time, if no tokens can be forgotten but the given ones. -/
inductive IdentityState.Step (service : LocalIdentity α) (time : Timestamp)
    (forgotten : Set String) (s s' : IdentityState α) : Prop
  | kept (drawn : s'.drawn = s.drawn) (keys : s'.keys = s.keys)
  | looked (token : String) (drawn : s'.drawn = s.drawn)
      (keys : s'.keys = (s.keys.resolve token time).2)
  | forgot (token : String) (mem : token ∈ forgotten) (drawn : s'.drawn = s.drawn)
      (keys : s'.keys = s.keys.erase token)
  | issued (claims : KeyClaims) (issuedAt : claims.issuedAt = time) (drawn : s'.drawn = s.drawn + 1)
      (keys : s'.keys = s.keys.enroll (service.tokenAt s.drawn) claims)

/-- A request to the identity service is a step. -/
theorem LocalIdentity.step_handle (service : LocalIdentity α) (s : IdentityState α)
    (now : Timestamp) (request : IdentityCall) :
    s.Step service now {token | request = .revoke token}
      (service.handle request (s.at now)).state := by
  obtain ⟨id, email, kind, expiry, _, _, hdrawn, hkeys⟩ | ⟨token, hrevoke, hdrawn, hkeys⟩ |
    ⟨_, hdrawn, hkeys | ⟨token, hkeys⟩⟩ := service.handle_cases s now request
  · exact .issued _ rfl hdrawn hkeys
  · exact .forgot token (congrArg Handled.request hrevoke) hdrawn hkeys
  · exact .kept hdrawn hkeys
  · exact .looked token hdrawn hkeys

/-- A call of the account service is a step, and forgets no token. -/
theorem Backing.Relays.step_call {σ : Type} {backing : Backing σ} {identity : σ → IdentityState α}
    {clock : σ → Timestamp} (relays : backing.Relays service identity clock) (call : BackingCall)
    (s : σ) : (identity s).Step service (clock s) ∅ (identity (backing call s).state) := by
  obtain ⟨_, ⟨id, email, kind, expiry, _, _, _, hdrawn, hkeys⟩ |
    ⟨_, hdrawn, hkeys | ⟨token, hkeys⟩⟩⟩ := relays.call_cases call s
  · exact .issued _ rfl hdrawn hkeys
  · exact .kept hdrawn hkeys
  · exact .looked token hdrawn hkeys

namespace IdentityState

namespace Step

/-- A step leaves the tokens distinct. -/
theorem unique (step : s.Step service time forgotten s') (h : s.keys.Unique) : s'.keys.Unique := by
  cases step with
  | kept _ keys => exact keys ▸ h
  | looked token _ keys => exact keys ▸ h.resolve token time
  | forgot token _ _ keys => exact keys ▸ h.erase token
  | issued claims _ _ keys => exact keys ▸ h.enroll _ claims

/-- A step takes no draw back. -/
theorem drawn_le (step : s.Step service time forgotten s') : s.drawn ≤ s'.drawn := by
  cases step with
  | kept drawn | looked _ drawn | forgot _ _ drawn => exact drawn.ge
  | issued _ _ drawn => exact drawn ▸ Nat.le_succ _

/-- What stands under a token is left there, or taken away: then the token was forgotten, or what
stood there was dead. -/
theorem get?_cases (step : s.Step service time forgotten s') (unique : s.keys.Unique)
    {token : String} (other : s.drawn < s'.drawn → service.tokenAt s.drawn ≠ token) :
    s'.keys.get? token = s.keys.get? token ∨ s'.keys.get? token = none ∧
      (token ∈ forgotten ∨ ∃ claims, s.keys.get? token = some claims ∧ claims.Dead time) := by
  cases step with
  | kept _ keys => exact Or.inl (by rw [keys])
  | looked asked _ keys =>
    rw [keys]
    refine (KeyTable.sheds_resolve s.keys asked time token).imp_right ?_
    rintro ⟨hnone, claims, hclaims, _, rfl, dead⟩
    exact ⟨hnone, Or.inr ⟨claims, hclaims, dead⟩⟩
  | forgot gone mem _ keys =>
    rw [keys, KeyTable.get?_erase]
    by_cases htoken : token = gone
    · exact Or.inr ⟨if_pos htoken, Or.inl (htoken ▸ mem)⟩
    · exact Or.inl (if_neg htoken)
  | issued claims issuedAt drawn keys =>
    have hne : token ≠ service.tokenAt s.drawn := (other (drawn ▸ Nat.lt_succ_self _)).symm
    rw [keys, KeyTable.enroll, KeyTable.get?_insert, if_neg hne, issuedAt]
    refine (unique.sheds_sweep time token).imp_right ?_
    rintro ⟨hnone, claims, hclaims, _, rfl, dead⟩
    exact ⟨hnone, Or.inr ⟨claims, hclaims, dead⟩⟩

end Step

/-- The `n`-th token string was not drawn again. -/
def Unrepeated (service : LocalIdentity α) (n : Nat) (s : IdentityState α) : Prop :=
  ∀ k, n < k → k < s.drawn → service.tokenAt k ≠ service.tokenAt n

/-- Where the tokens drawn are distinct, none of them is repeated. -/
theorem unrepeated_of_injOn {n : Nat}
    (distinct : Set.InjOn service.tokenAt (Set.Iio s.drawn)) : s.Unrepeated service n := by
  intro k hk hdrawn htoken
  exact absurd (distinct hdrawn (Set.mem_Iio.mpr (hk.trans hdrawn)) htoken) hk.ne'

/-- What has become of the key that was issued with some claims under the `n`-th token string, if
things happened at the given times only and none but the given tokens were forgotten. -/
structure KeyFate (service : LocalIdentity α) (n : Nat) (claims : KeyClaims)
    (times : Set Timestamp) (forgotten : Set String) (s : IdentityState α) : Prop where
  unique : s.keys.Unique
  drawn : n < s.drawn
  stands : s.Unrepeated service n → s.keys.get? (service.tokenAt n) = some claims ∨
    s.keys.get? (service.tokenAt n) = none ∧
      (service.tokenAt n ∈ forgotten ∨ ∃ time ∈ times, claims.Dead time)

namespace KeyFate

variable {n : Nat} {claims : KeyClaims} {times times' : Set Timestamp} {forgotten' : Set String}

theorem mono (fate : s.KeyFate service n claims times forgotten) (htimes : times ⊆ times')
    (hforgotten : forgotten ⊆ forgotten') : s.KeyFate service n claims times' forgotten' where
  unique := fate.unique
  drawn := fate.drawn
  stands unrepeated := by
    refine (fate.stands unrepeated).imp_right (And.imp_right (Or.imp (@hforgotten _) ?_))
    rintro ⟨time, htime, dead⟩
    exact ⟨time, htimes htime, dead⟩

/-- A key that has just been issued stands under its token. -/
theorem of_enroll (unique : s.keys.Unique) (drawn : s'.drawn = s.drawn + 1)
    (keys : s'.keys = s.keys.enroll (service.tokenAt s.drawn) claims) :
    s'.KeyFate service s.drawn claims ∅ ∅ where
  unique := keys ▸ unique.enroll _ _
  drawn := drawn ▸ Nat.lt_succ_self _
  stands _ := Or.inl (by rw [keys, KeyTable.enroll, KeyTable.get?_insert, if_pos rfl])

/-- A step at one of the times keeps the fate. -/
theorem step (fate : s.KeyFate service n claims times forgotten)
    (step : s.Step service time forgotten' s') (htime : time ∈ times)
    (hforgotten : forgotten' ⊆ forgotten) : s'.KeyFate service n claims times forgotten where
  unique := step.unique fate.unique
  drawn := fate.drawn.trans_le step.drawn_le
  stands unrepeated := by
    have before := fate.stands fun k hk hdrawn => unrepeated k hk (hdrawn.trans_le step.drawn_le)
    obtain hsame | ⟨hnone, hforgot | ⟨stood, hstood, dead⟩⟩ :=
      step.get?_cases fate.unique (unrepeated s.drawn fate.drawn)
    · rwa [hsame]
    · exact Or.inr ⟨hnone, Or.inl (hforgotten hforgot)⟩
    · -- what stood under the token and was dead are the claims of the key
      obtain hclaims | ⟨hclaims, _⟩ := before
      · obtain rfl := Option.some.inj (hstood.symm.trans hclaims)
        exact Or.inr ⟨hnone, Or.inr ⟨time, htime, dead⟩⟩
      · cases hstood.symm.trans hclaims

/-- The token resolves to no other identity, and not from the expiry on. -/
theorem eq_of_resolve (fate : s.KeyFate service n claims times forgotten)
    (unrepeated : s.Unrepeated service n) {now : Timestamp} {caller : Identity}
    (h : (s.keys.resolve (service.tokenAt n) now).1 = .ok caller) :
    caller = claims.identity ∧ now < claims.expiresAt := by
  obtain ⟨_, stood, hstood, alive, rfl⟩ := KeyTable.resolve_eq_ok_iff.mp h
  obtain hclaims | ⟨hnone, _⟩ := fate.stands unrepeated
  · obtain rfl := Option.some.inj (hstood.symm.trans hclaims)
    exact ⟨rfl, alive.2⟩
  · cases hstood.symm.trans hnone

/-- If its token was not forgotten, the key resolves exactly up to the expiry, on a clock that has
shown no later time. -/
theorem resolve_iff (fate : s.KeyFate service n claims times forgotten)
    (unrepeated : s.Unrepeated service n) (htoken : service.tokenAt n ≠ "")
    (remembered : service.tokenAt n ∉ forgotten) {now : Timestamp} (since : claims.issuedAt ≤ now)
    (forward : ∀ time ∈ times, time ≤ now) :
    (s.keys.resolve (service.tokenAt n) now).1 = .ok claims.identity ↔ now < claims.expiresAt := by
  refine ⟨fun h => (fate.eq_of_resolve unrepeated h).2, fun hnow => ?_⟩
  refine KeyTable.resolve_eq_ok_iff.mpr ⟨htoken, claims, ?_, ⟨since, hnow⟩, rfl⟩
  obtain hclaims | ⟨_, hforgot | ⟨time, htime, dead⟩⟩ := fate.stands unrepeated
  · exact hclaims
  · exact absurd hforgot remembered
  · exact absurd ⟨since, hnow⟩ (dead.not_alive (forward time htime))

end KeyFate

end IdentityState

end AccessControl
