import AccessControl.Proofs.Identity.IssuanceLog

/-!
# Dead tokens stay dead

A token is *gone* if the table of keys holds nothing under it. A token that is answered to have
expired, to have no valid window or to be unknown is gone, and so is one that was to be forgotten.
From then on it stays gone until the same string is issued again (`LocalIdentity.Run.gone`). None of
this looks at a clock, so a clock that steps back does not bring a token back either
(`LocalIdentity.Run.dead_stays_dead`).
-/

namespace AccessControl

open AccessControl.Calendar

/-- An action in two parts fails in its first part, or in its second behind an answer. -/
theorem Action.bind_failed {σ ε α β : Type} {first : Action σ ε α} {next : α → Action σ ε β} {s : σ}
    {e : ε} (h : ((first >>= next) s).result = .error e) :
    ((first s).result = .error e ∧ ((first >>= next) s).state = (first s).state) ∨
      ∃ x, (next x (first s).state).result = .error e ∧
        ((first >>= next) s).state = (next x (first s).state).state := by
  rw [Action.bind_run] at h ⊢
  generalize first s = o at h ⊢
  obtain ⟨_ | x, events, left⟩ := o
  · cases h
    exact Or.inl ⟨rfl, rfl⟩
  · exact Or.inr ⟨x, h, rfl⟩

/-- The verdicts that there is nothing to wait for under a token. -/
def IdentityError.Final : IdentityError → Prop
  | .invalidToken .expired | .invalidToken .invalidWindow | .unauthorized => True
  | _ => False

/-- The request came with a token and was refused. -/
inductive Handled.Refused (token : String) (error : IdentityError) : Handled → Prop
  | identify (time : Timestamp) : Refused token error ⟨time, .identify token, .error error⟩
  | members (time : Timestamp) (group : String) (offset limit : Nat) (memberType : String) :
      Refused token error ⟨time, .members token group offset limit memberType, .error error⟩
  | addPolicies (time : Timestamp) (batch : GrantBatch) :
      Refused token error ⟨time, .addPolicies token batch, .error error⟩

/-- The request showed a token to be dead for good, or was to forget it. -/
def Handled.Buries (token : String) (e : Handled) : Prop :=
  (∃ error, error.Final ∧ e.Refused token error) ∨ e.request = .revoke token

namespace KeyTable

variable {table : KeyTable} {token other : String} {now : Timestamp}

/-- Nothing can be found under the token. -/
def Gone (table : KeyTable) (token : String) : Prop :=
  token = "" ∨ table.get? token = none

/-- A sweep brings no key into the table. -/
theorem get?_sweep_eq_none (h : table.get? token = none) (now : Timestamp) :
    (table.sweep now).get? token = none := by
  simp only [get?, Option.map_eq_none_iff, List.find?_eq_none] at h ⊢
  exact fun binding hbinding => h binding (List.mem_filter.mp hbinding).1

/-- A token that is gone stays so when another is erased. -/
theorem Gone.erase (h : table.Gone token) (other : String) : (table.erase other).Gone token := by
  refine h.imp_right fun hnone => ?_
  rw [get?_erase, hnone, ite_self]

/-- A token that is gone stays so when another is resolved. -/
theorem Gone.resolve (h : table.Gone token) (other : String) (now : Timestamp) :
    (table.resolve other now).2.Gone token := by
  rcases table.sheds_resolve other now token with hsame | ⟨hnone, _⟩
  · exact h.imp_right hsame.trans
  · exact Or.inr hnone

/-- A token that is gone stays so when another is enrolled. -/
theorem Gone.enroll (h : table.Gone token) (hne : token ≠ other) (claims : KeyClaims) :
    (table.enroll other claims).Gone token := by
  refine h.imp_right fun hnone => ?_
  rw [KeyTable.enroll, get?_insert, if_neg hne, get?_sweep_eq_none hnone]

/-- A token that is gone does not resolve at any time. -/
theorem Gone.resolve_ne_ok (h : table.Gone token) (now : Timestamp) (identity : Identity) :
    (table.resolve token now).1 ≠ .ok identity := by
  intro hok
  obtain ⟨hne, claims, hclaims, _⟩ := resolve_eq_ok_iff.mp hok
  rcases h with hempty | hnone
  · exact hne hempty
  · cases hnone.symm.trans hclaims

/-- All that looking a token up can end with, and the table it leaves: only a key that is dead for
good is taken out. -/
inductive LookUp (table : KeyTable) (token : String) :
    Except IdentityError Identity → KeyTable → Prop
  | alive (identity : Identity) : LookUp table token (.ok identity) table
  | early : LookUp table token (.error (.invalidToken .notYetValid)) table
  | unknown (gone : table.Gone token) : LookUp table token (.error .unauthorized) table
  | expired : LookUp table token (.error (.invalidToken .expired)) (table.erase token)
  | windowless : LookUp table token (.error (.invalidToken .invalidWindow)) (table.erase token)

/-- Resolving a token is one of the ways to look it up. -/
theorem lookUp_resolve (table : KeyTable) (token : String) (now : Timestamp) :
    table.LookUp token (table.resolve token now).1 (table.resolve token now).2 := by
  unfold resolve
  by_cases htoken : token = ""
  · rw [if_pos htoken]
    exact .unknown (Or.inl htoken)
  rw [if_neg htoken]
  cases hget : table.get? token with
  | none => exact .unknown (Or.inr hget)
  | some claims =>
    cases hvalid : claims.validate now with
    | ok _ => simpa only [hvalid] using .alive _
    | error error =>
      simp only [hvalid]
      cases error with
      | notYetValid => exact .early
      | expired => exact .expired
      | invalidWindow => exact .windowless

/-- A stored key that is not valid is answered with what is wrong with it. -/
theorem resolve_eq_error {claims : KeyClaims} {error : ClaimsError} (htoken : token ≠ "")
    (hget : table.get? token = some claims) (hvalid : claims.validate now = .error error) :
    (table.resolve token now).1 = .error (.invalidToken error) := by
  rw [resolve, if_neg htoken]
  simp only [hget, hvalid]

/-- An erased token is gone. -/
theorem gone_erase (table : KeyTable) (token : String) : (table.erase token).Gone token :=
  Or.inr (by rw [get?_erase, if_pos rfl])

/-- A verdict for good leaves nothing under the token. -/
theorem gone_of_final {error : IdentityError} (h : (table.resolve token now).1 = .error error)
    (final : error.Final) : (table.resolve token now).2.Gone token := by
  have hlook := table.lookUp_resolve token now
  generalize (table.resolve token now).1 = result, (table.resolve token now).2 = left at h hlook ⊢
  cases hlook with
  | alive => cases h
  | early =>
    cases h
    exact final.elim
  | unknown gone => exact gone
  | expired | windowless => exact table.gone_erase token

end KeyTable

namespace LocalIdentity

variable {α : Type} {service : LocalIdentity α} {start s : IdentityState α}
  {before after : List Handled} {e : Handled} {token : String}

/-! ## Runs in two parts -/

/-- A run comes to a state behind every part of its history. -/
theorem Run.of_append (run : Run service start (before ++ after) s) :
    ∃ mid, Run service start before mid ∧ Run service mid after s := by
  generalize hhistory : before ++ after = history at run
  induction run generalizing after with
  | start =>
    obtain ⟨rfl, rfl⟩ := List.append_eq_nil_iff.mp hhistory
    exact ⟨start, .start, .start⟩
  | handle earlier now request ih =>
    rcases List.eq_nil_or_concat' after with rfl | ⟨init, last, rfl⟩
    · rw [List.append_nil] at hhistory
      exact ⟨_, hhistory ▸ earlier.handle now request, .start⟩
    · rw [← List.append_assoc] at hhistory
      obtain ⟨hinit, hlast⟩ := List.append_inj' hhistory rfl
      obtain ⟨mid, hbefore, hafter⟩ := ih hinit
      exact ⟨mid, hbefore, (List.cons.inj hlast).1 ▸ hafter.handle now request⟩

/-! ## Tokens that are gone -/

/-- A request that issues another token, or none, leaves a token gone. -/
theorem gone_handle (h : s.keys.Gone token) (now : Timestamp) (request : IdentityCall)
    (hissued : ¬ Handled.Issued token ⟨now, request, (service.handle request (s.at now)).result⟩) :
    (service.handle request (s.at now)).state.keys.Gone token := by
  obtain ⟨id, email, kind, expiry, hissue, _, _, hkeys⟩ | ⟨other, _, _, hkeys⟩ |
    ⟨_, _, hkeys | ⟨other, hkeys⟩⟩ := service.handle_cases s now request <;> rw [hkeys]
  · refine h.enroll ?_ _
    rintro rfl
    exact hissued ⟨now, id, email, kind, hissue⟩
  · exact h.erase other
  · exact h
  · exact h.resolve other now

/-- A token that is gone stays gone as long as it is not issued. -/
theorem Run.gone (run : Run service start after s) (h : start.keys.Gone token)
    (hafter : ∀ e ∈ after, ¬ e.Issued token) : s.keys.Gone token := by
  induction run with
  | start => exact h
  | handle earlier now request ih =>
    rw [List.forall_mem_append, List.forall_mem_singleton] at hafter
    exact gone_handle (ih hafter.1) now request hafter.2

/-- Members are refused for good only to a token that was looked up in vain. -/
theorem gone_of_members {group memberType : String} {offset limit : Nat} {error : IdentityError}
    (h : (members token group offset limit memberType s).result = .error error)
    (final : error.Final) :
    (members token group offset limit memberType s).state.keys.Gone token := by
  obtain ⟨hlook, hstate⟩ | ⟨caller, hlisted, _⟩ := Action.bind_failed h
  · rw [members, hstate]
    exact KeyTable.gone_of_final hlook final
  · simp only [Action.bind_run, Action.get_run] at hlisted
    split_ifs at hlisted
    · cases hlisted
    · cases hlisted
      exact final.elim

/-- What the agent refuses is no verdict on a token. -/
theorem not_final_of_agent {β : Type} {action : Action α PolicyError β} {error : IdentityError}
    (h : (ofAgent action s).result = .error error) : ¬ error.Final := by
  simp only [ofAgent, Action.mapError_run, Action.zoom_run] at h
  cases hagent : (action s.agent).result with
  | error e =>
    rw [hagent] at h
    cases h
    exact id
  | ok _ =>
    rw [hagent] at h
    cases h

/-- No error of a grant says that a token is dead. -/
theorem not_final_of_grantAll {ts : List RelationTuple} {error : IdentityError}
    (h : (service.grantAll ts s).result = .error error) : ¬ error.Final := by
  induction ts generalizing s with
  | nil => cases h
  | cons t ts ih =>
    obtain ⟨hagent, _⟩ | ⟨_, hrest, _⟩ := Action.bind_failed h
    · exact not_final_of_agent hagent
    · exact ih hrest

/-- Of the faults that a batch has by itself, only the missing token is a verdict on it. -/
theorem not_final_of_validate {batch : GrantBatch} {error : IdentityError} (htoken : token ≠ "")
    (h : batch.validate token = .error error) : ¬ error.Final := by
  simp only [GrantBatch.validate, if_neg htoken] at h
  split_ifs at h <;> cases h <;> exact id

/-- A batch is refused for good only to a token that was looked up in vain, or to the empty one. -/
theorem gone_of_addPolicies {batch : GrantBatch} {error : IdentityError}
    (h : (service.addPolicies token batch s).result = .error error) (final : error.Final) :
    (service.addPolicies token batch s).state.keys.Gone token := by
  by_cases htoken : token = ""
  · exact Or.inl htoken
  obtain ⟨hvalid, _⟩ | ⟨_, hbehind, hstate⟩ := Action.bind_failed h
  · exact absurd final (not_final_of_validate htoken hvalid)
  rw [addPolicies, hstate]
  obtain ⟨hlook, hleft⟩ | ⟨caller, hgranted, _⟩ := Action.bind_failed hbehind
  · rw [hleft]
    exact KeyTable.gone_of_final hlook final
  -- the token was good, so it was the agent that refused
  obtain ⟨hagent, _⟩ | ⟨_, hagent, _⟩ := Action.bind_failed hgranted
  · exact absurd final (not_final_of_agent hagent)
  · exact absurd final (not_final_of_grantAll hagent)

/-- Behind a request that buries a token, the token is gone. -/
theorem gone_of_buries (now : Timestamp) (request : IdentityCall)
    (h : Handled.Buries token ⟨now, request, (service.handle request (s.at now)).result⟩) :
    (service.handle request (s.at now)).state.keys.Gone token := by
  obtain ⟨error, final, refused⟩ | rfl := h
  · generalize hending : (service.handle request (s.at now)).result = ending at refused
    cases refused with
    | identify => exact KeyTable.gone_of_final hending final
    | members time group offset limit memberType => exact gone_of_members hending final
    | addPolicies time batch => exact gone_of_addPolicies hending final
  · exact s.keys.gone_erase token

/-- A run whose last request buried a token leaves it gone. -/
theorem Run.gone_of_last (run : Run service start (before ++ [e]) s) (h : e.Buries token) :
    s.keys.Gone token := by
  generalize hhistory : before ++ [e] = history at run
  cases run with
  | start => simp at hhistory
  | handle earlier now request =>
    obtain ⟨_, hlast⟩ := List.append_inj' hhistory rfl
    exact gone_of_buries now request ((List.cons.inj hlast).1 ▸ h)

/-- Wherever requests lead, on whatever clock:
* a token that was answered to have expired, to have no valid window or to be unknown, or that was
  to be forgotten, does not resolve at any time, unless it has been issued since;
* looking a token up changes nothing if it resolves or is yet to come to life, and takes at most
  this token out of the table if it does not;
* an issue that fails changes nothing. -/
theorem Run.dead_stays_dead (run : Run service start (before ++ e :: after) s) :
    (∀ token, e.Buries token → (∀ e' ∈ after, ¬ e'.Issued token) →
      ∀ now identity, (identifyAt token now s).result ≠ .ok identity) ∧
    (∀ token now,
      let o := identifyAt token now s
      ((∃ identity, o.result = .ok identity) ∨ o.result = .error (.invalidToken .notYetValid) →
        o.state = s) ∧
      (o.state = s ∨ o.state = { s with keys := s.keys.erase token })) ∧
    ∀ id email kind now error, (service.issue id email kind (s.at now)).result = .error error →
      (service.issue id email kind (s.at now)).state = s.at now := by
  refine ⟨fun token buries hafter now identity => ?_, fun token now => ?_,
    fun id email kind now error failed => ?_⟩
  · have hsplit : before ++ e :: after = (before ++ [e]) ++ after := by simp
    obtain ⟨mid, hburied, hlater⟩ := (hsplit ▸ run).of_append
    exact (hlater.gone (hburied.gone_of_last buries) hafter).resolve_ne_ok now identity
  · rw [identifyAt_run]
    have hlook := s.keys.lookUp_resolve token now
    generalize (s.keys.resolve token now).1 = result,
      (s.keys.resolve token now).2 = table at hlook ⊢
    cases hlook with
    | alive | early | unknown => exact ⟨fun _ => rfl, Or.inl rfl⟩
    | expired | windowless => exact ⟨by simp, Or.inr rfl⟩
  · rw [issue_run] at failed ⊢
    split_ifs at failed ⊢
    · rfl
    · cases hexpiry : (s.at now).now.add? (service.lifetime kind) with
      | none => rfl
      | some expiry =>
        rw [hexpiry] at failed
        cases failed

/-- A recovery key that was found to be too old does not come back with the clock. -/
theorem expired_key_stays_dead :
    let service : LocalIdentity TupleSet :=
      { tokenAt := fun n => (Uuid.ofEntropy n).simple, agent := TupleSet.agent }
    let start : IdentityState TupleSet := { now := ⟨0, 0, by decide⟩, agent := TupleSet.empty }
    let token := (Uuid.ofEntropy 0).simple
    let issued := service.handle (.issue "u1" "a@x.com" .recovery) (start.at ⟨0, 0, by decide⟩)
    let probed := service.handle (.identify token) (issued.state.at ⟨86400, 0, by decide⟩)
    probed.result = .error (.invalidToken .expired) ∧
      (identifyAt token ⟨0, 0, by decide⟩ probed.state).result ≠ .ok ⟨"u1", "a@x.com"⟩ := by
  intro service start token issued probed
  have hexpiry : (⟨0, 0, by decide⟩ : Timestamp).add? (service.lifetime .recovery) =
      some ⟨300, 0, by decide⟩ := by decide
  have hget : issued.state.keys.get? token =
      some ⟨"u1", "a@x.com", .recovery, ⟨0, 0, by decide⟩, ⟨300, 0, by decide⟩⟩ := by
    have hkeys : issued.state.keys = KeyTable.empty.enroll token
        ⟨"u1", "a@x.com", .recovery, ⟨0, 0, by decide⟩, ⟨300, 0, by decide⟩⟩ := by
      simp only [issued, handle, issue_run, IdentityState.at, hexpiry]
      rfl
    rw [hkeys, KeyTable.enroll, KeyTable.get?_insert, if_pos rfl]
  have htoken : token ≠ "" := Uuid.simple_ne_empty (Uuid.ofEntropy 0)
  have hexpired : probed.result = .error (.invalidToken .expired) := by
    simp only [probed, handle, identify_run, IdentityState.at]
    exact KeyTable.resolve_eq_error htoken hget (by decide)
  have run := (Run.handle (Run.start : Run service start [] start) ⟨0, 0, by decide⟩
    (.issue "u1" "a@x.com" .recovery)).handle ⟨86400, 0, by decide⟩ (.identify token)
  refine ⟨hexpired, (Run.dead_stays_dead run).1 token (Or.inl ⟨.invalidToken .expired, trivial, ?_⟩)
    (by simp) _ _⟩
  exact hexpired ▸ .identify _

end LocalIdentity

end AccessControl
