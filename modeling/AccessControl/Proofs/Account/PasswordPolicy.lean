import AccessControl.Proofs.Account.Courses
import AccessControl.Proofs.Account.EmailGrammar
import AccessControl.Proofs.Pattern.DefaultPattern
import Mathlib.Data.Set.Defs

/-!
# The default policy for passwords

A request that sets a password *admits* those that get past its check, which are the ones it can
come to hash (`PasswordRequest.mem_admitted_iff`). Under the default policy these are the passwords
that the default pattern matches, so whether one is admitted can be told by counting its characters
(`default_policy_counts_characters`).
-/

namespace AccessControl

/-! ## Requests that set a password -/

/-- A request that sets a password, but for the password. -/
inductive PasswordRequest where
  | register (token : String) (user : User)
  | reset (token : String)
  | change (token old : String)

namespace PasswordRequest

variable {r : PasswordRequest} {accepts : String → Bool} {p token : String} {user : User}
  {calls : List Exchange} {ending : Except HashError String}

/-- The request with a password. -/
def giving : PasswordRequest → String → ServiceCall
  | register token user, p => .register token { user with password := p }
  | reset token, p => .resetPassword token p
  | change token old, p => .changePassword token p old

/-- The request can come to the check of its password: a registration is for an address, and a token
is named for a reset. -/
def IsComplete : PasswordRequest → Prop
  | register _ user => Email.IsAddress user.email
  | reset token => token ≠ ""
  | change _ _ => True

/-- The passwords that get past the check of a request: with some endings of its calls, it comes to
hash them. -/
def admitted (accepts : String → Bool) (r : PasswordRequest) : Set String :=
  {p | ∃ calls result ending, ((r.giving p).script accepts).Transcript calls result ∧
    ⟨.hash p, ending⟩ ∈ calls}

/-- Nothing is hashed at the gate of registration. -/
theorem hash_notMem_gate {passes : Bool} (gated : Gate token calls passes) :
    (⟨.hash p, ending⟩ : Exchange) ∉ calls := by
  intro h
  obtain ⟨tuple, hcall⟩ | ⟨hcall, _⟩ := gated.call_cases h <;> cases hcall

/-- A registration that comes to hash a password found its user acceptable. -/
theorem acceptable_of_hash {result : Except AccountError String}
    (ends : Ends accepts (.register token user) calls result)
    (h : (⟨.hash p, ending⟩ : Exchange) ∈ calls) : user.Acceptable accepts := by
  cases result with
  | error error =>
    cases ends with
    | unresolved presented => cases presented
    | turnedAway turned => cases turned <;> simp at h
    | invalid passed | weak passed => exact absurd h (hash_notMem_gate passed)
    | unenrolled _ acceptable => exact acceptable
  | ok saved =>
    cases ends with
    | registered _ acceptable => exact acceptable

/-- A reset hashes only a password that the policy accepts. -/
theorem accepts_of_reset {result : Except AccountError Unit}
    (ends : Ends accepts (.resetPassword token p) calls result)
    (h : (⟨.hash p, ending⟩ : Exchange) ∈ calls) : token ≠ "" ∧ accepts p = true := by
  cases result with
  | error error =>
    cases ends with
    | unreset named _ accepted => exact ⟨named, accepted⟩
    | _ => simp at h
  | ok _ =>
    cases ends with
    | reset named _ accepted => exact ⟨named, accepted⟩

/-- A change hashes only a password that the policy accepts. -/
theorem accepts_of_change {old : String} {result : Except AccountError Unit}
    (ends : Ends accepts (.changePassword token p old) calls result)
    (h : (⟨.hash p, ending⟩ : Exchange) ∈ calls) : accepts p = true := by
  cases result with
  | error error =>
    cases ends with
    | changeUndone accepted => exact accepted
    | _ => simp at h
  | ok _ =>
    cases ends with
    | renewed accepted => exact accepted

/-- A record is acceptable with a password when its address is one and the password is accepted. -/
theorem acceptable_iff : ({ user with password := p } : User).Acceptable accepts ↔
    Email.IsAddress user.email ∧ p ≠ "" ∧ accepts p = true := by
  rw [User.Acceptable, ← and_assoc]
  refine and_congr_left fun _ => ⟨fun h => ?_, fun h => User.validate_of_address h⟩
  by_contra hnot
  cases h.symm.trans (User.validate_of_not_address hnot)

/-- A complete request admits the passwords that are accepted, and no other request admits any. The
empty password is refused by a registration before its check. -/
theorem mem_admitted_iff (empty : accepts "" = false) :
    p ∈ r.admitted accepts ↔ r.IsComplete ∧ accepts p = true := by
  have hne (h : accepts p = true) : p ≠ "" := by
    rintro rfl
    cases empty.symm.trans h
  constructor
  · rintro ⟨calls, result, ending, transcript, h⟩
    have ends := Script.ends_of_transcript transcript
    cases r with
    | register token user =>
      obtain ⟨isAddress, _, accepted⟩ := acceptable_iff.mp (acceptable_of_hash ends h)
      exact ⟨isAddress, accepted⟩
    | reset token => exact accepts_of_reset ends h
    | change token old => exact ⟨trivial, accepts_of_change ends h⟩
  · rintro ⟨complete, accepted⟩
    -- all calls up to the hashing end well, and the hashing itself may fail
    cases r with
    | register token user =>
      have stops : Stops accepts (.register token { user with password := p })
          ([⟨.authorize .bootstrap, .ok true⟩] ++ [⟨.freshId, .ok ""⟩,
            ⟨.addPolicy (.ownership ""), .ok true⟩, ⟨.hash p, .error .mismatch⟩]) _ :=
        .unenrolled .opened (acceptable_iff.mpr ⟨complete, hne accepted, accepted⟩) .unhashed
      exact ⟨_, _, .error .mismatch, Script.transcript_of_stops stops, by simp⟩
    | reset token =>
      have stops : Stops accepts (.resetPassword token p)
          [⟨.identify token, .ok ⟨"", ""⟩⟩, ⟨.byEmail "", .ok { email := "@" }⟩,
            ⟨.hash p, .error .mismatch⟩] _ :=
        .unreset complete (by simp) accepted .unhashed
      exact ⟨_, _, .error .mismatch, Script.transcript_of_stops stops, by simp⟩
    | change token old =>
      have stops : Stops accepts (.changePassword token p old)
          [⟨.identify token, .ok ⟨"", ""⟩⟩, ⟨.byEmail "", .ok {}⟩, ⟨.compare old "", .ok ()⟩,
            ⟨.byEmail "", .ok { email := "@" }⟩, ⟨.hash p, .error .mismatch⟩] _ :=
        .changeUndone accepted (by simp) .unhashed
      exact ⟨_, _, .error .mismatch, Script.transcript_of_stops stops, by simp⟩

end PasswordRequest

/-- The default pattern is a policy, and it accepts exactly the texts of at least eight characters
without a line feed, wherever this might stand, and however many bytes the characters take.

Under this policy a request that sets a password and is complete but for it admits exactly these
texts, and one that is not admits none. So a password that is admitted still is with any other
character than a line feed in front of it or behind it, and none is with a line feed behind it. -/
theorem default_policy_counts_characters :
    ∃ policy, patternOf? Settings.defaultPattern = some policy ∧
      (∀ text : String, policy.matches text = true ↔ 8 ≤ text.length ∧ '\n' ∉ text.toList) ∧
      (∀ text : String, policy.matches (text ++ "\n") = false) ∧
      ∀ (r : PasswordRequest) (p : String),
        (p ∈ r.admitted policy.matches ↔ r.IsComplete ∧ 8 ≤ p.length ∧ '\n' ∉ p.toList) ∧
        (∀ c, c ≠ '\n' → p ∈ r.admitted policy.matches →
          String.singleton c ++ p ∈ r.admitted policy.matches ∧
            p.push c ∈ r.admitted policy.matches) ∧
        p ++ "\n" ∉ r.admitted policy.matches := by
  have hmatches (text : String) : (Pattern.lineOfAtLeast 8).matches text = true ↔
      8 ≤ text.length ∧ '\n' ∉ text.toList := by
    rw [Pattern.Expr.matches, Pattern.search_lineOfAtLeast, String.length_toList]
  have hadmitted (r : PasswordRequest) (p : String) :
      p ∈ r.admitted (Pattern.lineOfAtLeast 8).matches ↔
        r.IsComplete ∧ 8 ≤ p.length ∧ '\n' ∉ p.toList := by
    rw [PasswordRequest.mem_admitted_iff, hmatches]
    rw [← Bool.not_eq_true, hmatches]
    simp
  refine ⟨_, patternOf?_defaultPattern, hmatches, fun text => ?_, fun r p =>
    ⟨hadmitted r p, fun c hc h => ?_, ?_⟩⟩
  · rw [← Bool.not_eq_true, hmatches]
    simp
  · simp only [hadmitted] at h ⊢
    obtain ⟨complete, hlength, hfeed⟩ := h
    refine ⟨⟨complete, ?_, ?_⟩, complete, ?_, ?_⟩
    · rw [String.length_append]
      omega
    · simp [hfeed, Ne.symm hc]
    · rw [String.length_push]
      omega
    · simp [hfeed, Ne.symm hc]
  · rw [hadmitted]
    simp

/-- Eight letters of two bytes each are enough for a new password, and with a letter behind them
too. -/
theorem eight_long_letters_admitted : ∃ policy,
    patternOf? Settings.defaultPattern = some policy ∧ 'x' ≠ '\n' ∧
      "åßçdéñøü" ∈ (PasswordRequest.change "t" "old").admitted policy.matches ∧
      "åßçdéñøü".push 'x' ∈ (PasswordRequest.change "t" "old").admitted policy.matches := by
  obtain ⟨policy, hpolicy, _, _, h⟩ := default_policy_counts_characters
  have hadmitted : "åßçdéñøü" ∈ (PasswordRequest.change "t" "old").admitted policy.matches :=
    (h _ _).1.mpr ⟨trivial, by decide, by decide⟩
  exact ⟨policy, hpolicy, by decide, hadmitted, ((h _ _).2.1 'x' (by decide) hadmitted).2⟩

end AccessControl
