import AccessControl.Deployment
import AccessControl.Proofs.Password.Digest
import AccessControl.Proofs.Password.HashString
import Mathlib.Tactic.SplitIfs

/-!
# Hashes under changing costs

A hash string tells all that has to be known to compute its tag again: what is read from it is what
was asked for when it was made (`Costs.request?_hashString`), because it is well formed and so is
read as it was written. Of the hasher that compares, only the secret goes into the tag, and hashers
that differ in their costs have the same one. So passwords verify when the costs have been changed
since they were hashed (`hashes_verify_across_costs`).
-/

namespace AccessControl

open AccessControl.Decimal
open AccessControl.Password (Argon2.Request Argon2.Variant Argon2.length_tag)
open AccessControl.Text

variable {ω : Type} {c : Costs} {salt : Salt} {own own' : Argon2.Request}
  {password h : String} {tag : List UInt8}

/-! ## Making hashes -/

/-- What is accepted as costs are costs, and all costs are accepted. -/
theorem Costs.check_eq_ok_iff {memory passes lanes : UInt32} :
    Costs.check memory passes lanes = .ok c ↔
      c.memory = memory ∧ c.passes = passes ∧ c.lanes = lanes := by
  constructor
  · intro hcheck
    rw [check] at hcheck
    split_ifs at hcheck
    cases hcheck
    exact ⟨rfl, rfl, rfl⟩
  · rintro ⟨rfl, rfl, rfl⟩
    rw [check, dif_pos c.memory_ge, dif_pos c.passes_pos, dif_pos c.lanes_pos, dif_pos c.lanes_lt]

/-- There is a tag unless the password is too long or the salt too short. -/
theorem Password.Argon2.Request.tagOf_eq_ok_iff {r : Argon2.Request} {salt : List UInt8} :
    r.tagOf password salt = .ok tag ↔
      password.utf8ByteSize ≤ longestPassword ∧ 8 ≤ salt.length ∧
        tag = r.tag password.toUTF8.toList salt := by
  rw [tagOf]
  split_ifs with hlong hshort
  · simp only [false_iff]
    omega
  · simp only [false_iff]
    omega
  · rw [Except.ok.injEq]
    exact ⟨fun heq => ⟨by omega, by omega, heq.symm⟩, fun heq => heq.2.2.symm⟩

/-- A hash that is made is the text of its costs, its salt and its tag. -/
theorem Costs.hash_eq_ok_iff : c.hash salt password = .ok h ↔
    ∃ tag, c.request.tagOf password salt.bytes = .ok tag ∧
      h = String.ofList (c.hashString salt tag).toChars := by
  rw [hash]
  split
  next htag => simp [htag]
  next tag htag => simp [htag, eq_comm]

/-! ## Reading hashes -/

/-- A variant is found again by its name. -/
theorem Password.Argon2.Variant.ofName?_name (variant : Argon2.Variant) :
    Argon2.Variant.ofName? variant.name = some variant := by
  cases variant <;> rfl

/-- The name of a variant is well-formed. -/
theorem Password.Argon2.Variant.name_isName (variant : Argon2.Variant) :
    HashString.IsName variant.name := by
  cases variant <;> decide

/-- Three to 48 bytes make four to 64 characters. -/
theorem Salt.encode_valid (salt : Salt) :
    4 ≤ (Base64.encode salt.bytes).length ∧ HashString.IsValue (Base64.encode salt.bytes) := by
  have hthree := salt.three_le
  have hfortyEight := salt.le_fortyEight
  have hlength := Base64.length_encode salt.bytes
  exact ⟨by omega, by omega, List.all_eq_true.mpr fun _ hc =>
    HashString.isValueChar_of_mem_encode hc⟩

namespace Costs

/-- The parameters of any costs are short enough to be read back. -/
theorem length_params_le (c : Costs) :
    ([','].intercalate (c.params.map HashString.paramText)).length ≤ 127 := by
  have hmemory := HashString.length_ofNat_le c.memory.toNat_lt
  have hpasses := HashString.length_ofNat_le c.passes.toNat_lt
  have hlanes := HashString.length_ofNat_le c.lanes.toNat_lt
  rw [params, List.map_cons, intercalate_cons]
  simp only [HashString.paramText, List.map_cons, List.map_nil, List.flatMap_cons,
    List.flatMap_nil, List.length_append, List.length_cons, List.length_nil]
  omega

/-- The parameters of any costs are well-formed. -/
theorem params_valid (c : Costs) :
    ∀ param ∈ c.params, HashString.IsName param.1 ∧ HashString.IsValue param.2 := by
  have hnames : HashString.IsName ['m'] ∧ HashString.IsName ['t'] ∧ HashString.IsName ['p'] := by
    decide
  intro param hparam
  simp only [params, List.mem_cons, List.not_mem_nil, or_false] at hparam
  rcases hparam with rfl | rfl | rfl
  · exact ⟨hnames.1, HashString.isValue_ofNat c.memory.toNat_lt⟩
  · exact ⟨hnames.2.1, HashString.isValue_ofNat c.passes.toNat_lt⟩
  · exact ⟨hnames.2.2, HashString.isValue_ofNat c.lanes.toNat_lt⟩

/-- Whatever the costs and the salt, what is written can be read. -/
theorem hashString_wellFormed (c : Costs) (salt : Salt) (hlong : 10 ≤ tag.length)
    (hshort : tag.length ≤ 64) : (c.hashString salt tag).WellFormed where
  algorithm := Argon2.Variant.hybrid.name_isName
  version := fun n hn => Option.some.inj hn ▸ by decide
  params := c.params_valid
  params_fit := c.length_params_le
  no_version := nofun
  salt := fun text htext => Option.some.inj htext ▸ salt.encode_valid
  tag := fun bytes hbytes => Option.some.inj hbytes ▸ ⟨nofun, hlong, hshort⟩

/-- Out of the parameters of costs, these costs are put together again. -/
theorem foldlM_params (c : Costs) : c.params.foldlM Recipe.add? {} =
    some { memory := c.memory, passes := c.passes, lanes := c.lanes } := by
  simp only [params, List.foldlM_cons, List.foldlM_nil, Recipe.add?,
    HashString.number_ofNat c.memory.toNat_lt, HashString.number_ofNat c.passes.toNat_lt,
    HashString.number_ofNat c.lanes.toNat_lt, UInt32.ofNat_toNat, Except.toOption, bind,
    Option.bind, pure]

/-- What is read from a hash string is what was asked for when it was made, but for the secret. -/
theorem request?_hashString (c : Costs) (salt : Salt) (tag : List UInt8)
    (own : Argon2.Request) : (c.hashString salt tag).request? own =
      some ({ c.request with secret := own.secret, tagSize := tag.length }, salt.bytes, tag) := by
  have hcheck : check c.memory c.passes c.lanes = .ok c := check_eq_ok_iff.mpr ⟨rfl, rfl, rfl⟩
  simp only [HashString.request?, hashString, hashHeader, c.foldlM_params, hcheck,
    Argon2.Variant.ofName?_name, Base64.decode?_encode, Except.toOption, Option.bind_eq_bind,
    Option.bind_some]
  exact if_pos (Or.inr rfl)

end Costs

/-! ## Comparing -/

/-- Of the hasher, only the secret has a part in what is read. -/
theorem HashString.request?_congr (h : HashString) (hsecret : own.secret = own'.secret) :
    h.request? own = h.request? own' := by
  simp only [request?, hsecret]

/-- Of the costs that compare, only the secret matters. -/
theorem HashString.verifies_congr (h : HashString) (hsecret : own.secret = own'.secret)
    (password : String) : h.verifies own password = h.verifies own' password := by
  rw [verifies, verifies, h.request?_congr hsecret]

/-- A password is compared alike with any costs of the same secret. -/
theorem comparePassword_congr (hsecret : own.secret = own'.secret) (password stored : String) :
    comparePassword own password stored = comparePassword own' password stored := by
  rw [comparePassword, comparePassword]
  cases HashString.ofChars stored.toList with
  | error e => rfl
  | ok h => simp only [h.verifies_congr hsecret]

/-- A hash string is compared by the costs it was made with. -/
theorem comparePassword_hashString (htag : tag.length = 32) (other : Costs) :
    comparePassword other.request password (String.ofList (c.hashString salt tag).toChars) =
      if c.request.tagOf password salt.bytes = .ok tag then .ok () else .error .mismatch := by
  have hread : HashString.ofChars (c.hashString salt tag).toChars = .ok (c.hashString salt tag) :=
    HashString.ofChars_toChars (c.hashString_wellFormed salt (by omega) (by omega))
  have hrequest : (c.hashString salt tag).request? other.request =
      some (c.request, salt.bytes, tag) := by
    rw [c.request?_hashString, htag]
    rfl
  simp only [comparePassword, String.toList_ofList, hread, HashString.verifies, hrequest]
  cases c.request.tagOf password salt.bytes with
  | error text => simp
  | ok computed => simp

/-! ## Hashers -/

variable {salts : Action ω HashError Salt}

/-- A hash that the hasher makes is made with some salt. -/
theorem saltedHasher_hash_eq_ok {w : ω}
    (hashed : ((saltedHasher c salts).hash password w).result = .ok h) :
    ∃ salt, c.hash salt password = .ok h := by
  simp only [saltedHasher, Action.bind_run] at hashed
  split at hashed
  next salt _ _ _ => exact ⟨salt, hashed⟩
  next => cases hashed

/-- Whatever its costs, a hasher takes the passwords that have the tag of the one hashed. -/
theorem saltedHasher_compare (hhash : c.hash salt password = .ok h) (second : Costs)
    (other : String) : (saltedHasher second salts).compare other h =
      if c.request.tagOf other salt.bytes = c.request.tagOf password salt.bytes then pure ()
      else Action.fail .mismatch := by
  obtain ⟨tag, htag, rfl⟩ := Costs.hash_eq_ok_iff.mp hhash
  have hlength : tag.length = 32 := by
    rw [(Argon2.Request.tagOf_eq_ok_iff.mp htag).2.2, Argon2.length_tag]
    rfl
  simp only [saltedHasher, comparePassword_hashString hlength, htag]
  split <;> rfl

/-- The costs of a hasher, whichever are accepted (`Costs.check_eq_ok_iff`), have no part in
comparing, so what one hasher has hashed verifies with every other one. Another password may verify
as well, or it does not match; the hash is never taken for malformed, and comparing changes
nothing. -/
theorem hashes_verify_across_costs (first second : Costs)
    (salts salts' : Action ω HashError Salt) :
    (∀ password stored, (saltedHasher second salts').compare password stored =
      (saltedHasher first salts).compare password stored) ∧
    ∀ password h w, ((saltedHasher first salts).hash password w).result = .ok h →
      (saltedHasher second salts').compare password h = pure () ∧
      ∀ other, (saltedHasher second salts').compare other h = pure () ∨
        (saltedHasher second salts').compare other h = Action.fail .mismatch := by
  refine ⟨fun password stored => ?_, fun password h w hashed => ?_⟩
  · exact congrArg Action.ofExcept (comparePassword_congr rfl password stored)
  · obtain ⟨salt, hhash⟩ := saltedHasher_hash_eq_ok hashed
    refine ⟨by rw [saltedHasher_compare hhash, if_pos rfl], fun other => ?_⟩
    rw [saltedHasher_compare hhash]
    split
    next => exact Or.inl rfl
    next => exact Or.inr rfl

/-- A password that is hashed at the least costs and compared at twice these. -/
theorem hash_verifies_at_doubled_costs :
    let salts : Action Unit HashError Salt := pure ⟨List.replicate 16 7, by decide, by decide⟩
    let first : Costs := ⟨8, 1, 1, by decide, by decide, by decide, by decide⟩
    let second : Costs := ⟨16, 2, 1, by decide, by decide, by decide, by decide⟩
    ∃ h, ((saltedHasher first salts).hash "pw-123456" ()).result = .ok h ∧
      (saltedHasher second salts).compare "pw-123456" h = pure () := by
  intro salts first second
  obtain ⟨h, hhash⟩ : ∃ h, first.hash ⟨List.replicate 16 7, by decide, by decide⟩ "pw-123456" =
      .ok h :=
    ⟨_, Costs.hash_eq_ok_iff.mpr
      ⟨_, Argon2.Request.tagOf_eq_ok_iff.mpr ⟨by decide, by decide, rfl⟩, rfl⟩⟩
  exact ⟨h, hhash,
    ((hashes_verify_across_costs first second salts salts).2 "pw-123456" h () hhash).1⟩

end AccessControl
