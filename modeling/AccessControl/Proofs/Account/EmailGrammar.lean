import AccessControl.Account.User
import AccessControl.Proofs.Text.Pieces

/-!
# The grammar of email addresses

`Email.IsAddress` is the grammar of an address: one or more atoms joined by single dots, an `@`, and
a host that ends in a dot and a top label. It speaks of how an address is put together, and
`Email.isEmail` of how one is taken apart: at the last `@`, and at the last dot of the host. The two
agree (`Email.isEmail_iff`), and so a user is valid exactly with an address and a password
(`User.validate_iff_address`).
-/

namespace AccessControl

open AccessControl.Text

namespace Email

variable {mark : Char} {cs before behind : List Char}

/-! ## The grammar -/

/-- The characters of an atom: ASCII letters, digits and some punctuation. -/
def IsAtomChar (c : Char) : Prop :=
  ('a' ≤ c ∧ c ≤ 'z') ∨ ('A' ≤ c ∧ c ≤ 'Z') ∨ ('0' ≤ c ∧ c ≤ '9') ∨
    c ∈ "!#$%&'*+/=?^_`\x7b|\x7d~-".toList

/-- Some atoms, none of them empty, joined by single dots. -/
def IsDotted (cs : List Char) : Prop :=
  ∃ atoms : List (List Char), atoms ≠ [] ∧
    (∀ atom ∈ atoms, atom ≠ [] ∧ ∀ c ∈ atom, IsAtomChar c) ∧ cs = ['.'].intercalate atoms

/-- A text without blanks and `@` that ends in a dot and a top label of 2 to 24 bytes, with
something in front of the dot. -/
def IsHostName (cs : List Char) : Prop :=
  (∀ c ∈ cs, c ≠ '@' ∧ isBlank c = false) ∧
    ∃ front top, cs = front ++ '.' :: top ∧ front ≠ [] ∧ '.' ∉ top ∧
      2 ≤ byteLength top ∧ byteLength top ≤ 24

/-- An address: a local part of 1 to 64 bytes and a host, of at most 254 bytes together with the `@`
between them. -/
def IsAddress (text : String) : Prop :=
  ∃ localPart host : String, text = localPart ++ "@" ++ host ∧ text.utf8ByteSize ≤ 254 ∧
    1 ≤ localPart.utf8ByteSize ∧ localPart.utf8ByteSize ≤ 64 ∧
    IsDotted localPart.toList ∧ IsHostName host.toList

/-! ## Lengths -/

theorem byteLength_cons (c : Char) (cs : List Char) :
    byteLength (c :: cs) = c.utf8Size + byteLength cs := rfl

theorem byteLength_append (cs ds : List Char) :
    byteLength (cs ++ ds) = byteLength cs + byteLength ds := by
  induction cs with
  | nil => exact (Nat.zero_add _).symm
  | cons c cs ih => rw [List.cons_append, byteLength_cons, byteLength_cons, ih, Nat.add_assoc]

/-- No character takes less than one byte. -/
theorem length_le_byteLength (cs : List Char) : cs.length ≤ byteLength cs := by
  induction cs with
  | nil => exact Nat.le_refl 0
  | cons c cs ih =>
    have hc := c.utf8Size_pos
    rw [byteLength_cons, List.length_cons]
    omega

/-- The bytes of a list of characters are those of its string. -/
theorem byteLength_eq (cs : List Char) : byteLength cs = (String.ofList cs).utf8ByteSize := by
  induction cs with
  | nil => rfl
  | cons c cs ih =>
    rw [byteLength_cons, ih, String.ofList_cons, String.utf8ByteSize_append,
      String.utf8ByteSize_singleton]

/-! ## The last of a mark -/

/-- A text is not split exactly when it lacks the mark. -/
theorem splitLast?_eq_none_iff : splitLast? mark cs = none ↔ mark ∉ cs := by
  induction cs with
  | nil => simp [splitLast?]
  | cons c cs ih =>
    rw [splitLast?, List.mem_cons, not_or, ← ih]
    cases splitLast? mark cs with
    | some parts => simp
    | none => simp [eq_comm]

/-- A text is split at a mark behind which there is no other. -/
theorem splitLast?_append (h : mark ∉ behind) :
    splitLast? mark (before ++ mark :: behind) = some (before, behind) := by
  induction before with
  | nil => rw [List.nil_append, splitLast?, splitLast?_eq_none_iff.mpr h]; exact if_pos rfl
  | cons c before ih => rw [List.cons_append, splitLast?, ih]

/-- A text is parted at the one place behind which there is no mark. -/
theorem splitLast?_eq_some_iff :
    splitLast? mark cs = some (before, behind) ↔ cs = before ++ mark :: behind ∧ mark ∉ behind := by
  constructor
  · intro h
    induction cs generalizing before with
    | nil => cases h
    | cons c cs ih =>
      rw [splitLast?] at h
      cases hrest : splitLast? mark cs with
      | some parts =>
        rw [hrest] at h
        cases h
        obtain ⟨rfl, hlast⟩ := ih hrest
        exact ⟨rfl, hlast⟩
      | none =>
        rw [hrest] at h
        by_cases hc : c = mark
        · rw [if_pos hc] at h
          cases h
          exact ⟨by rw [hc, List.nil_append], splitLast?_eq_none_iff.mp hrest⟩
        · rw [if_neg hc] at h
          cases h
  · rintro ⟨rfl, hlast⟩
    exact splitLast?_append hlast

/-! ## Local parts -/

/-- A local part is made of the characters of an atom and of dots. -/
theorem isLocalChar_iff {c : Char} : isLocalChar c = true ↔ IsAtomChar c ∨ c = '.' := by
  have hmarks : c ∈ "!#$%&'*+/=?^_`\x7b|\x7d~.-".toList ↔
      c ∈ "!#$%&'*+/=?^_`\x7b|\x7d~-".toList ∨ c = '.' := by
    have hdot : "!#$%&'*+/=?^_`\x7b|\x7d~.-".toList =
        "!#$%&'*+/=?^_`\x7b|\x7d~".toList ++ ['.', '-'] := by decide
    have hplain : "!#$%&'*+/=?^_`\x7b|\x7d~-".toList =
        "!#$%&'*+/=?^_`\x7b|\x7d~".toList ++ ['-'] := by decide
    rw [hdot, hplain, List.mem_append, List.mem_append, List.mem_cons]
    exact (or_congr_right or_comm).trans or_assoc.symm
  have hletter : c.isAlphanum = true ↔
      ('a' ≤ c ∧ c ≤ 'z') ∨ ('A' ≤ c ∧ c ≤ 'Z') ∨ ('0' ≤ c ∧ c ≤ '9') := by
    have halnum : c.isAlphanum = (decide ('A' ≤ c ∧ c ≤ 'Z') ||
        ('a' ≤ c && c ≤ 'z') || ('0' ≤ c && c ≤ '9')) := rfl
    simp only [halnum, Bool.or_eq_true, Bool.and_eq_true, decide_eq_true_eq]
    exact or_assoc.trans (or_left_comm.trans Iff.rfl)
  rw [isLocalChar, Bool.or_eq_true, List.contains_iff_mem, hmarks, hletter, IsAtomChar]
  simp only [or_assoc]

/-- Behind its first dot a text has an empty piece exactly if two dots follow each other in it, or
a dot ends it. -/
theorem nil_mem_tail_splitOn_iff :
    [] ∈ (cs.splitOn '.').tail ↔ hasDoubleDot cs = true ∨ cs.getLast? = some '.' := by
  induction cs with
  | nil => simp [hasDoubleDot]
  | cons c cs ih =>
    rw [List.splitOn_cons_eq_if_modifyHead]
    by_cases hc : c = '.'
    · -- the pieces behind this dot are all those of the rest
      rw [if_pos (beq_iff_eq.mpr hc), List.tail_cons, nil_mem_splitOn_iff_head, ih, hc]
      cases cs with
      | nil => simp
      | cons d cs =>
        by_cases hd : d = '.'
        · simp [hd, hasDoubleDot]
        · simp [hd, hasDoubleDot]
    · have hrest : hasDoubleDot (c :: cs) = hasDoubleDot cs := by
        cases cs <;> simp [hasDoubleDot, hc]
      rw [if_neg (by simpa using hc), List.tail_modifyHead, ih, hrest]
      cases cs <;> simp [hc]

/-- No piece between dots is empty, if there is something but no dot at the ends and no two dots
follow each other. -/
theorem nil_notMem_splitOn_iff : [] ∉ cs.splitOn '.' ↔
    cs ≠ [] ∧ cs.head? ≠ some '.' ∧ cs.getLast? ≠ some '.' ∧ hasDoubleDot cs = false := by
  rw [nil_mem_splitOn_iff_head, nil_mem_tail_splitOn_iff]
  cases cs with
  | nil => simp
  | cons c cs =>
    simp only [List.head?_cons, Option.mem_def, Option.some.injEq, forall_eq', ne_eq,
      List.cons_ne_nil, not_false_eq_true, true_and]
    rw [not_or, not_or, Bool.not_eq_true, and_comm (a := hasDoubleDot (c :: cs) = false)]

/-- Atoms joined by dots are what has no empty piece between dots, and characters of atoms beside
them. -/
theorem isDotted_iff : IsDotted cs ↔
    [] ∉ cs.splitOn '.' ∧ ∀ c ∈ cs, c ≠ '.' → IsAtomChar c := by
  have hchars {c : Char} : (∃ atom ∈ cs.splitOn '.', c ∈ atom) ↔ c ∈ cs ∧ c ≠ '.' :=
    mem_splitOn_iff
  constructor
  · rintro ⟨atoms, hne, hatoms, hcs⟩
    have hsplit : cs.splitOn '.' = atoms := by
      rw [hcs]
      refine List.splitOn_intercalate '.' (fun atom hatom hdot => ?_) hne
      exact absurd ((hatoms atom hatom).2 '.' hdot) (by unfold IsAtomChar; decide)
    rw [hsplit] at hchars ⊢
    refine ⟨fun h => (hatoms [] h).1 rfl, fun c hc hdot => ?_⟩
    obtain ⟨atom, hatom, hmem⟩ := hchars.mpr ⟨hc, hdot⟩
    exact (hatoms atom hatom).2 c hmem
  · rintro ⟨hnil, hall⟩
    refine ⟨cs.splitOn '.', List.splitOn_ne_nil _ _, fun atom hatom => ?_,
      (List.intercalate_splitOn '.').symm⟩
    refine ⟨fun h => hnil (h ▸ hatom), fun c hc => ?_⟩
    obtain ⟨hmem, hdot⟩ := hchars.mp ⟨atom, hatom, hc⟩
    exact hall c hmem hdot

/-- A local part is accepted when it has one to sixty-four bytes and is dotted. -/
theorem isLocal_iff :
    isLocal cs = true ↔ 1 ≤ byteLength cs ∧ byteLength cs ≤ 64 ∧ IsDotted cs := by
  have hchars : (∀ c ∈ cs, isLocalChar c = true) ↔ ∀ c ∈ cs, c ≠ '.' → IsAtomChar c := by
    refine forall₂_congr fun c _ => ?_
    rw [isLocalChar_iff, or_iff_not_imp_right]
  have hlength : 1 ≤ byteLength cs → cs ≠ [] := by
    rintro h rfl
    exact absurd h (by decide)
  rw [isDotted_iff, nil_notMem_splitOn_iff, ← hchars]
  simp only [isLocal, Bool.and_eq_true, decide_eq_true_eq, List.all_eq_true, bne_iff_ne,
    Bool.not_eq_true']
  tauto

/-! ## Hosts -/

/-- A dot inside a text has something on both sides. -/
theorem hasInnerDot_iff : hasInnerDot cs = true ↔
    ∃ front back, cs = front ++ '.' :: back ∧ front ≠ [] ∧ back ≠ [] := by
  rw [hasInnerDot, List.contains_iff_mem]
  constructor
  · intro h
    cases cs with
    | nil => cases h
    | cons c rest =>
      rw [List.drop_one, List.tail_cons] at h
      have hrest : rest ≠ [] := by
        rintro rfl
        cases h
      obtain ⟨front, back, hback⟩ := List.mem_iff_append.mp h
      refine ⟨c :: front, back ++ [rest.getLast hrest], ?_, List.cons_ne_nil _ _, by simp⟩
      calc c :: rest = c :: (rest.dropLast ++ [rest.getLast hrest]) := by
            rw [List.dropLast_append_getLast]
        _ = c :: front ++ '.' :: (back ++ [rest.getLast hrest]) := by simp [hback]
  · rintro ⟨front, back, rfl, hfront, hback⟩
    obtain ⟨c, front, rfl⟩ := List.exists_cons_of_ne_nil hfront
    rw [List.drop_one, List.cons_append, List.tail_cons, List.dropLast_append_of_ne_nil (by simp),
      List.dropLast_cons_of_ne_nil hback]
    exact List.mem_append_right _ List.mem_cons_self

/-- A host is accepted when it is a host name. -/
theorem isHost_iff : isHost cs = true ↔ IsHostName cs := by
  simp only [isHost, Bool.and_eq_true, decide_eq_true_eq, List.all_eq_true, bne_iff_ne,
    Bool.not_eq_true', hasInnerDot_iff]
  constructor
  · rintro ⟨⟨⟨_, hall⟩, front, back, hinner, hfront, _⟩, htop⟩
    refine ⟨fun c hc => (hall c hc).symm, ?_⟩
    cases hsplit : splitLast? '.' cs with
    | none =>
      rw [hsplit] at htop
      cases htop
    | some parts =>
      obtain ⟨before, top⟩ := parts
      rw [hsplit, Bool.and_eq_true, decide_eq_true_eq, decide_eq_true_eq] at htop
      obtain ⟨hcs, hlast⟩ := splitLast?_eq_some_iff.mp hsplit
      refine ⟨before, top, hcs, ?_, hlast, htop⟩
      -- with nothing in front of the last dot, there is no dot inside
      rintro rfl
      obtain ⟨c, front, rfl⟩ := List.exists_cons_of_ne_nil hfront
      have htail : top = front ++ '.' :: back := by
        have h := hcs.symm.trans hinner
        simp only [List.nil_append, List.cons_append, List.cons.injEq] at h
        exact h.2
      exact hlast (htail ▸ List.mem_append_right _ List.mem_cons_self)
  · rintro ⟨hall, front, top, rfl, hfront, hlast, hleast, hmost⟩
    have hfront' : 1 ≤ front.length := List.length_pos_of_ne_nil hfront
    have hlength := length_le_byteLength front
    have hdot : byteLength ('.' :: top) = 1 + byteLength top := rfl
    rw [splitLast?_append hlast]
    refine ⟨⟨⟨?_, fun c hc => (hall c hc).symm⟩, front, top, rfl, hfront, ?_⟩, ?_⟩
    · rw [byteLength_append]
      omega
    · rintro rfl
      exact absurd hleast (by decide)
    · rw [Bool.and_eq_true, decide_eq_true_eq, decide_eq_true_eq]
      exact ⟨hleast, hmost⟩

/-! ## Addresses -/

/-- An address is two parts around an at sign, each of its own form and length. -/
theorem isAddress_iff_parts {text : String} : IsAddress text ↔
    ∃ before behind, text.toList = before ++ '@' :: behind ∧ byteLength text.toList ≤ 254 ∧
      1 ≤ byteLength before ∧ byteLength before ≤ 64 ∧ IsDotted before ∧ IsHostName behind := by
  constructor
  · rintro ⟨localPart, host, rfl, hlengths⟩
    refine ⟨localPart.toList, host.toList, by simp, ?_⟩
    simpa only [byteLength_eq, String.ofList_toList] using hlengths
  · rintro ⟨before, behind, htext, hlengths⟩
    refine ⟨String.ofList before, String.ofList behind, ?_, ?_⟩
    · rw [← String.toList_inj, htext]
      simp
    · simpa only [byteLength_eq, String.ofList_toList, String.toList_ofList] using hlengths

/-- An address is taken apart as it is put together. -/
theorem isEmail_iff {text : String} : isEmail text.toList = true ↔ IsAddress text := by
  simp only [isAddress_iff_parts, isEmail, Bool.and_eq_true, decide_eq_true_eq]
  constructor
  · rintro ⟨⟨_, hmost⟩, hparts⟩
    cases hsplit : splitLast? '@' text.toList with
    | none =>
      rw [hsplit] at hparts
      cases hparts
    | some parts =>
      obtain ⟨before, behind⟩ := parts
      rw [hsplit, Bool.and_eq_true, isLocal_iff, isHost_iff] at hparts
      obtain ⟨⟨hleast, hlocal, hdotted⟩, hhost⟩ := hparts
      exact ⟨before, behind, (splitLast?_eq_some_iff.mp hsplit).1, hmost, hleast, hlocal, hdotted,
        hhost⟩
  · rintro ⟨before, behind, htext, hmost, hleast, hlocal, hdotted, hhost⟩
    have hlast : '@' ∉ behind := fun h => (hhost.1 '@' h).1 rfl
    have ⟨_, front, top, hbehind, _, _, htop, _⟩ := hhost
    refine ⟨⟨?_, hmost⟩, ?_⟩
    · have hat : byteLength ('@' :: behind) = 1 + byteLength behind := rfl
      have hdot : byteLength ('.' :: top) = 1 + byteLength top := rfl
      rw [hbehind, byteLength_append] at hat
      rw [htext, byteLength_append, hbehind]
      omega
    · rw [htext, splitLast?_append hlast, Bool.and_eq_true, isLocal_iff, isHost_iff]
      exact ⟨⟨hleast, hlocal, hdotted⟩, hhost⟩

/-- An address has a single `@`. -/
theorem IsAddress.count_at {text : String} (h : IsAddress text) : text.toList.count '@' = 1 := by
  obtain ⟨before, behind, htext, _, _, _, hdotted, hhost⟩ := isAddress_iff_parts.mp h
  have hbefore : '@' ∉ before := fun h =>
    absurd ((isDotted_iff.mp hdotted).2 '@' h (by decide)) (by unfold IsAtomChar; decide)
  have hbehind : '@' ∉ behind := fun h => (hhost.1 '@' h).1 rfl
  rw [htext, List.count_append, List.count_cons_self, List.count_eq_zero_of_not_mem hbefore,
    List.count_eq_zero_of_not_mem hbehind]

end Email

namespace User

variable {user : User}

/-- A record with an address and a password is valid. -/
theorem validate_of_address (h : Email.IsAddress user.email ∧ user.password ≠ "") :
    user.validate = .ok () := by
  rw [validate, if_neg (by rw [Email.isEmail_iff.mpr h.1]; decide), if_neg h.2]

/-- A record without an address or without a password is malformed. -/
theorem validate_of_not_address (h : ¬ (Email.IsAddress user.email ∧ user.password ≠ "")) :
    user.validate = .error (.bare .malformedEntity) := by
  rw [← Email.isEmail_iff] at h
  unfold validate
  split_ifs with hemail hpassword
  · rfl
  · rfl
  · exact absurd ⟨by simpa using hemail, hpassword⟩ h

/-- A user is valid exactly with an address as email and a password that is not empty; any other is
malformed. The email of a valid user holds a single `@`, and so is not empty. -/
theorem validate_iff_address (user : User) :
    (user.validate = .ok () ↔ Email.IsAddress user.email ∧ user.password ≠ "") ∧
    (user.validate ≠ .ok () → user.validate = .error (.bare .malformedEntity)) ∧
    (user.validate = .ok () → user.email.toList.count '@' = 1 ∧ user.email ≠ "") := by
  by_cases hvalid : Email.IsAddress user.email ∧ user.password ≠ ""
  · have hok := validate_of_address hvalid
    have haddress := hvalid.1.count_at
    refine ⟨iff_of_true hok hvalid, fun h => absurd hok h, fun _ => ⟨haddress, fun hempty => ?_⟩⟩
    rw [hempty] at haddress
    exact absurd haddress (by decide)
  · have herror := validate_of_not_address hvalid
    have hnot : user.validate ≠ .ok () := by
      rw [herror]
      exact nofun
    exact ⟨iff_of_false hnot hvalid, fun _ => herror, fun h => absurd h hnot⟩

/-- Blanks count by their Unicode property and lengths by bytes; the host may start with a dot. -/
example : ((⟨"", "a@.x.é", "pw", []⟩ : User).validate = .ok ()) ∧
    (⟨"", "a@.x.e", "pw", []⟩ : User).validate = .error (.bare .malformedEntity) ∧
    (⟨"", "a@x\u2003y.com", "pw", []⟩ : User).validate = .error (.bare .malformedEntity) := by
  decide +kernel

end User

end AccessControl
