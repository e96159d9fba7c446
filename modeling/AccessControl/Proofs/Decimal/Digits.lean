import AccessControl.Decimal.Digits
import Mathlib.Algebra.Group.Nat.Defs
import Mathlib.Data.List.Basic

/-!
# Digits and their value

The digits of a number are decimal digits, do not start with a needless zero, and have the number as
their value, with leading zeros or without.
-/

namespace AccessControl.Decimal

variable {n width : Nat} {cs : List Char} {c : Char}

/-- The value of a digit is less than ten. -/
theorem digitValue_lt (h : c.isDigit = true) : digitValue c < 10 := by
  simp only [Char.isDigit, Bool.and_eq_true, decide_eq_true_eq, UInt32.le_iff_toNat_le] at h
  have hnine : c.toNat ≤ 57 := h.2
  have hzero : '0'.toNat = 48 := rfl
  rw [digitValue, hzero]
  omega

/-- A run of digits ends where something else comes next. -/
theorem span_digits {ds rest : List Char} (hds : ∀ d ∈ ds, d.isDigit = true)
    (hrest : ∀ c ∈ rest.head?, c.isDigit = false) :
    (ds ++ rest).takeWhile Char.isDigit = ds ∧ (ds ++ rest).dropWhile Char.isDigit = rest := by
  rw [List.takeWhile_append_of_pos hds, List.dropWhile_append_of_pos hds]
  cases rest with
  | nil => exact ⟨List.append_nil ds, rfl⟩
  | cons c rest =>
    have hc : ¬ c.isDigit = true := by simp [hrest c rfl]
    rw [List.takeWhile_cons_of_neg hc, List.dropWhile_cons_of_neg hc]
    exact ⟨List.append_nil ds, rfl⟩

/-! ## Digits without leading zeros -/

/-- A number is the value of its digits. -/
theorem value_ofNat (n : Nat) : value (ofNat n) = n :=
  Nat.ofDigitChars_toDigits (by decide) (by decide)

/-- A number is written in digits only. -/
theorem isDigit_of_mem_ofNat (h : c ∈ ofNat n) : c.isDigit = true :=
  Nat.isDigit_of_mem_toDigits (by decide) (by decide) h

theorem ofNat_ne_nil (n : Nat) : ofNat n ≠ [] :=
  Nat.toDigits_ne_nil

theorem digitChar_ne_zero : ∀ n < 10, n ≠ 0 → n.digitChar ≠ '0' := by decide

/-- Only zero starts with the digit zero. -/
theorem head?_ofNat_ne_zero (h : n ≠ 0) : (ofNat n).head? ≠ some '0' := by
  induction n using Nat.strongRecOn with
  | _ n ih =>
    by_cases hdigit : n < 10
    · rw [ofNat, Nat.toDigits_of_lt_base hdigit]
      exact fun hzero => digitChar_ne_zero n hdigit h (Option.some.inj hzero)
    · -- the digits before the last one are those of a tenth
      have htenth : (ofNat (n / 10)).head? ≠ some '0' := ih (n / 10) (by omega) (by omega)
      have hdigits : ofNat n = ofNat (n / 10) ++ [(n % 10).digitChar] :=
        Nat.toDigits_of_base_le (by decide) (by omega)
      obtain ⟨c, cs, hcons⟩ := List.exists_cons_of_ne_nil (ofNat_ne_nil (n / 10))
      rw [hcons] at htenth hdigits
      rw [hdigits]
      exact htenth

/-- The digits of a number start with a zero only where there is no other. -/
theorem ofNat_eq_cons (n : Nat) :
    ∃ c cs, ofNat n = c :: cs ∧ (∀ d ∈ c :: cs, d.isDigit = true) ∧ (c = '0' → cs = []) := by
  obtain ⟨c, cs, hcons⟩ := List.exists_cons_of_ne_nil (ofNat_ne_nil n)
  refine ⟨c, cs, hcons, fun d hd => isDigit_of_mem_ofNat (hcons ▸ hd), fun hzero => ?_⟩
  by_cases hn : n = 0
  · subst hn
    cases hcons
    rfl
  · exact absurd (by rw [hcons, hzero, List.head?_cons]) (head?_ofNat_ne_zero hn)

/-! ## Digits filled with zeros -/

/-- Digits in front count for a power of ten more each. -/
theorem value_append (cs ds : List Char) :
    value (cs ++ ds) = 10 ^ ds.length * value cs + value ds := by
  show Nat.ofDigitChars 10 (cs ++ ds) 0 = _
  rw [Nat.ofDigitChars_append, Nat.ofDigitChars_eq_ofDigitChars_zero]
  rfl

/-- Zeros are worth nothing. -/
theorem value_replicate_zero (k : Nat) : value (List.replicate k '0') = 0 :=
  Nat.ofDigitChars_replicate_zero

/-- Padding leaves the value. -/
theorem value_padded (width n : Nat) : value (padded width n) = n := by
  rw [padded, value_append, value_replicate_zero, value_ofNat]
  omega

/-- A padded number is written in digits only. -/
theorem isDigit_of_mem_padded (h : c ∈ padded width n) : c.isDigit = true := by
  rcases List.mem_append.mp h with h | h
  · rw [List.eq_of_mem_replicate h]
    rfl
  · exact isDigit_of_mem_ofNat h

theorem padded_ne_nil (width n : Nat) : padded width n ≠ [] := by
  rw [padded]
  exact List.append_ne_nil_of_right_ne_nil _ (ofNat_ne_nil n)

/-- A number that has few enough digits fills the width. -/
theorem length_padded (hwidth : 0 < width) (h : n < 10 ^ width) :
    (padded width n).length = width := by
  have hlength := (Nat.length_toDigits_le_iff (n := n) (by decide : 1 < 10) hwidth).mpr h
  rw [padded, List.length_append, List.length_replicate]
  exact Nat.sub_add_cancel hlength

end AccessControl.Decimal
