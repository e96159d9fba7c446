import AccessControl.Proofs.Decimal.Digits
import AccessControl.Proofs.Text.Trim
import AccessControl.Settings.Parse
import Mathlib.Tactic.SplitIfs

/-!
# The texts of values

`Numeral` is the grammar of integers within limits: a run of digits, with a sign in front of it or
not. The reader looks at the digits one by one and stops where they lead out of the limits; since a
number only grows with its digits, it takes exactly the numerals (`integer_eq_ok_iff`).

A `ValueType` is one of the types that settings have. `ValueType.Spells` says which texts stand for
which of its values; these are the texts that are read (`ValueType.parse_eq_ok_iff`), and the
canonical text of a value is one of them (`ValueType.spells_render`).
-/

namespace AccessControl.Settings

open AccessControl.Decimal
open AccessControl.Text

variable {below above most n m : Nat} {beyond : ValueError} {cs ds : List Char}

/-! ## Integers -/

/-- A run of at least one digit. -/
def IsDigits (ds : List Char) : Prop :=
  ds ≠ [] ∧ ∀ d ∈ ds, d.isDigit = true

/-- The texts of the integers from `-below` to `above`. A `-` makes sense with negative values
only. -/
inductive Numeral (below above : Nat) : List Char → Int → Prop
  | bare {ds : List Char} (digits : IsDigits ds) (le : value ds ≤ above) :
      Numeral below above ds (value ds)
  | plus {ds : List Char} (digits : IsDigits ds) (le : value ds ≤ above) :
      Numeral below above ('+' :: ds) (value ds)
  | minus {ds : List Char} (digits : IsDigits ds) (negative : 0 < below) (le : value ds ≤ below) :
      Numeral below above ('-' :: ds) (-value ds)

/-- More digits do not make a number smaller. -/
theorem le_foldl (cs : List Char) (n : Nat) :
    n ≤ cs.foldl (fun n c => 10 * n + digitValue c) n := by
  induction cs generalizing n with
  | nil => exact Nat.le_refl n
  | cons c cs ih =>
    have hstep : n ≤ 10 * n + digitValue c := by omega
    exact hstep.trans (ih _)

/-- Digits are read to their value if it is not too large. No digit before the last one can lead out
of range then. -/
theorem magnitude_eq_ok_iff : magnitude most beyond n cs = .ok m ↔
    (∀ c ∈ cs, c.isDigit = true) ∧ cs.foldl (fun n c => 10 * n + digitValue c) n = m ∧
      (cs ≠ [] → m ≤ most) := by
  induction cs generalizing n with
  | nil => simp [magnitude]
  | cons c cs ih =>
    have hgrows := le_foldl cs (10 * n + digitValue c)
    rw [magnitude, List.forall_mem_cons, List.foldl_cons]
    by_cases hdigit : c.isDigit = true
    · rw [if_pos hdigit]
      by_cases hbeyond : most < 10 * n + digitValue c
      · refine iff_of_false (by simp [hbeyond]) ?_
        rintro ⟨_, rfl, hmost⟩
        have := hmost (List.cons_ne_nil c cs)
        omega
      · simp only [if_neg hbeyond, ih, hdigit, true_and, ne_eq, reduceCtorEq, not_false_eq_true,
          forall_const]
        refine and_congr_right fun _ => and_congr_right fun hvalue => ⟨fun h => ?_, fun h _ => h⟩
        cases cs with
        | nil => exact hvalue ▸ Nat.not_lt.mp hbeyond
        | cons d cs => exact h (List.cons_ne_nil d cs)
    · exact iff_of_false (by simp [hdigit]) fun h => hdigit h.1.1

/-- Digits are read as their value, up to the greatest. -/
theorem digits_eq_ok_iff :
    digits most beyond ds = .ok m ↔ IsDigits ds ∧ value ds = m ∧ m ≤ most := by
  cases ds with
  | nil => simp [digits, IsDigits]
  | cons d ds =>
    rw [digits, magnitude_eq_ok_iff, IsDigits, value]
    simp only [ne_eq, reduceCtorEq, not_false_eq_true, true_and, forall_const]

/-- A number with its sign is read as what its digits and the sign come to. -/
theorem map_digits_eq_ok_iff {f : Nat → Int} {k : Int} :
    (digits most beyond ds).map f = .ok k ↔ IsDigits ds ∧ value ds ≤ most ∧ f (value ds) = k := by
  constructor
  · intro h
    cases hread : digits most beyond ds with
    | error e =>
      rw [hread] at h
      cases h
    | ok m =>
      rw [hread] at h
      cases h
      obtain ⟨hdigits, rfl, hmost⟩ := digits_eq_ok_iff.mp hread
      exact ⟨hdigits, hmost, rfl⟩
  · rintro ⟨hdigits, hmost, rfl⟩
    rw [digits_eq_ok_iff.mpr ⟨hdigits, rfl, hmost⟩]
    rfl

/-- A sign is no digit. -/
theorem IsDigits.head_isDigit {c : Char} (h : IsDigits (c :: cs)) : c.isDigit = true :=
  h.2 c List.mem_cons_self

/-- The integers within limits are read from their numerals, and from nothing else. -/
theorem integer_eq_ok_iff {k : Int} :
    integer below above cs = .ok k ↔ Numeral below above cs k := by
  constructor
  · intro h
    unfold integer at h
    split at h
    · cases h
    · obtain ⟨hdigits, hmost, rfl⟩ := map_digits_eq_ok_iff.mp h
      exact .plus hdigits hmost
    · split_ifs at h with hnone
      obtain ⟨hdigits, hmost, rfl⟩ := map_digits_eq_ok_iff.mp h
      exact .minus hdigits (Nat.pos_of_ne_zero hnone) hmost
    · obtain ⟨hdigits, hmost, rfl⟩ := map_digits_eq_ok_iff.mp h
      exact .bare hdigits hmost
  · intro h
    cases h with
    | plus hdigits hmost =>
      exact map_digits_eq_ok_iff.mpr ⟨hdigits, hmost, rfl⟩
    | minus hdigits negative hmost =>
      rw [integer, if_neg negative.ne']
      exact map_digits_eq_ok_iff.mpr ⟨hdigits, hmost, rfl⟩
    | bare hdigits hmost =>
      have hread : (digits above .tooLarge cs).map Int.ofNat = .ok (value cs : Int) :=
        map_digits_eq_ok_iff.mpr ⟨hdigits, hmost, rfl⟩
      obtain ⟨c, cs, rfl⟩ := List.exists_cons_of_ne_nil hdigits.1
      have hplus : c ≠ '+' := by
        rintro rfl
        exact absurd hdigits.head_isDigit (by decide)
      have hminus : c ≠ '-' := by
        rintro rfl
        exact absurd hdigits.head_isDigit (by decide)
      unfold integer
      split
      · contradiction
      · simp_all
      · simp_all
      · exact hread

/-- A number is written in digits. -/
theorem isDigits_ofNat (n : Nat) : IsDigits (ofNat n) :=
  ⟨ofNat_ne_nil n, fun _ => isDigit_of_mem_ofNat⟩

/-- The canonical text of an integer within the limits is a numeral. -/
theorem numeral_ofInt {k : Int} (hbelow : -below ≤ k) (habove : k ≤ above) :
    Numeral below above (ofInt k) k := by
  cases k with
  | ofNat n =>
    have h : Numeral below above (ofNat n) (value (ofNat n)) :=
      .bare (isDigits_ofNat n) (by rw [value_ofNat]; exact Int.ofNat_le.mp habove)
    rwa [value_ofNat] at h
  | negSucc n =>
    have h : Numeral below above ('-' :: ofNat (n + 1)) (-value (ofNat (n + 1))) :=
      .minus (isDigits_ofNat (n + 1)) (by omega) (by rw [value_ofNat]; omega)
    rwa [value_ofNat] at h

/-- No blanks stand at the ends of the canonical text of an integer. -/
theorem trimmed_ofInt (k : Int) : Trimmed (ofInt k) := by
  refine trimmed_of_forall fun c hc => ?_
  cases k with
  | ofNat n => exact isBlank_of_isDigit (isDigit_of_mem_ofNat hc)
  | negSucc n =>
    obtain rfl | hc := List.mem_cons.mp hc
    · decide
    · exact isBlank_of_isDigit (isDigit_of_mem_ofNat hc)

/-! ## Types of settings -/

/-- The types that settings have. -/
inductive ValueType where
  | unsigned64
  | signed64
  | unsigned8
  | boolean
  | text
deriving DecidableEq, Repr

namespace ValueType

/-- The values of a type; integers are kept within its limits when they are read. -/
@[reducible] def Value : ValueType → Type
  | unsigned64 | signed64 | unsigned8 => Int
  | boolean => Bool
  | text => String

/-- How the values of a type are read and written. -/
def kind : (t : ValueType) → Kind t.Value
  | unsigned64 => .unsigned64
  | signed64 => .signed64
  | unsigned8 => .unsigned8
  | boolean => .boolean
  | text => .text

/-- A text stands for a value. -/
def Spells : (t : ValueType) → List Char → t.Value → Prop
  | unsigned64 => Numeral 0 18446744073709551615
  | signed64 => Numeral 9223372036854775808 9223372036854775807
  | unsigned8 => Numeral 0 255
  | boolean => fun cs b => cs = (if b then "true" else "false").toList
  | text => fun cs s => cs = s.toList

/-- The values that are found again in their canonical texts with blanks around them: integers
within the limits, truth values, and texts that neither start nor end with a blank. -/
def Proper : (t : ValueType) → t.Value → Prop
  | unsigned64 => fun k => 0 ≤ k ∧ k ≤ 18446744073709551615
  | signed64 => fun k => -9223372036854775808 ≤ k ∧ k ≤ 9223372036854775807
  | unsigned8 => fun k => 0 ≤ k ∧ k ≤ 255
  | boolean => fun _ => True
  | text => fun s => Trimmed s.toList

/-- The values of a type are read from the texts that stand for them, and from nothing else. -/
theorem parse_eq_ok_iff (t : ValueType) {cs : List Char} {v : t.Value} :
    t.kind.parse cs = .ok v ↔ t.Spells cs v := by
  cases t with
  | unsigned64 | signed64 | unsigned8 => exact integer_eq_ok_iff
  | boolean =>
    show (if cs = "true".toList then _ else if cs = "false".toList then _ else _) = _ ↔
      cs = (if v then "true" else "false").toList
    split_ifs with htrue hfalse <;> cases v <;> simp_all
  | text =>
    show Except.ok (String.ofList cs) = _ ↔ cs = v.toList
    rw [Except.ok.injEq, ← String.toList_inj, String.toList_ofList]

/-- A proper value has its canonical text. -/
theorem spells_render (t : ValueType) {v : t.Value} (proper : t.Proper v) :
    t.Spells (t.kind.render v) v := by
  cases t with
  | unsigned64 | unsigned8 => exact numeral_ofInt (by simpa using proper.1) proper.2
  | signed64 => exact numeral_ofInt proper.1 proper.2
  | boolean | text => exact rfl

/-- A value is written without blanks around it. -/
theorem trimmed_render (t : ValueType) {v : t.Value} (proper : t.Proper v) :
    Trimmed (t.kind.render v) := by
  cases t with
  | unsigned64 | signed64 | unsigned8 => exact trimmed_ofInt v
  | boolean =>
    have hall : (boolean.kind.render v).all (fun c => !isBlank c) = true := by
      cases v <;> decide
    exact trimmed_of_forall fun c hc => by simpa using List.all_eq_true.mp hall c hc
  | text => exact proper

end ValueType

end AccessControl.Settings
