import AccessControl.Uuid
import Mathlib.Data.Nat.Bitwise
import Mathlib.Data.Set.Function
import Mathlib.Order.Interval.Set.Defs

/-!
# Different entropy, different UUIDs

The free bits of a UUID can be read off its text (`Uuid.simple_injOn`): its digits are those of its
value, and the fixed bits leave the free ones apart.
-/

namespace AccessControl

namespace Text

theorem hexDigit_injOn : ∀ a < 16, ∀ b < 16, hexDigit a = hexDigit b → a = b := by decide

/-- Numbers that fit into some hexadecimal digits are told apart by them. -/
theorem hex_injOn (width : Nat) : Set.InjOn (hex width) (Set.Iio (16 ^ width)) := by
  intro n hn m hm h
  have hpow : 16 ^ width = 2 ^ (4 * width) := by rw [Nat.pow_mul]
  rw [Set.mem_Iio, hpow] at hn hm
  apply Nat.eq_of_testBit_eq
  intro j
  by_cases hj : j < 4 * width
  · -- bit `j` is in the digit that stands `j / 4` places from the right
    have hdigit : n >>> (4 * (j / 4)) % 16 = m >>> (4 * (j / 4)) % 16 := by
      have hplace := List.map_inj_left.mp h (width - 1 - j / 4) (List.mem_range.mpr (by omega))
      have hindex : width - 1 - (width - 1 - j / 4) = j / 4 := by omega
      rw [hindex] at hplace
      exact hexDigit_injOn _ (Nat.mod_lt _ (by decide)) _ (Nat.mod_lt _ (by decide)) hplace
    have hbit := congrArg (Nat.testBit · (j % 4)) hdigit
    simp only [show (16 : Nat) = 2 ^ 4 from rfl, Nat.testBit_mod_two_pow, Nat.testBit_shiftRight,
      Nat.mod_lt j (show 4 > 0 by decide), decide_true, Bool.true_and, Nat.div_add_mod] at hbit
    exact hbit
  · have hle : 2 ^ (4 * width) ≤ 2 ^ j := Nat.pow_le_pow_right (by decide) (Nat.not_lt.mp hj)
    rw [Nat.testBit_lt_two_pow (hn.trans_le hle), Nat.testBit_lt_two_pow (hm.trans_le hle)]

end Text

namespace Uuid

/-- No identifier is written as the empty text. -/
theorem simple_ne_empty (u : Uuid) : u.simple ≠ "" := by
  intro h
  have hlength := congrArg (·.toList.length) h
  simp [simple, digits, Text.hex] at hlength

/-- The text of a UUID tells the free bits. -/
theorem simple_injOn : Set.InjOn (fun bits => (ofEntropy bits).simple) (Set.Iio (2 ^ 122)) := by
  intro n hn m hm h
  have hvalue : (ofEntropy n).value = (ofEntropy m).value := by
    apply Text.hex_injOn 32 ?_ ?_ (String.ofList_injective h)
    all_goals
      simp only [Set.mem_Iio, ofEntropy]
      omega
  simp only [Set.mem_Iio] at hn hm
  simp only [ofEntropy, Nat.shiftRight_eq_div_pow] at hvalue
  omega

end Uuid

end AccessControl
