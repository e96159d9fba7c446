import AccessControl.Calendar.Timestamp
import Mathlib.Order.Defs.LinearOrder

/-!
# The order of timestamps

Timestamps are linearly ordered, leap seconds included. `Timestamp.lt_add?_iff` says that a span
goes forward exactly when it is positive, wherever it starts.
-/

namespace AccessControl.Calendar.Timestamp

instance : LinearOrder Timestamp where
  le_refl a := Or.inr ⟨rfl, Nat.le_refl _⟩
  le_trans a b c hab hbc := by simp only [le_iff] at *; omega
  lt_iff_le_not_ge a b := by simp only [le_iff, lt_iff]; omega
  le_antisymm a b hab hba := by
    obtain ⟨seconds, nanos, _⟩ := a
    obtain ⟨seconds', nanos', _⟩ := b
    simp only [le_iff] at hab hba
    simp only [mk.injEq]
    omega
  le_total a b := by simp only [le_iff]; omega
  toDecidableLE := inferInstance

/-- A span goes forward exactly when it is positive. -/
theorem lt_shift_iff (t : Timestamp) (d : Duration) : t < t.shift d ↔ 0 < d.nanos := by
  have hbound := t.nanos_lt
  unfold shift
  split
  · -- the seconds and nanoseconds of an ordinary count are its quotient and remainder
    simp only [lt_iff, ofNanos, toNanos]
    omega
  · split
    · simp only [lt_iff, ofNanos, toNanos]
      omega
    · simp only [lt_iff, Int.lt_irrefl, true_and, false_or]
      omega

/-- An instant is before its expiry exactly when the duration is positive. -/
theorem lt_add?_iff {t expiry : Timestamp} {d : Duration} (h : t.add? d = some expiry) :
    t < expiry ↔ 0 < d.nanos := by
  unfold add? at h
  split at h
  · rw [← Option.some.inj h]
    exact lt_shift_iff t d
  · cases h

/-- A positive span ends behind the last representable date, or at a representable one. -/
theorem add?_of_pos {t : Timestamp} {d : Duration} (ht : firstSecond ≤ t.seconds)
    (hd : 0 < d.nanos) :
    lastSecond < (t.shift d).seconds ∧ t.add? d = none ∨
      (t.shift d).seconds ≤ lastSecond ∧ t.add? d = some (t.shift d) := by
  have hforward : t.seconds ≤ (t.shift d).seconds := by
    have hlt := (lt_shift_iff t d).mpr hd
    rw [lt_iff] at hlt
    omega
  rw [add?]
  by_cases hlast : (t.shift d).seconds ≤ lastSecond
  · exact Or.inr ⟨hlast, if_pos ⟨Int.le_trans ht hforward, hlast⟩⟩
  · exact Or.inl ⟨Int.not_le.mp hlast, if_neg fun h => hlast h.2⟩

end AccessControl.Calendar.Timestamp
