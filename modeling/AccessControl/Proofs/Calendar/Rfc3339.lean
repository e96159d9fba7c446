import AccessControl.Calendar.Rfc3339
import AccessControl.Proofs.Calendar.Date
import AccessControl.Proofs.Decimal.Digits
import AccessControl.Proofs.Text.Trim

/-!
# Timestamps read back from their text

A timestamp is *expressible* when its year is representable and a leap second, if it lies in one,
ends a minute of UTC. These are the timestamps that a text can stand for: whatever is read is
expressible, since offsets are whole minutes (`expressible_of_ofText?`), and every expressible
timestamp is read back from its canonical text (`ofText?_text`).
-/

namespace AccessControl.Calendar.Timestamp

open AccessControl.Decimal
open AccessControl.Text

/-- The timestamp lies in a representable year, and in a leap second only at the end of a minute. -/
structure Expressible (t : Timestamp) : Prop where
  first_le : firstSecond ≤ t.seconds
  le_last : t.seconds ≤ lastSecond
  leap : 1000000000 ≤ t.nanos → t.seconds % 60 = 59

/-! ## What is read -/

variable {cs rest : List Char} {t : Timestamp} {offset : Int}

/-- An offset is a number of whole minutes. -/
theorem minutes_of_takeOffset? (h : takeOffset? cs = some (offset, rest)) : offset % 60 = 0 := by
  unfold takeOffset? at h
  split at h
  · cases h
    rfl
  split at h
  · cases h
  split at h
  · cases h
    rfl
  split at h
  · simp only [Option.bind_eq_bind, Option.bind_eq_some_iff] at h
    obtain ⟨⟨hours, _⟩, _, ⟨minutes, _⟩, _, h⟩ := h
    dsimp only at h
    split at h
    · cases h
    obtain ⟨rfl, _⟩ := Prod.mk.inj (Option.some.inj h)
    split <;> omega
  · cases h

/-- An instant that is put together, with an offset of whole minutes, can be written. -/
theorem expressible_of_ofParts? {date : Date} {hour minute second nanos : Nat}
    (hoffset : offset % 60 = 0) (h : ofParts? date hour minute second nanos offset = some t) :
    t.Expressible := by
  unfold ofParts? at h
  split at h
  · dsimp only at h
    split at h
    · next hbounds =>
      cases h
      refine ⟨hbounds.1, hbounds.2.1, fun hleap => ?_⟩
      dsimp only at hleap ⊢
      split at hleap
      · omega
      · omega
    · cases h
  · cases h

/-- An instant that is read can be written. -/
theorem expressible_of_ofText? {text : String} (h : ofText? text = some t) : t.Expressible := by
  simp only [ofText?, ofChars?, Option.bind_eq_bind, Option.bind_eq_some_iff] at h
  -- the date and the time of day come before the offset
  iterate 12 obtain ⟨_, -, h⟩ := h
  obtain ⟨⟨offset, rest⟩, hoffset, h⟩ := h
  dsimp only at h
  split at h
  · exact expressible_of_ofParts? (minutes_of_takeOffset? hoffset) h
  · cases h

/-! ## Reading digits -/

variable {ds : List Char} {n : Nat}

/-- No blanks come before digits. -/
theorem trimStart_digits (hds : ∀ d ∈ ds, d.isDigit = true) (hne : ds ≠ []) (rest : List Char) :
    trimStart (ds ++ rest) = ds ++ rest := by
  obtain ⟨c, cs, rfl⟩ := List.exists_cons_of_ne_nil hne
  exact trimStart_cons (isBlank_of_isDigit (hds c List.mem_cons_self)) _

/-- Digits are taken if there are as many as there may be, or nothing that goes on behind them. -/
theorem takeDigits?_run {most : Nat} (hds : ∀ d ∈ ds, d.isDigit = true) (hne : ds ≠ [])
    (hmost : ds.length ≤ most)
    (hend : ds.length = most ∨ ∀ c ∈ rest.head?, c.isDigit = false) :
    takeDigits? most (ds ++ rest) = some (ds, rest) := by
  have hrest : ∀ c ∈ (rest.take (most - ds.length)).head?, c.isDigit = false := by
    obtain rfl | hend := hend
    · rw [Nat.sub_self, List.take_zero]
      exact nofun
    · intro c hc
      rw [List.head?_take] at hc
      split at hc
      · cases hc
      · exact hend c hc
  rw [takeDigits?, List.take_append, List.take_of_length_le hmost, (span_digits hds hrest).1]
  simp [hne]

/-- The digits of a number that fills its width are taken. -/
theorem takeDigits?_padded {width most : Nat} (hpos : 0 < width) (hmost : width ≤ most)
    (h : n < 10 ^ width) (hend : width = most ∨ ∀ c ∈ rest.head?, c.isDigit = false) :
    takeDigits? most (padded width n ++ rest) = some (padded width n, rest) := by
  have hlength : (padded width n).length = width := length_padded hpos h
  rw [← hlength] at hmost hend
  exact takeDigits?_run (fun d => isDigit_of_mem_padded) (padded_ne_nil width n) hmost hend

/-- A number of two digits is taken off. -/
theorem takeNumber?_padded (h : n < 100) (rest : List Char) :
    takeNumber? (padded 2 n ++ rest) = some (n, rest) := by
  rw [takeNumber?, trimStart_digits (fun d => isDigit_of_mem_padded) (padded_ne_nil 2 n),
    takeDigits?_padded (by decide) (Nat.le_refl _) h (Or.inl rfl)]
  simp [value_padded]

/-! ## Reading the parts of a canonical text -/

/-- A mark in front is taken off. -/
theorem takeMark?_run {c : Char} (h : isBlank c = false) (rest : List Char) :
    takeMark? c (c :: rest) = some rest := by
  rw [takeMark?, trimStart_cons h]
  exact if_pos rfl

/-- The digits of a year behind its sign are taken however many they are. -/
theorem takeDigits?_year (n : Nat) (rest : List Char) :
    takeDigits? (padded 4 n ++ '-' :: rest).length (padded 4 n ++ '-' :: rest) =
      some (padded 4 n, '-' :: rest) := by
  refine takeDigits?_run (fun d => isDigit_of_mem_padded) (padded_ne_nil 4 n) ?_ (Or.inr ?_)
  · rw [List.length_append]
    exact Nat.le_add_right _ _
  · rintro c ⟨⟩
    rfl

/-- Behind a minus sign, a year has all the digits that follow. -/
theorem takeYear?_minus (cs : List Char) :
    takeYear? ('-' :: cs) = (takeDigits? cs.length cs).map fun p => (-(value p.1 : Int), p.2) := by
  rw [takeYear?, trimStart_cons (by decide)]
  exact (Option.map_eq_bind ..).symm

/-- Behind a plus sign, a year has all the digits that follow. -/
theorem takeYear?_plus (cs : List Char) :
    takeYear? ('+' :: cs) = (takeDigits? cs.length cs).map fun p => ((value p.1 : Int), p.2) := by
  rw [takeYear?, trimStart_cons (by decide)]
  exact (Option.map_eq_bind ..).symm

/-- Without a sign, a year has four digits. -/
theorem takeYear?_digit {c : Char} (h : c.isDigit = true) (cs : List Char) :
    takeYear? (c :: cs) = (takeDigits? 4 (c :: cs)).map fun p => ((value p.1 : Int), p.2) := by
  have hminus : c ≠ '-' := by
    rintro rfl
    cases h
  have hplus : c ≠ '+' := by
    rintro rfl
    cases h
  rw [takeYear?, trimStart_cons (isBlank_of_isDigit h)]
  split
  · next heq => exact absurd (List.cons.inj heq).1 hminus
  · next heq => exact absurd (List.cons.inj heq).1 hplus
  · exact (Option.map_eq_bind ..).symm

/-- A year is read back in front of the month. -/
theorem takeYear?_yearText (year : Int) (rest : List Char) :
    takeYear? (yearText year ++ '-' :: rest) = some (year, '-' :: rest) := by
  rw [yearText]
  split_ifs with hplain hneg
  · have htaken : takeDigits? 4 (padded 4 year.toNat ++ '-' :: rest) =
        some (padded 4 year.toNat, '-' :: rest) :=
      takeDigits?_padded (by decide) (Nat.le_refl _) (by omega) (Or.inl rfl)
    have hyear : (value (padded 4 year.toNat) : Int) = year := by
      rw [value_padded]
      omega
    obtain ⟨c, cs, hcons⟩ := List.exists_cons_of_ne_nil (padded_ne_nil 4 year.toNat)
    have hdigit : c.isDigit = true := isDigit_of_mem_padded (hcons ▸ List.mem_cons_self)
    rw [hcons] at htaken hyear ⊢
    rw [List.cons_append] at htaken ⊢
    rw [takeYear?_digit hdigit, htaken, Option.map_some, hyear]
  · rw [List.cons_append, takeYear?_minus, takeDigits?_year, Option.map_some, value_padded]
    congr 2
    omega
  · rw [List.cons_append, takeYear?_plus, takeDigits?_year, Option.map_some, value_padded]
    congr 2
    omega

/-- A fraction of up to nine digits is taken off, in nanoseconds. -/
theorem takeFraction?_padded {width : Nat} (hpos : 0 < width) (hmost : width ≤ 9)
    (h : n < 10 ^ width) (rest : List Char) :
    takeFraction? ('.' :: (padded width n ++ 'Z' :: rest)) =
      some (10 ^ (9 - width) * n, 'Z' :: rest) := by
  have hend : ∀ c ∈ ('Z' :: rest).head?, c.isDigit = false := by
    rintro c ⟨⟩
    rfl
  rw [takeFraction?, takeDigits?_padded hpos hmost h (Or.inr hend)]
  simp only [Option.bind_eq_bind, Option.bind_some, length_padded hpos h, value_append,
    value_padded, value_replicate_zero, List.length_replicate]
  rfl

/-- A fraction is read back. -/
theorem takeFraction?_fractionText (h : n < 1000000000) (rest : List Char) :
    takeFraction? (fractionText n ++ 'Z' :: rest) = some (n, 'Z' :: rest) := by
  rw [fractionText]
  split_ifs with hzero hmillis hmicros
  · rw [hzero]
    rfl
  -- the digits that are left out are zeros
  all_goals
    rw [List.cons_append, takeFraction?_padded (by decide) (by decide) (by omega)]
    congr 2
    omega

/-- The year of a timestamp between the first and the last second is representable. -/
theorem Expressible.year_mem (h : t.Expressible) :
    firstYear ≤ (Date.ofDays (t.seconds / 86400)).year ∧
      (Date.ofDays (t.seconds / 86400)).year ≤ lastYear := by
  have hfirst : (Date.ofDays (firstSecond / 86400)).year = firstYear := by decide
  have hlast : (Date.ofDays (lastSecond / 86400)).year = lastYear := by decide
  rw [← hfirst, ← hlast]
  exact ⟨Date.year_mono (Int.ediv_le_ediv (by decide) h.first_le),
    Date.year_mono (Int.ediv_le_ediv (by decide) h.le_last)⟩

/-- The parts that a timestamp is written in make it up again. -/
theorem ofParts?_parts (h : t.Expressible) :
    ofParts? (Date.ofDays (t.seconds / 86400)) ((t.seconds % 86400).toNat / 3600)
      ((t.seconds % 86400).toNat / 60 % 60)
      ((t.seconds % 86400).toNat % 60 + t.nanos / 1000000000) (t.nanos % 1000000000) 0 =
      some t := by
  have hyear := h.year_mem
  have hnanos := t.nanos_lt
  have hleap := h.leap
  generalize hofDay : (t.seconds % 86400).toNat = ofDay
  have hlt : ofDay < 86400 := by omega
  -- a leap second is read as second 60 of the minute that it ends
  have hsecond : ofDay % 60 + t.nanos / 1000000000 ≤ 60 ∧
      min (ofDay % 60 + t.nanos / 1000000000) 59 = ofDay % 60 ∧
      (ofDay % 60 + t.nanos / 1000000000 = 60 ↔ 1000000000 ≤ t.nanos) := by
    omega
  obtain ⟨hmost, hmin, hsixty⟩ := hsecond
  have hseconds : t.seconds / 86400 * 86400 +
      ((ofDay / 3600 * 3600 + ofDay / 60 % 60 * 60 + ofDay % 60 : Nat) : Int) - 0 = t.seconds := by
    omega
  rw [ofParts?, if_pos ⟨Date.valid_ofDays _, hyear.1, hyear.2, by omega, by omega, hmost,
    by decide, by decide⟩]
  simp only [Date.toDays_ofDays, hmin, hseconds]
  rw [dif_pos ⟨h.first_le, h.le_last, Nat.mod_lt _ (by decide)⟩]
  congr 2
  split_ifs <;> omega

/-- An expressible timestamp is read back from its canonical text. -/
theorem ofText?_text (h : t.Expressible) : ofText? t.text = some t := by
  have hparts := ofParts?_parts h
  obtain ⟨_, hmonth, _, hday⟩ := Date.valid_ofDays (t.seconds / 86400)
  have hdays : Date.daysIn (Date.ofDays (t.seconds / 86400)).year
      (Date.ofDays (t.seconds / 86400)).month ≤ 31 := Date.daysIn_le _ _
  have hnanos := t.nanos_lt
  rw [ofText?, text, String.toList_ofList, render, renderWith]
  generalize Date.ofDays (t.seconds / 86400) = date at *
  generalize hofDay : (t.seconds % 86400).toNat = ofDay at *
  simp only [List.append_assoc, List.cons_append]
  have hdash : isBlank '-' = false := by decide
  have hcolon : isBlank ':' = false := by decide
  have hzulu : isBlank 'Z' = false := by decide
  have hseparator (cs : List Char) : takeSeparator? ('T' :: cs) = some cs := rfl
  have hoffset : takeOffset? ['Z'] = some (0, []) := by decide
  simp only [ofChars?, Option.bind_eq_bind, Option.bind_some, takeYear?_yearText,
    takeMark?_run hdash, takeNumber?_padded (show date.month < 100 by omega),
    takeNumber?_padded (show date.day < 100 by omega), hseparator,
    takeNumber?_padded (show ofDay / 3600 < 100 by omega), takeMark?_run hcolon,
    takeNumber?_padded (show ofDay / 60 % 60 < 100 by omega),
    takeNumber?_padded (show ofDay % 60 + t.nanos / 1000000000 < 100 by omega),
    takeFraction?_fractionText (Nat.mod_lt t.nanos (by decide)), trimStart_cons hzulu, hoffset]
  exact hparts

end AccessControl.Calendar.Timestamp
