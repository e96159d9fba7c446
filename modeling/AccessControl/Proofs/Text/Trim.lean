import AccessControl.Proofs.Text.Pieces
import AccessControl.Text.Basic

/-!
# Trimmed texts

Trimming takes a text apart in the one way in which it can be put together of blanks, a text without
blanks at its ends, and blanks (`trim_eq_iff`).
-/

namespace AccessControl.Text

variable {cs ds before after : List Char} {c : Char}

/-- A digit is no blank. -/
theorem isBlank_of_isDigit (h : c.isDigit = true) : isBlank c = false := by
  simp only [Char.isDigit, Bool.and_eq_true, decide_eq_true_eq, UInt32.le_iff_toNat_le] at h
  have hzero : 48 ≤ c.toNat := h.1
  have hnine : c.toNat ≤ 57 := h.2
  simp only [isBlank, Bool.or_eq_false_iff, Bool.and_eq_false_iff, decide_eq_false_iff_not,
    beq_eq_false_iff_ne]
  omega

/-- Nothing is trimmed in front of a character that is no blank. -/
theorem trimStart_cons (h : isBlank c = false) (cs : List Char) :
    trimStart (c :: cs) = c :: cs := by
  rw [trimStart, List.dropWhile_cons_of_neg (by rw [h]; exact Bool.false_ne_true)]

/-- All characters are blank. -/
def Blank (cs : List Char) : Prop :=
  ∀ c ∈ cs, isBlank c = true

/-- A text without blanks is trimmed. -/
theorem trimmed_of_forall (h : ∀ c ∈ cs, isBlank c = false) : Trimmed cs :=
  ⟨fun c hc => h c (List.mem_of_mem_head? hc), fun c hc => h c (List.mem_of_getLast? hc)⟩

theorem trim_eq_rdropWhile (cs : List Char) : trim cs = (trimStart cs).rdropWhile isBlank := rfl

/-- A text that was trimmed is trimmed. -/
theorem trimmed_trim (cs : List Char) : Trimmed (trim cs) := by
  constructor
  · -- what starts the trimmed text starts the text without the blanks in front
    intro c hc
    obtain ⟨rest, hrest⟩ : trim cs <+: trimStart cs :=
      List.rdropWhile_prefix isBlank (trimStart cs)
    have hstart : (cs.dropWhile isBlank).head? = some c := by
      rw [← trimStart, ← hrest, List.head?_append, hc]
      rfl
    have hnot := List.head?_dropWhile_not isBlank cs
    rw [hstart] at hnot
    simpa using hnot
  · intro c hc
    have hne : trim cs ≠ [] := by
      rintro hnil
      rw [hnil] at hc
      cases hc
    have hlast : ¬ isBlank ((trim cs).getLast hne) = true :=
      List.rdropWhile_last_not isBlank (trimStart cs) hne
    rw [Option.mem_def, List.getLast?_eq_some_getLast hne, Option.some.injEq] at hc
    rw [← hc]
    simpa using hlast

/-- A text with something other than blanks in it is left over when the blanks around it are left
out. -/
theorem trim_append (trimmed : Trimmed ds) (hbefore : Blank before) (hafter : Blank after) :
    trim (before ++ ds ++ after) = ds := by
  rw [trim_eq_rdropWhile, trimStart, List.append_assoc, List.dropWhile_append_of_pos hbefore]
  obtain rfl | ⟨front, last, hds⟩ := List.eq_nil_or_concat' ds
  · have hnil : after.dropWhile isBlank = [] := List.dropWhile_eq_nil_iff.mpr hafter
    rw [List.nil_append, hnil]
    rfl
  · have hlast : isBlank last = false := trimmed.2 last (by rw [hds]; simp)
    obtain ⟨first, rest, hcons⟩ := List.exists_cons_of_ne_nil (l := ds) (by rw [hds]; simp)
    have hfirst : isBlank first = false := trimmed.1 first (by rw [hcons]; rfl)
    have hstart : (ds ++ after).dropWhile isBlank = ds ++ after := by
      rw [hcons]
      exact trimStart_cons hfirst (rest ++ after)
    rw [hstart, hds, List.append_assoc, List.singleton_append, rdropWhile_append isBlank hlast,
      List.rdropWhile_eq_nil_iff.mpr hafter]

/-- A text is trimmed to what stands in it between blanks and has none at its ends. -/
theorem trim_eq_iff : trim cs = ds ↔
    Trimmed ds ∧ ∃ before after, Blank before ∧ Blank after ∧ cs = before ++ ds ++ after := by
  constructor
  · rintro rfl
    refine ⟨trimmed_trim cs, cs.takeWhile isBlank, (trimStart cs).rtakeWhile isBlank,
      fun c hc => List.mem_takeWhile_imp hc, fun c hc => List.mem_rtakeWhile_imp hc, ?_⟩
    rw [trim_eq_rdropWhile, List.append_assoc, List.rdropWhile_append_rtakeWhile, trimStart,
      List.takeWhile_append_dropWhile]
  · rintro ⟨trimmed, before, after, hbefore, hafter, rfl⟩
    exact trim_append trimmed hbefore hafter

end AccessControl.Text
