import Mathlib.Data.List.DropRight
import Mathlib.Data.List.Basic

/-!
# Texts in pieces

A text split at marks is put together again from its pieces, whose characters are those of the text
without the marks. Pieces that hold no mark are found again where they stood, each behind a mark
(`splitOnP_flatMap`); marks at the end of a text can be left out piece by piece
(`rdropWhile_flatMap`).
-/

namespace AccessControl.Text

variable {isMark : Char → Bool} {mark c : Char} {cs ds piece : List Char}
  {pieces : List (List Char)}

/-! ## Splitting -/

/-- The pieces of a text are the text without its marks. -/
theorem flatten_splitOnP (isMark : Char → Bool) (cs : List Char) :
    (cs.splitOnP isMark).flatten = cs.filter (!isMark ·) := by
  induction cs with
  | nil => rfl
  | cons c cs ih =>
    obtain ⟨piece, pieces, hpieces⟩ :=
      List.exists_cons_of_ne_nil (List.splitOnP_ne_nil isMark cs)
    rw [List.splitOnP_cons_eq_if_modifyHead]
    by_cases hc : isMark c = true
    · simp [hc, ih]
    · simp [hc, ← ih, hpieces]

/-- The characters of the pieces are those of the text that are no marks. -/
theorem mem_splitOnP_iff :
    (∃ piece ∈ cs.splitOnP isMark, c ∈ piece) ↔ c ∈ cs ∧ isMark c = false := by
  rw [← List.mem_flatten, flatten_splitOnP, List.mem_filter, Bool.not_eq_true']

/-- The pieces hold every character of the text but the mark. -/
theorem mem_splitOn_iff :
    (∃ piece ∈ cs.splitOn mark, c ∈ piece) ↔ c ∈ cs ∧ c ≠ mark := by
  rw [List.splitOn_eq_splitOnP, mem_splitOnP_iff, beq_eq_false_iff_ne]

/-- A piece is empty if it is the first and nothing stands before the first mark, or if it is one of
those behind. -/
theorem nil_mem_splitOn_iff_head : [] ∈ cs.splitOn mark ↔
    (∀ c ∈ cs.head?, c = mark) ∨ [] ∈ (cs.splitOn mark).tail := by
  cases cs with
  | nil => simp
  | cons c cs =>
    obtain ⟨piece, pieces, hpieces⟩ := List.exists_cons_of_ne_nil (List.splitOn_ne_nil mark cs)
    rw [List.splitOn_cons_eq_if_modifyHead, hpieces]
    by_cases hc : c = mark <;> simp [hc]

/-- Pieces without marks are found again behind their marks. -/
theorem splitOnP_flatMap (hmark : isMark mark = true) (hpiece : ∀ c ∈ piece, isMark c = false)
    (hpieces : ∀ piece ∈ pieces, ∀ c ∈ piece, isMark c = false) :
    (piece ++ pieces.flatMap (mark :: ·)).splitOnP isMark = piece :: pieces := by
  induction pieces generalizing piece with
  | nil => rw [List.flatMap_nil, List.append_nil, List.splitOnP_eq_singleton hpiece]
  | cons next pieces ih =>
    rw [List.flatMap_cons, List.cons_append,
      List.splitOnP_append_cons_of_forall_mem hpiece mark hmark,
      ih (hpieces next List.mem_cons_self)
        fun piece hmem => hpieces piece (List.mem_cons_of_mem next hmem)]

/-- Pieces that end in a mark each are found again, with nothing behind the last one. -/
theorem splitOn_flatMap_ended (h : ∀ piece ∈ pieces, mark ∉ piece) :
    (pieces.flatMap (· ++ [mark])).splitOn mark = pieces ++ [[]] := by
  induction pieces with
  | nil => rfl
  | cons piece pieces ih =>
    obtain ⟨hpiece, hpieces⟩ := List.forall_mem_cons.mp h
    have hne : ∀ c ∈ piece, (c == mark) = false := fun c hc =>
      beq_eq_false_iff_ne.mpr fun heq => hpiece (heq ▸ hc)
    rw [List.splitOn_eq_splitOnP] at ih ⊢
    rw [List.flatMap_cons, List.append_assoc, List.singleton_append,
      List.splitOnP_append_cons_of_forall_mem hne mark (beq_self_eq_true mark), ih hpieces,
      List.cons_append]

/-! ## Joining -/

/-- Joined pieces are the first one and the others behind a mark each. -/
theorem intercalate_cons (mark : Char) (piece : List Char) (pieces : List (List Char)) :
    [mark].intercalate (piece :: pieces) = piece ++ pieces.flatMap (mark :: ·) := by
  induction pieces generalizing piece with
  | nil => rw [List.intercalate_singleton, List.flatMap_nil, List.append_nil]
  | cons next pieces ih =>
    rw [List.intercalate_cons_cons, ih, List.flatMap_cons, List.append_assoc,
      List.singleton_append, List.cons_append]

theorem mem_intercalate (h : c ∈ [mark].intercalate pieces) :
    c = mark ∨ ∃ piece ∈ pieces, c ∈ piece := by
  induction pieces with
  | nil => cases h
  | cons piece pieces ih =>
    cases pieces with
    | nil =>
      rw [List.intercalate_singleton] at h
      exact Or.inr ⟨piece, List.mem_cons_self, h⟩
    | cons next pieces =>
      rw [List.intercalate_cons_cons, List.mem_append, List.mem_append, List.mem_singleton] at h
      obtain (h | h) | h := h
      · exact Or.inr ⟨piece, List.mem_cons_self, h⟩
      · exact Or.inl h
      · obtain h | ⟨piece, hpiece, hc⟩ := ih h
        · exact Or.inl h
        · exact Or.inr ⟨piece, List.mem_cons_of_mem _ hpiece, hc⟩

/-! ## Marks at the end -/

/-- Leaving out what ends a text does not reach behind a character that stays. -/
theorem rdropWhile_append (isMark : Char → Bool) {last : Char} (h : isMark last = false)
    (cs ds : List Char) :
    (cs ++ last :: ds).rdropWhile isMark = cs ++ last :: ds.rdropWhile isMark := by
  induction ds using List.reverseRecOn with
  | nil =>
    rw [List.rdropWhile_nil, List.rdropWhile_concat_neg]
    simp [h]
  | append_singleton ds d ih =>
    rw [← List.cons_append, ← List.append_assoc, List.rdropWhile_concat, List.rdropWhile_concat,
      ih]
    by_cases hd : isMark d = true <;> simp [hd]

/-- With pieces each behind a mark, the marks at the end are those of the empty pieces at the
end. -/
theorem rdropWhile_flatMap (hmark : isMark mark = true)
    (hpieces : ∀ piece ∈ pieces, ∀ c ∈ piece, isMark c = false) :
    (pieces.flatMap (mark :: ·)).rdropWhile isMark =
      (pieces.rdropWhile (·.isEmpty)).flatMap (mark :: ·) := by
  induction pieces using List.reverseRecOn with
  | nil => rfl
  | append_singleton pieces piece ih =>
    have hlast : ∀ c ∈ piece, isMark c = false := hpieces piece (by simp)
    rw [List.flatMap_append, List.flatMap_singleton]
    obtain rfl | ⟨front, last, rfl⟩ := List.eq_nil_or_concat' piece
    · rw [List.rdropWhile_concat_pos _ _ _ hmark, List.rdropWhile_concat_pos _ _ _ rfl]
      exact ih fun piece hmem => hpieces piece (by simp [hmem])
    · have hstays : isMark last = false := hlast last (by simp)
      rw [List.rdropWhile_concat_neg _ pieces _ (by simp), List.flatMap_append,
        List.flatMap_singleton, ← List.cons_append, ← List.append_assoc,
        List.rdropWhile_concat_neg _ _ _ (by simp [hstays])]

end AccessControl.Text
