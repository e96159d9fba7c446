import AccessControl.Pattern.Expr
import AccessControl.Proofs.Pattern.Classes
import Mathlib.Data.List.Basic
import Mathlib.Data.Nat.Bitwise

/-!
# What patterns match

`Expr.Spans` says which pieces of a text an expression matches, by the form of the expression: a
sequence matches two pieces one behind the other, a repetition any number of them within its
limits. Searching finds a piece exactly if there is one (`Expr.search_iff`).

The search works on sets of positions. Each of its steps takes a set to the positions that some
relation leads to from there (`Advances`), and this is carried through the forms of expressions
(`Expr.advances_plan`). A repetition without a greatest number is cut off where more pieces would be
taken than the text has positions: pieces never go back, so those that stay where they are can be
left out, and the others are few enough (`Pieces.exists_le`).

The pieces of the simplest expressions are known outright: those of an anchor, of a character, and
of a run of characters of a class. `Expr.search_allOf` is about texts that are one such run.
-/

namespace AccessControl.Pattern

variable {text : List Char} {e : Expr} {cls : CharClass} {step next : Spots → Spots} {s : Spots}
  {r r' : Nat → Nat → Prop} {i j k n m : Nat}

/-! ## Pieces of a text -/

/-- So many pieces one behind the other, each between two positions that are related. -/
inductive Pieces (r : Nat → Nat → Prop) : Nat → Nat → Nat → Prop
  | none {i : Nat} : Pieces r 0 i i
  | some {n i j k : Nat} (first : r i j) (others : Pieces r n j k) : Pieces r (n + 1) i k

theorem pieces_zero_iff : Pieces r 0 i j ↔ i = j := by
  constructor
  · rintro ⟨⟩
    rfl
  · rintro rfl
    exact .none

/-- One more piece stands in front of the others. -/
theorem pieces_succ_iff : Pieces r (n + 1) i j ↔ ∃ k, r i k ∧ Pieces r n k j := by
  constructor
  · rintro (_ | ⟨first, others⟩)
    exact ⟨_, first, others⟩
  · rintro ⟨k, first, others⟩
    exact .some first others

/-- Pieces may be cut into those in front and those behind. -/
theorem pieces_add_iff : Pieces r (n + m) i j ↔ ∃ k, Pieces r n i k ∧ Pieces r m k j := by
  induction n generalizing i with
  | zero => simp [pieces_zero_iff]
  | succ n ih =>
    rw [Nat.add_right_comm]
    simp only [pieces_succ_iff, ih]
    constructor
    · rintro ⟨l, first, k, others, more⟩
      exact ⟨k, ⟨l, first, others⟩, more⟩
    · rintro ⟨k, ⟨l, first, others⟩, more⟩
      exact ⟨l, first, k, others, more⟩

/-- Pieces that lie within a text lie within it together. -/
theorem Pieces.le_and_le (within : ∀ {i j}, r i j → i ≤ j ∧ j ≤ max i m) (h : Pieces r n i j) :
    i ≤ j ∧ j ≤ max i m := by
  induction h with
  | none => omega
  | some first _ ih =>
    have := within first
    omega

/-- Pieces that stay where they are can be left out. -/
theorem Pieces.exists_le (within : ∀ {i j}, r i j → i ≤ j ∧ j ≤ max i m) (h : Pieces r n i j) :
    ∃ n' ≤ j - i, Pieces r n' i j := by
  induction h with
  | none => exact ⟨0, Nat.zero_le _, .none⟩
  | some first others ih =>
    obtain ⟨n', hn', pieces⟩ := ih
    have hrest := others.le_and_le within
    obtain heq | hlt := Nat.eq_or_lt_of_le (within first).1
    · exact ⟨n', heq ▸ hn', heq ▸ pieces⟩
    · exact ⟨n' + 1, by omega, .some first pieces⟩

/-! ## What an expression matches -/

/-- The character before a position. -/
def charBefore? (text : List Char) : Nat → Option Char
  | 0 => none
  | i + 1 => text[i]?

/-- The expression matches the piece of a text between two positions. -/
def Expr.Spans (text : List Char) : Expr → Nat → Nat → Prop
  | .empty, i, j => i = j
  | .one cls, i, j => j = i + 1 ∧ ∃ c, text[i]? = some c ∧ cls.contains c.toNat = true
  | .look l, i, j => i = j ∧ i ≤ text.length ∧ l.holds (charBefore? text i) text[i]? = true
  | .seq a b, i, j => ∃ k, a.Spans text i k ∧ b.Spans text k j
  | .alt a b, i, j => a.Spans text i j ∨ b.Spans text i j
  | .repetition e least most, i, j =>
    ∃ n, least ≤ n ∧ (∀ m ∈ most, n ≤ max least m) ∧ Pieces (e.Spans text) n i j

/-- A piece lies within the text, unless it is empty. -/
theorem Expr.Spans.le_and_le (h : e.Spans text i j) : i ≤ j ∧ j ≤ max i text.length := by
  induction e generalizing i j with
  | empty =>
    obtain rfl := h
    omega
  | one cls =>
    obtain ⟨rfl, c, hc, _⟩ := h
    have := (List.getElem?_eq_some_iff.mp hc).1
    omega
  | look l =>
    obtain ⟨rfl, _, _⟩ := h
    omega
  | seq a b iha ihb =>
    obtain ⟨k, ha, hb⟩ := h
    have := iha ha
    have := ihb hb
    omega
  | alt a b iha ihb => exact h.elim iha ihb
  | repetition e least most ih =>
    obtain ⟨n, _, _, pieces⟩ := h
    exact pieces.le_and_le ih

/-! ## Steps on sets of positions -/

/-- A step takes each set to the positions that the relation leads to from there. -/
def Advances (step : Spots → Spots) (r : Nat → Nat → Prop) : Prop :=
  ∀ s j, (step s).testBit j = true ↔ ∃ i, s.testBit i = true ∧ r i j

/-- A step that changes nothing changes nothing when it is repeated. -/
theorem times_of_eq (h : step s = s) (n : Nat) : times step n s = s := by
  cases n with
  | zero => rfl
  | succ n => simp only [times, h, if_true]

/-- Taking no further step where the last one led nowhere else makes no difference. -/
theorem times_succ (step : Spots → Spots) (n : Nat) (s : Spots) :
    times step (n + 1) s = times step n (step s) := by
  by_cases h : step s = s
  · rw [h, times_of_eq h, times_of_eq h]
  · simp only [times, h, if_false]

/-- What a step adds nothing to is all that it reaches. -/
theorem reach_of_eq (h : s ||| step s = s) (n : Nat) : reach step n s = s := by
  cases n with
  | zero => rfl
  | succ n => simp only [reach, h, if_true]

/-- Taking no further step where the last one reached nothing new makes no difference. -/
theorem reach_succ (step : Spots → Spots) (n : Nat) (s : Spots) :
    reach step (n + 1) s = reach step n (s ||| step s) := by
  by_cases h : s ||| step s = s
  · rw [h, reach_of_eq h, reach_of_eq h]
  · simp only [reach, h, if_false]

namespace Advances

/-- One advance behind another follows the one relation and then the other. -/
theorem comp (h : Advances step r) (h' : Advances next r') :
    Advances (fun s => next (step s)) fun i j => ∃ k, r i k ∧ r' k j := by
  intro s j
  simp only [h' (step s), h s]
  constructor
  · rintro ⟨k, ⟨i, hi, first⟩, second⟩
    exact ⟨i, hi, k, first, second⟩
  · rintro ⟨i, hi, k, first, second⟩
    exact ⟨k, ⟨i, hi, first⟩, second⟩

theorem congr (h : Advances step r) (hr : ∀ i j, r i j ↔ r' i j) : Advances step r' := by
  intro s j
  simp only [h s, hr]

/-- Two advances side by side follow either relation. -/
theorem union (h : Advances step r) (h' : Advances next r') :
    Advances (fun s => step s ||| next s) fun i j => r i j ∨ r' i j := by
  intro s j
  rw [Nat.testBit_or, Bool.or_eq_true, h s, h' s]
  simp only [and_or_left, exists_or]

/-- As many steps as are asked for lead over as many pieces. -/
theorem times (h : Advances step r) (n : Nat) : Advances (times step n) (Pieces r n) := by
  induction n with
  | zero =>
    intro s j
    simp [Pattern.times, pieces_zero_iff]
  | succ n ih =>
    intro s j
    rw [times_succ]
    simp only [pieces_succ_iff]
    exact h.comp ih s j

/-- Up to as many steps as are asked for lead over up to as many pieces. -/
theorem reach (h : Advances step r) (n : Nat) :
    Advances (reach step n) fun i j => ∃ m ≤ n, Pieces r m i j := by
  induction n with
  | zero =>
    intro s j
    simp [Pattern.reach, pieces_zero_iff]
  | succ n ih =>
    intro s j
    rw [reach_succ, ih]
    simp only [Nat.testBit_or, Bool.or_eq_true, h s]
    constructor
    · rintro ⟨k, hk | ⟨i, hi, first⟩, m, hm, pieces⟩
      · exact ⟨k, hk, m, by omega, pieces⟩
      · exact ⟨i, hi, m + 1, by omega, .some first pieces⟩
    · rintro ⟨i, hi, m, hm, pieces⟩
      cases pieces with
      | none => exact ⟨_, Or.inl hi, 0, by omega, .none⟩
      | some first others => exact ⟨_, Or.inr ⟨i, hi, first⟩, _, by omega, others⟩

end Advances

/-! ## Plans -/

theorem testBit_toNat_add_zero (b : Bool) (s : Spots) : (b.toNat + 2 * s).testBit 0 = b := by
  cases b <;> simp

theorem testBit_toNat_add_succ (b : Bool) (s : Spots) (i : Nat) :
    (b.toNat + 2 * s).testBit (i + 1) = s.testBit i := by
  have hhalf : (b.toNat + 2 * s) / 2 = s := by
    have := b.toNat_lt
    omega
  rw [Nat.testBit_succ, hhalf]

/-- The positions of a class are those whose next character it holds. -/
theorem testBit_classSpots (cls : CharClass) (text : List Char) (i : Nat) :
    (classSpots cls text).testBit i = true ↔
      ∃ c, text[i]? = some c ∧ cls.contains c.toNat = true := by
  induction text generalizing i with
  | nil => simp [classSpots]
  | cons c cs ih =>
    rw [classSpots]
    cases i with
    | zero =>
      rw [testBit_toNat_add_zero]
      simp
    | succ i => rw [testBit_toNat_add_succ, ih, List.getElem?_cons_succ]

/-- The positions of an assertion are those at which it holds, for a text behind a character. -/
theorem testBit_lookSpots_of_before (l : Look) (before : Option Char) (text : List Char) (i : Nat) :
    (lookSpots l before text).testBit i = true ↔ i ≤ text.length ∧
      l.holds (if i = 0 then before else charBefore? text i) text[i]? = true := by
  induction text generalizing before i with
  | nil =>
    rw [lookSpots, ← Nat.add_zero (Bool.toNat _), ← Nat.mul_zero 2]
    cases i with
    | zero =>
      rw [testBit_toNat_add_zero]
      simp
    | succ i =>
      rw [testBit_toNat_add_succ]
      simp
  | cons c cs ih =>
    rw [lookSpots]
    cases i with
    | zero =>
      rw [testBit_toNat_add_zero]
      simp
    | succ i =>
      rw [testBit_toNat_add_succ, ih]
      cases i <;> simp [charBefore?]

/-- The spots of a look are the places where it holds. -/
theorem testBit_lookSpots (l : Look) (text : List Char) (i : Nat) :
    (lookSpots l none text).testBit i = true ↔
      i ≤ text.length ∧ l.holds (charBefore? text i) text[i]? = true := by
  rw [testBit_lookSpots_of_before]
  cases i <;> rfl

/-- The character that a position is in front of is passed. -/
theorem testBit_two_mul_iff : (2 * s).testBit j = true ↔ ∃ i, j = i + 1 ∧ s.testBit i = true := by
  cases j with
  | zero => simp
  | succ j => simp [Nat.testBit_succ]

/-- At least so many pieces, taken within a text, are so many pieces and then no more than the text
has characters. -/
theorem exists_pieces_iff_unbounded (within : ∀ {i j}, r i j → i ≤ j ∧ j ≤ max i m) :
    (∃ n', n ≤ n' ∧ Pieces r n' i j) ↔
      ∃ k, Pieces r n i k ∧ ∃ n' ≤ m + 1, Pieces r n' k j := by
  constructor
  · rintro ⟨n', hn, pieces⟩
    obtain ⟨l, rfl⟩ := Nat.exists_eq_add_of_le hn
    obtain ⟨k, first, others⟩ := pieces_add_iff.mp pieces
    obtain ⟨l', hl', fewer⟩ := others.exists_le within
    have hkj := others.le_and_le within
    exact ⟨k, first, l', by omega, fewer⟩
  · rintro ⟨k, first, l, _, others⟩
    exact ⟨n + l, Nat.le_add_right n l, pieces_add_iff.mpr ⟨k, first, others⟩⟩

/-- To go on from the least number of pieces, as many more are tried as the bound allows. -/
theorem exists_pieces_iff_bounded :
    (∃ n', n ≤ n' ∧ n' ≤ max n m ∧ Pieces r n' i j) ↔
      ∃ k, Pieces r n i k ∧ ∃ n' ≤ m - n, Pieces r n' k j := by
  constructor
  · rintro ⟨n', hn, hm, pieces⟩
    obtain ⟨l, rfl⟩ := Nat.exists_eq_add_of_le hn
    obtain ⟨k, first, others⟩ := pieces_add_iff.mp pieces
    exact ⟨k, first, l, by omega, others⟩
  · rintro ⟨k, first, l, hl, others⟩
    exact ⟨n + l, by omega, by omega, pieces_add_iff.mpr ⟨k, first, others⟩⟩

/-- Laid over a text, an expression takes positions to those where the pieces it matches end. -/
theorem Expr.advances_plan (text : List Char) (e : Expr) :
    Advances (e.plan text).advance (e.Spans text) := by
  induction e with
  | empty =>
    intro s j
    simp [plan, Plan.advance, Spans]
  | one cls =>
    intro s j
    simp only [plan, Plan.advance, testBit_two_mul_iff, Nat.testBit_and, Bool.and_eq_true,
      testBit_classSpots, Spans]
    exact exists_congr fun i => and_left_comm
  | look l =>
    intro s j
    simp [plan, Plan.advance, testBit_lookSpots, Spans]
  | seq a b iha ihb => exact iha.comp ihb
  | alt a b iha ihb => exact iha.union ihb
  | repetition e least most ih =>
    cases most with
    | none =>
      refine ((ih.times least).comp (ih.reach (text.length + 1))).congr fun i j => ?_
      rw [← exists_pieces_iff_unbounded Spans.le_and_le]
      simp [Spans]
    | some most =>
      refine ((ih.times least).comp (ih.reach (most - least))).congr fun i j => ?_
      rw [← exists_pieces_iff_bounded]
      simp [Spans]

/-- All spots are those up to the end of the text. -/
theorem testBit_allSpots (text : List Char) (i : Nat) :
    (allSpots text).testBit i = true ↔ i ≤ text.length := by
  rw [allSpots, Nat.one_shiftLeft, Nat.testBit_two_pow_sub_one, decide_eq_true_eq]
  omega

/-- Searching finds a piece that the expression matches exactly if there is one. -/
theorem Expr.search_iff (e : Expr) (text : List Char) : e.search text = true ↔
    ∃ i j, i ≤ text.length ∧ e.Spans text i j := by
  have hsome (spots : Spots) : spots ≠ 0 ↔ ∃ j, spots.testBit j = true := by
    refine ⟨Nat.exists_testBit_of_ne_zero, ?_⟩
    rintro ⟨j, hj⟩ rfl
    simp at hj
  rw [search, bne_iff_ne, hsome]
  simp only [advances_plan text e _, testBit_allSpots]
  exact exists_comm

/-! ## Anchors, characters and runs of characters -/

/-- The start of the text is the empty piece in front of it. -/
theorem spans_textStart_iff : (Expr.look .textStart).Spans text i j ↔ i = 0 ∧ j = 0 := by
  constructor
  · rintro ⟨rfl, hle, hstart⟩
    cases i with
    | zero => exact ⟨rfl, rfl⟩
    | succ i =>
      rw [charBefore?, List.getElem?_eq_getElem hle] at hstart
      cases hstart
  · rintro ⟨rfl, rfl⟩
    exact ⟨rfl, Nat.zero_le _, rfl⟩

/-- The end of the text is the empty piece behind it. -/
theorem spans_textEnd_iff :
    (Expr.look .textEnd).Spans text i j ↔ i = text.length ∧ j = text.length := by
  constructor
  · rintro ⟨rfl, hle, hend⟩
    have hnone : text.length ≤ i := List.getElem?_eq_none_iff.mp (Option.isNone_iff_eq_none.mp hend)
    exact ⟨Nat.le_antisymm hle hnone, Nat.le_antisymm hle hnone⟩
  · rintro ⟨rfl, rfl⟩
    refine ⟨rfl, Nat.le_refl _, ?_⟩
    rw [List.getElem?_eq_none (Nat.le_refl _)]
    rfl

/-- A class of one character matches this character. -/
theorem spans_single_iff (c : Char) :
    (Expr.one (.single c.toNat)).Spans text i j ↔ j = i + 1 ∧ text[i]? = some c := by
  simp only [Expr.Spans, CharClass.contains_single, Char.toNat_inj, exists_eq_right]

/-- Pieces of one character each are a run of characters of the class. -/
theorem pieces_one_iff : Pieces ((Expr.one cls).Spans text) n i j ↔ j = i + n ∧
    ∀ k, i ≤ k → k < j → ∃ c, text[k]? = some c ∧ cls.contains c.toNat = true := by
  induction n generalizing i with
  | zero =>
    rw [pieces_zero_iff]
    constructor
    · rintro rfl
      exact ⟨rfl, fun k hik hki => absurd hki (by omega)⟩
    · rintro ⟨rfl, _⟩
      rfl
  | succ n ih =>
    simp only [pieces_succ_iff, ih]
    constructor
    · rintro ⟨_, ⟨rfl, hfirst⟩, rfl, hrest⟩
      refine ⟨by omega, fun k hik hkj => ?_⟩
      obtain rfl | hlt := Nat.eq_or_lt_of_le hik
      · exact hfirst
      · exact hrest k hlt hkj
    · rintro ⟨rfl, hall⟩
      exact ⟨i + 1, ⟨rfl, hall i (by omega) (by omega)⟩, by omega,
        fun k hik hkj => hall k (by omega) hkj⟩

/-- A class that is repeated without a greatest number matches the runs that are long enough. -/
theorem spans_run_iff : (Expr.repetition (.one cls) n none).Spans text i j ↔ i + n ≤ j ∧
    ∀ k, i ≤ k → k < j → ∃ c, text[k]? = some c ∧ cls.contains c.toNat = true := by
  rw [Expr.Spans]
  simp only [pieces_one_iff]
  constructor
  · rintro ⟨m, hleast, _, rfl, hall⟩
    exact ⟨by omega, hall⟩
  · rintro ⟨hle, hall⟩
    exact ⟨j - i, by omega, by simp, by omega, hall⟩

/-- What holds of all characters holds at every place of the text. -/
theorem forall_mem_iff_places {p : Char → Prop} :
    (∀ c ∈ text, p c) ↔ ∀ k < text.length, ∃ c, text[k]? = some c ∧ p c := by
  rw [List.forall_mem_iff_getElem]
  refine forall₂_congr fun k hk => ?_
  simp only [List.getElem?_eq_getElem hk, Option.some.injEq, exists_eq_left']

/-- At least so many characters of a class, from the start of the text to its end. -/
def Expr.allOf (cls : CharClass) (n : Nat) : Expr :=
  .seq (.look .textStart)
    (.seq (.repetition (.one cls) n none) (.seq (.look .textEnd) .empty))

/-- The whole text is a run of characters of the class that is long enough. -/
theorem Expr.search_allOf (cls : CharClass) (n : Nat) (text : List Char) :
    (allOf cls n).search text = true ↔
      n ≤ text.length ∧ ∀ c ∈ text, cls.contains c.toNat = true := by
  rw [search_iff]
  constructor
  · rintro ⟨i, j, _, _, hstart, k, hrun, _, hend, _⟩
    obtain ⟨rfl, rfl⟩ := spans_textStart_iff.mp hstart
    obtain ⟨rfl, rfl⟩ := spans_textEnd_iff.mp hend
    obtain ⟨hlength, hall⟩ := spans_run_iff.mp hrun
    exact ⟨by omega, forall_mem_iff_places.mpr fun k hk => hall k (Nat.zero_le k) hk⟩
  · rintro ⟨hleast, hall⟩
    refine ⟨0, text.length, Nat.zero_le _, 0, spans_textStart_iff.mpr ⟨rfl, rfl⟩, text.length,
      spans_run_iff.mpr ⟨by omega, fun k _ hk => ?_⟩, text.length,
      spans_textEnd_iff.mpr ⟨rfl, rfl⟩, rfl⟩
    exact forall_mem_iff_places.mp hall k hk

end AccessControl.Pattern
