import AccessControl.Proofs.Account.EmailGrammar
import AccessControl.Proofs.Pattern.Matching

/-!
# Email addresses by patterns

Three patterns describe the parts of an address: one says which characters a local part consists of,
one finds the dots that it must not have, and one gives the form of a host. Beside what they ask of
lengths, `Email.isLocal` and `Email.isHost` ask the same of a text as these patterns do
(`Email.isLocal_iff_fits`, `Email.isHost_iff_fits`).

Each pattern is read into an expression, and the pieces of the expression are known by its form. A
pattern is not just any text: that each of the three is one, is part of what is said here.
-/

namespace AccessControl.Email

open AccessControl.Pattern
open AccessControl.Text

variable {cs : List Char} {pattern : String} {e : Expr}

/-- The text is a pattern, and it matches a piece of these characters. -/
def Fits (pattern : String) (cs : List Char) : Prop :=
  ∃ e, patternOf? pattern = some e ∧ e.search cs = true

/-- What fits a pattern is known by its expression. -/
theorem fits_iff_search (h : patternOf? pattern = some e) :
    Fits pattern cs ↔ e.search cs = true := by
  simp only [Fits, h, Option.some.injEq, exists_eq_left']

/-- A single dot. -/
def dot : Expr :=
  .one (.single '.'.toNat)

/-- The pieces of a single dot are the dots of the text. -/
theorem spans_dot_iff {i j : Nat} : dot.Spans cs i j ↔ j = i + 1 ∧ cs[i]? = some '.' :=
  spans_single_iff '.'

/-- The automaton of a single dot takes one state. -/
theorem cost_dot : dot.cost = 32 := by
  rw [dot, Expr.cost, CharClass.cost, CharClass.toRanges_eq]
  decide +kernel

/-! ## The characters of a local part -/

/-- The pattern of a text of letters, digits and the punctuation of local parts. -/
def localChars : String :=
  "^[a-zA-Z0-9!#$%&'*+/=?^_`\x7b|\x7d~.-]+$"

/-- Letters, digits and the punctuation of local parts. -/
def localClass : CharClass :=
  .unions ([.range 97 122, .range 65 90, .range 48 57] ++
    "!#$%&'*+/=?^_`\x7b|\x7d~.-".toList.map fun c => .single c.toNat)

/-- The set of characters as it is written in the pattern. -/
def localSet : SetTerm :=
  .bracketed false (.union ([.range ⟨'a', false⟩ ⟨'z', false⟩, .range ⟨'A', false⟩ ⟨'Z', false⟩,
      .range ⟨'0', false⟩ ⟨'9', false⟩] ++
    "!#$%&'*+/=?^_`\x7b|\x7d~.-".toList.map fun c => .literal ⟨c, false⟩))

/-- The class holds the characters of local parts. -/
theorem contains_localClass (c : Char) :
    localClass.contains c.toNat = true ↔ isLocalChar c = true := by
  have hmarks (ms : List Char) :
      (ms.map fun m => CharClass.single m.toNat).any (·.contains c.toNat) = true ↔ c ∈ ms := by
    simp [CharClass.contains_single, Char.toNat_inj]
  have hletters : ([.range 97 122, .range 65 90, .range 48 57] : List CharClass).any
      (·.contains c.toNat) = true ↔ c.isAlphanum = true := by
    have halnum : c.isAlphanum = (decide ('A' ≤ c ∧ c ≤ 'Z') ||
        ('a' ≤ c && c ≤ 'z') || ('0' ≤ c && c ≤ '9')) := rfl
    have hle (a b : Char) : a ≤ b ↔ a.toNat ≤ b.toNat := Iff.rfl
    simp only [halnum, hle, List.any_cons, List.any_nil, CharClass.contains, Bool.or_eq_true,
      Bool.and_eq_true, decide_eq_true_eq, Bool.false_eq_true, or_false]
    exact or_assoc.symm.trans (or_congr_left or_comm)
  rw [localClass, CharClass.contains_unions, List.any_append, isLocalChar, Bool.or_eq_true,
    Bool.or_eq_true, hmarks, hletters, List.contains_iff_mem]

set_option maxRecDepth 2000 in
/-- The pattern is read as one or more of these characters and nothing else. -/
theorem patternOf?_localChars : patternOf? localChars = some (.allOf localClass 1) := by
  have hterm : Term.ofChars? localChars.toList =
      some (.concat [.look .lineStart, .repetition (.set localSet) 1 none, .look .lineEnd]) := rfl
  have hcost : localClass.cost = 128 := by
    rw [CharClass.cost, CharClass.toRanges_eq]
    decide +kernel
  refine patternOf?_of_term hterm rfl ?_
  simp [Expr.allOf, Expr.cost, Expr.isEmptyOnly, hcost, maxCost]

/-- A text fits the pattern if it has characters, and all of them can stand in a local part. -/
theorem fits_localChars_iff :
    Fits localChars cs ↔ cs ≠ [] ∧ ∀ c ∈ cs, isLocalChar c = true := by
  rw [fits_iff_search patternOf?_localChars, Expr.search_allOf, Nat.one_le_iff_ne_zero, ne_eq,
    List.length_eq_zero_iff]
  simp only [contains_localClass, ne_eq]

/-! ## The dots of a local part -/

/-- The pattern of a text with a dot at one of its ends, or with two dots in a row. -/
def strayDots : String :=
  "(^\\.)|(\\.$)|(\\.\\.)"

/-- A dot at the start, a dot at the end, or two dots. -/
def strayDot : Expr :=
  .alt (.seq (.look .textStart) (.seq dot .empty))
    (.alt (.seq dot (.seq (.look .textEnd) .empty)) (.seq dot (.seq dot .empty)))

/-- The pattern is read as the choice between the three. -/
theorem patternOf?_strayDots : patternOf? strayDots = some strayDot := by
  have hterm : Term.ofChars? strayDots.toList = some (.alternation
      [.group [] (.concat [.look .lineStart, .literal ⟨'.', false⟩]),
        .group [] (.concat [.literal ⟨'.', false⟩, .look .lineEnd]),
        .group [] (.concat [.literal ⟨'.', false⟩, .literal ⟨'.', false⟩])]) := rfl
  refine patternOf?_of_term hterm rfl ?_
  simp [strayDot, Expr.cost, cost_dot, maxCost]

/-- Two dots follow each other where a dot stands behind a dot. -/
theorem hasDoubleDot_iff :
    hasDoubleDot cs = true ↔ ∃ i, cs[i]? = some '.' ∧ cs[i + 1]? = some '.' := by
  fun_induction hasDoubleDot cs with
  | case1 cs => exact iff_of_true rfl ⟨0, rfl, rfl⟩
  | case2 c cs hnot ih =>
    rw [ih]
    constructor
    · rintro ⟨i, hi⟩
      exact ⟨i + 1, hi⟩
    · rintro ⟨_ | i, hfirst, hsecond⟩
      · cases cs with
        | nil => cases hsecond
        | cons d cs =>
          cases hfirst
          cases hsecond
          exact (hnot cs rfl rfl).elim
      · exact ⟨i, hfirst, hsecond⟩
  | case3 => simp

/-- A text fits the pattern if it starts or ends with a dot, or has two dots in a row. -/
theorem fits_strayDots_iff : Fits strayDots cs ↔
    cs.head? = some '.' ∨ cs.getLast? = some '.' ∨ hasDoubleDot cs = true := by
  rw [fits_iff_search patternOf?_strayDots, Expr.search_iff, hasDoubleDot_iff,
    List.head?_eq_getElem?, List.getLast?_eq_getElem?]
  constructor
  · rintro ⟨i, j, _, ⟨_, hstart, _, hdot, _⟩ | ⟨_, hdot, _, hend, _⟩ | ⟨_, hdot, _, hnext, _⟩⟩
    · obtain ⟨rfl, rfl⟩ := spans_textStart_iff.mp hstart
      exact Or.inl (spans_dot_iff.mp hdot).2
    · obtain ⟨rfl, hchar⟩ := spans_dot_iff.mp hdot
      rw [← (spans_textEnd_iff.mp hend).1, Nat.add_sub_cancel]
      exact Or.inr (Or.inl hchar)
    · obtain ⟨rfl, hchar⟩ := spans_dot_iff.mp hdot
      exact Or.inr (Or.inr ⟨i, hchar, (spans_dot_iff.mp hnext).2⟩)
  · rintro (hfirst | hlast | ⟨i, hdot, hnext⟩)
    · exact ⟨0, 1, Nat.zero_le _, Or.inl ⟨0, spans_textStart_iff.mpr ⟨rfl, rfl⟩, 1,
        spans_dot_iff.mpr ⟨rfl, hfirst⟩, rfl⟩⟩
    · have hlength := (List.getElem?_eq_some_iff.mp hlast).1
      exact ⟨cs.length - 1, cs.length, by omega, Or.inr (Or.inl ⟨cs.length,
        spans_dot_iff.mpr ⟨by omega, hlast⟩, cs.length,
        spans_textEnd_iff.mpr ⟨rfl, rfl⟩, rfl⟩)⟩
    · have hlength := (List.getElem?_eq_some_iff.mp hdot).1
      exact ⟨i, i + 2, by omega, Or.inr (Or.inr ⟨i + 1, spans_dot_iff.mpr ⟨rfl, hdot⟩,
        i + 2, spans_dot_iff.mpr ⟨rfl, hnext⟩, rfl⟩)⟩

/-- A text is a local part if it has the length of one, no stray dots, and only characters of local
parts. -/
theorem isLocal_iff_fits : isLocal cs = true ↔
    1 ≤ byteLength cs ∧ byteLength cs ≤ 64 ∧ ¬ Fits strayDots cs ∧ Fits localChars cs := by
  have hlength : 1 ≤ byteLength cs → cs ≠ [] := by
    rintro h rfl
    exact absurd h (by decide)
  rw [fits_strayDots_iff, fits_localChars_iff]
  simp only [isLocal, Bool.and_eq_true, decide_eq_true_eq, List.all_eq_true, bne_iff_ne,
    Bool.not_eq_true', not_or, Bool.not_eq_true]
  tauto

/-! ## The form of a host -/

/-- The pattern of a text without blanks and `@` that has a dot inside. -/
def hostForm : String :=
  "^[^\\s@]+\\.[^\\s@]+$"

/-- Any character but a blank and `@`. -/
def hostClass : CharClass :=
  .complement (.unions [.space, .single '@'.toNat])

/-- The set of characters as it is written in the pattern. -/
def hostSet : SetTerm :=
  .bracketed true (.union [.perl .space false, .literal ⟨'@', false⟩])

/-- Two runs of characters of a host with a dot between them. -/
def hostRuns : Expr :=
  .seq (.look .textStart) (.seq (.repetition (.one hostClass) 1 none) (.seq dot
    (.seq (.repetition (.one hostClass) 1 none) (.seq (.look .textEnd) .empty))))

/-- The class holds what is neither a blank nor `@`. -/
theorem contains_hostClass (c : Char) :
    hostClass.contains c.toNat = true ↔ isBlank c = false ∧ c ≠ '@' := by
  have hat : (CharClass.single '@'.toNat).contains c.toNat = false ↔ c ≠ '@' := by
    rw [← Bool.not_eq_true, CharClass.contains_single, Char.toNat_inj]
  rw [hostClass, CharClass.contains, CharClass.contains_unions, isBlank_eq_contains_space, ← hat]
  simp only [List.any_cons, List.any_nil, Bool.or_false, Bool.not_eq_true', Bool.or_eq_false_iff]

/-- The pattern is read as two runs with a dot between them. -/
theorem patternOf?_hostForm : patternOf? hostForm = some hostRuns := by
  have hterm : Term.ofChars? hostForm.toList = some (.concat [.look .lineStart,
      .repetition (.set hostSet) 1 none, .literal ⟨'.', false⟩,
      .repetition (.set hostSet) 1 none, .look .lineEnd]) := rfl
  have hcost : hostClass.cost = 1960 := by
    rw [CharClass.cost, CharClass.toRanges_eq]
    decide +kernel
  refine patternOf?_of_term hterm rfl ?_
  simp [hostRuns, Expr.cost, Expr.isEmptyOnly, cost_dot, hcost, maxCost]

/-- The expression matches a text of such characters that has a dot inside. -/
theorem search_hostRuns : hostRuns.search cs = true ↔
    (∀ c ∈ cs, isBlank c = false ∧ c ≠ '@') ∧ hasInnerDot cs = true := by
  simp only [Expr.search_iff, hasInnerDot_iff, ← contains_hostClass]
  constructor
  · rintro ⟨i, j, _, _, hstart, k, hfront, _, hdot, l, hback, _, hend, _⟩
    obtain ⟨rfl, rfl⟩ := spans_textStart_iff.mp hstart
    obtain ⟨rfl, rfl⟩ := spans_textEnd_iff.mp hend
    obtain ⟨rfl, hchar⟩ := spans_dot_iff.mp hdot
    obtain ⟨hfrontLength, hfront⟩ := spans_run_iff.mp hfront
    obtain ⟨hbackLength, hback⟩ := spans_run_iff.mp hback
    obtain ⟨hk, hget⟩ := List.getElem?_eq_some_iff.mp hchar
    refine ⟨forall_mem_iff_places.mpr fun m hm => ?_, cs.take k, cs.drop (k + 1), ?_, ?_, ?_⟩
    · -- the character is in front of the dot, or the dot, or behind it
      obtain hlt | rfl | hgt := Nat.lt_trichotomy m k
      · exact hfront m (Nat.zero_le m) hlt
      · exact ⟨'.', hchar, (contains_hostClass '.').mpr (by decide)⟩
      · exact hback m hgt hm
    · rw [← hget, ← List.drop_eq_getElem_cons hk, List.take_append_drop]
    · exact List.ne_nil_of_length_pos (by rw [List.length_take]; omega)
    · exact List.ne_nil_of_length_pos (by rw [List.length_drop]; omega)
  · rintro ⟨hall, front, back, rfl, hfront, hback⟩
    have hfront' := List.length_pos_of_ne_nil hfront
    have hback' := List.length_pos_of_ne_nil hback
    have hholds := forall_mem_iff_places.mp hall
    have hlength : (front ++ '.' :: back).length = front.length + 1 + back.length := by
      simp only [List.length_append, List.length_cons]
      omega
    refine ⟨0, _, Nat.zero_le _, 0, spans_textStart_iff.mpr ⟨rfl, rfl⟩, front.length,
      spans_run_iff.mpr ⟨by omega, fun m _ hm => hholds m (by omega)⟩, front.length + 1,
      spans_dot_iff.mpr ⟨rfl, by simp⟩, _,
      spans_run_iff.mpr ⟨by omega, fun m _ hm => hholds m hm⟩, _,
      spans_textEnd_iff.mpr ⟨rfl, rfl⟩, rfl⟩

/-- A text is a host if it has the length and the form of one, and a top label of the right
length. -/
theorem isHost_iff_fits : isHost cs = true ↔ 3 ≤ byteLength cs ∧ Fits hostForm cs ∧
    ∃ front top, splitLast? '.' cs = some (front, top) ∧
      2 ≤ byteLength top ∧ byteLength top ≤ 24 := by
  rw [fits_iff_search patternOf?_hostForm, search_hostRuns]
  simp only [isHost, Bool.and_eq_true, decide_eq_true_eq, List.all_eq_true, bne_iff_ne,
    Bool.not_eq_true', and_assoc]
  cases hsplit : splitLast? '.' cs with
  | none => simp
  | some parts =>
    obtain ⟨front, top⟩ := parts
    simp

end AccessControl.Email
