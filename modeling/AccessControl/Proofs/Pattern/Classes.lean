import AccessControl.Pattern.Basic
import Mathlib.Data.List.Sort

/-!
# Classes of characters by what they hold

A class is known by what it holds (`contains_unions`), and the size of its automaton by its ranges
(`toRanges_eq`). The blank characters of texts are those of the class that is written as a backslash
and an `s` (`isBlank_eq_contains_space`).
-/

namespace AccessControl

open AccessControl.Text
open AccessControl.Text.Unicode

namespace Pattern

namespace CharClass

/-- A union holds what one of its parts holds. -/
theorem contains_unions (as : List CharClass) (n : Nat) :
    (unions as).contains n = as.any (·.contains n) := by
  fun_induction unions as with
  | case1 => rfl
  | case2 a => simp
  | case3 a as _ ih => rw [contains, ih, List.any_cons]

/-- A class of one code point holds this one. -/
theorem contains_single (m n : Nat) : (single m).contains n = true ↔ n = m := by
  simp only [single, contains, Bool.and_eq_true, decide_eq_true_eq]
  omega

/-- The edges of a class can as well be put in order by insertion. -/
theorem toRanges_eq (a : CharClass) : a.toRanges =
    joined ((inter a (complement (range 0xD800 0xDFFF))).stretches
      (((0 :: 0xD800 :: 0xE000 :: 0x110000 :: a.edges).filter (· ≤ 0x110000)).insertionSort
        (· ≤ ·))) := by
  rw [toRanges, List.mergeSort_eq_insertionSort]

/-- The class of blanks by its ranges: controls and separators of lines, and the separators of
general category `Zs`. -/
theorem space_eq : space =
    .union (.ranges [(0x9, 0xD), (0x85, 0x85), (0x2028, 0x2029)])
      (.ranges [(0x20, 0x20), (0xA0, 0xA0), (0x1680, 0x1680), (0x2000, 0x200A), (0x202F, 0x202F),
        (0x205F, 0x205F), (0x3000, 0x3000)]) := by
  have hparts : (property? "whitespace").map (fun s => (s.parts, s.without)) =
      some ([[(0x9, 0xD), (0x85, 0x85), (0x2028, 0x2029)],
        [(0x20, 0x20), (0xA0, 0xA0), (0x1680, 0x1680), (0x2000, 0x200A), (0x202F, 0x202F),
          (0x205F, 0x205F), (0x3000, 0x3000)]], []) := by
    decide +kernel
  obtain ⟨⟨parts, without⟩, hproperty, heq⟩ := Option.map_eq_some_iff.mp hparts
  cases heq
  rw [space, ofProperty, hproperty]
  rfl

end CharClass

/-- A text that is read as a term is a pattern if the term has a meaning that is not too large. -/
theorem patternOf?_of_term {text : String} {term : Term} {e : Expr} {flags : Flags}
    (hterm : Term.ofChars? text.toList = some term) (hmeaning : term.meaning? {} = some (e, flags))
    (hcost : e.cost ≤ maxCost) : patternOf? text = some e := by
  rw [patternOf?, hterm]
  simp only [Option.bind_eq_bind, Option.bind_some, hmeaning, if_pos hcost]

end Pattern

/-- The blank characters are those with the Unicode property `White_Space`. -/
theorem Text.isBlank_eq_contains_space (c : Char) :
    isBlank c = Pattern.CharClass.space.contains c.toNat := by
  rw [Pattern.CharClass.space_eq, Bool.eq_iff_iff]
  simp only [isBlank, Pattern.CharClass.contains, Ranges.contains, List.any_cons, List.any_nil,
    Bool.or_eq_true, Bool.and_eq_true, decide_eq_true_eq, beq_iff_eq, Bool.false_eq_true, or_false]
  omega

end AccessControl
