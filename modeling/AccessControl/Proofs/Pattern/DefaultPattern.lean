import AccessControl.Proofs.Pattern.Classes
import AccessControl.Proofs.Pattern.Matching
import AccessControl.Settings.Load

/-!
# The default pattern for passwords

The pattern that is taken by default asks for a line of at least eight characters
(`patternOf?_defaultPattern`). Since what a pattern matches is known by its form
(`Pattern.Expr.search_allOf`), it counts characters, whatever bytes they take, and a line feed is
none of them wherever it stands (`search_lineOfAtLeast`).
-/

namespace AccessControl

/-! ## Lines of characters -/

namespace Pattern

/-- Any character but a line feed. -/
def lineChar : CharClass :=
  .complement (.range 10 10)

/-- A line of at least so many characters, from the start of the text to its end. -/
def lineOfAtLeast (n : Nat) : Expr :=
  .allOf lineChar n

/-- The characters of a line are all but the line feed. -/
theorem contains_lineChar (c : Char) : lineChar.contains c.toNat = true ↔ c ≠ '\n' := by
  have hfeed : c = '\n' ↔ c.toNat = 10 := by
    rw [← Char.toNat_inj]
    rfl
  simp only [lineChar, CharClass.contains, Bool.not_eq_true', Bool.and_eq_false_iff,
    decide_eq_false_iff_not, ne_eq, hfeed]
  omega

/-- The expression matches a text that has enough characters and no line feed. -/
theorem search_lineOfAtLeast (n : Nat) (text : List Char) :
    (lineOfAtLeast n).search text = true ↔ n ≤ text.length ∧ '\n' ∉ text := by
  simp only [lineOfAtLeast, Expr.search_allOf, contains_lineChar]
  exact and_congr_right fun _ => List.forall_mem_ne'

/-- The automaton of one character of a line takes a thousand bytes. -/
theorem cost_lineChar : lineChar.cost = 1000 := by
  rw [CharClass.cost, CharClass.toRanges_eq]
  decide +kernel

end Pattern

/-! ## The default pattern -/

open AccessControl.Pattern

/-- The default pattern is one, and has the meaning that it is described with. -/
theorem patternOf?_defaultPattern :
    patternOf? Settings.defaultPattern = some (lineOfAtLeast 8) := by
  have hterm : Term.ofChars? Settings.defaultPattern.toList =
      some (.concat [.look .lineStart, .repetition .dot 8 none, .look .lineEnd]) := rfl
  refine patternOf?_of_term hterm rfl ?_
  simp [lineOfAtLeast, Expr.allOf, Expr.cost, Expr.isEmptyOnly, cost_lineChar, maxCost]

end AccessControl
