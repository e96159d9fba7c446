/-!
# Ranges of code points

A set of code points is a list of ranges, both ends included. In the tables it is a list of texts of
hexadecimal numbers: `41-5A` is a range, `AA` a single code point, and a space parts them.
-/

namespace AccessControl.Text.Unicode

/-- Ranges of code points, both ends included. -/
abbrev Ranges := List (Nat × Nat)

/-- Whether one of the ranges holds a code point. -/
def Ranges.contains (ranges : Ranges) (n : Nat) : Bool :=
  ranges.any fun (low, high) => low ≤ n && n ≤ high

/-- The value of an upper-case hexadecimal digit. -/
def digitValue (c : Char) : Nat :=
  if c.isDigit then c.toNat - 48 else c.toNat - 55

/-- The value of a run of hexadecimal digits. -/
def hexValue (cs : List Char) : Nat :=
  cs.foldl (fun n c => 16 * n + digitValue c) 0

/-- The parts of a text between the marks; there is at least one. -/
def parts (mark : Char) : List Char → List (List Char)
  | [] => [[]]
  | c :: cs =>
    if c = mark then [] :: parts mark cs
    else
      match parts mark cs with
      | [] => [[c]]
      | p :: ps => (c :: p) :: ps

/-- Groups of numbers: a space parts the groups, a hyphen the numbers of a group. -/
def orbitsOfText (text : String) : List (List Nat) :=
  ((parts ' ' text.toList).filter (· != [])).map fun group => (parts '-' group).map hexValue

/-- The ranges of some texts. -/
def Ranges.ofTexts (texts : List String) : Ranges :=
  (texts.flatMap orbitsOfText).filterMap fun group =>
    match group with
    | [n] => some (n, n)
    | [low, high] => some (low, high)
    | _ => none

end AccessControl.Text.Unicode
