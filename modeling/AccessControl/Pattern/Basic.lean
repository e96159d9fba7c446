import AccessControl.Pattern.Meaning
import AccessControl.Pattern.Parser

/-!
# Patterns

A pattern is a regular expression, and a text fits it if the pattern matches a piece of the text. A
text is no pattern if it cannot be read, has no meaning, or is too large.

A pattern whose automaton would take more than ten megabytes is too large. The automaton reads
bytes, from the end of a text to its start as well as forwards; the first of the two is the larger
one and is what is measured here. Every state takes 32 bytes, every way out of a branching state
four, and every range of an ASCII class eight; a counted repetition repeats the automaton of its
inner part.

A class beyond ASCII is split into sequences of byte ranges, the UTF-8 forms of its characters.
Sequences that begin alike share states.
-/

namespace AccessControl

namespace Pattern

open AccessControl.Text.Unicode

/-- The bytes of the UTF-8 form of a code point. -/
def utf8Bytes (n : Nat) : List Nat :=
  if n < 0x80 then [n]
  else if n < 0x800 then [0xC0 + n / 64, 0x80 + n % 64]
  else if n < 0x10000 then [0xE0 + n / 4096, 0x80 + n / 64 % 64, 0x80 + n % 64]
  else [0xF0 + n / 262144, 0x80 + n / 4096 % 64, 0x80 + n / 64 % 64, 0x80 + n % 64]

/-- Where a range has to be split so that each part is a sequence of byte ranges: the last code
point of the first part. -/
def splitPoint? (low high : Nat) : Option Nat :=
  let byLength := [0x7F, 0x7FF, 0xFFFF].find? fun m => low ≤ m && m < high
  match byLength with
  | some m => some m
  | none =>
    if high < 0x80 then none
    else
      [64, 4096, 262144].findSome? fun block =>
        if low / block = high / block then none
        else if low % block ≠ 0 then some (low / block * block + block - 1)
        else if high % block ≠ block - 1 then some (high / block * block - 1)
        else none

/-- The sequences of byte ranges of a range of code points. The first argument bounds the splits. -/
def byteSequences : Nat → Nat → Nat → List (List (Nat × Nat))
  | 0, low, high => [(utf8Bytes low).zip (utf8Bytes high)]
  | n + 1, low, high =>
    match splitPoint? low high with
    | some m => byteSequences n low m ++ byteSequences n (m + 1) high
    | none => [(utf8Bytes low).zip (utf8Bytes high)]

/-- How many elements two lists have in common at their start. -/
def commonLength : List (Nat × Nat) → List (Nat × Nat) → Nat
  | a :: as, b :: bs => if a = b then commonLength as bs + 1 else 0
  | _, _ => 0

/-- The states of the sequences, given in order: each adds what it does not share with the one
before it. -/
def sequenceStates : List (Nat × Nat) → List (List (Nat × Nat)) → Nat
  | _, [] => 0
  | before, s :: ss => (s.length - commonLength before s) + sequenceStates s ss

/-- The bytes that the automaton of a class takes. -/
def CharClass.cost (cls : CharClass) : Nat :=
  match cls.toRanges with
  | [] => 32
  | [(low, high)] =>
    if low = high then 32 * (utf8Bytes low).length
    else if high < 128 then 72
    else beyondAscii [(low, high)]
  | rs => if rs.all (·.2 < 128) then 64 + 8 * rs.length else beyondAscii rs
where
  /-- The bytes for a class that is not within ASCII. -/
  beyondAscii (rs : Ranges) : Nat :=
    let sequences := rs.flatMap fun (low, high) => byteSequences 64 low high
    64 + 32 * sequenceStates [] sequences + 4 * sequences.length

/-- Whether the expression matches empty pieces only. -/
def Expr.isEmptyOnly : Expr → Bool
  | .empty | .look _ => true
  | .one _ => false
  | .seq a b | .alt a b => a.isEmptyOnly && b.isEmptyOnly
  | .repetition e _ most => e.isEmptyOnly || most == some 0

/-- The bytes that the automaton of an expression takes. -/
def Expr.cost : Expr → Nat
  | .empty => 32
  | .one cls => cls.cost
  | .look _ => 32
  | .seq a b => a.cost + b.cost
  | .alt a b => a.cost + b.cost + 40
  | .repetition e least most =>
    if e.isEmptyOnly then e.cost + 40
    else
      match most with
      | some most => e.cost * least + (most - least) * (e.cost + 40)
      | none => e.cost * max least 1 + 40

/-- The bytes that an automaton may take. -/
def maxCost : Nat := 10 * 1048576

end Pattern

/-! ## Patterns -/

open AccessControl.Pattern in
/-- The expression of a pattern. -/
def patternOf? (text : String) : Option Expr := do
  let term ← Term.ofChars? text.toList
  let (e, _) ← term.meaning? {}
  if e.cost ≤ maxCost then some e else none

/-- Whether a pattern matches a piece of a text. -/
def Pattern.Expr.matches (e : Pattern.Expr) (text : String) : Bool :=
  e.search text.toList

end AccessControl
