import AccessControl.Pattern.CharClass

/-!
# Expressions and what they match

An expression matches pieces of a text. Matching works on sets of positions, kept as the bits of a
natural number: bit `i` stands for the place before the `i`-th character. An expression takes a set
of positions where a piece may start to the set of those where it may end; a repetition is taken
until nothing new is reached.

Before the matching a text is laid under the expression once: `Plan` is the expression with every
class replaced by the positions at which the text has a character of it, and every assertion by the
positions at which it holds.
-/

namespace AccessControl.Pattern

/-- What an assertion asks of the words at a position. -/
inductive WordLook where
  | boundary
  | noBoundary
  | start
  | stop
  | startHalf
  | stopHalf
deriving DecidableEq, Repr

/-- An assertion about a position. -/
inductive Look where
  | textStart
  | textEnd
  /-- The start of a line; with `crlf`, lines end in either of the two characters or in both. -/
  | lineStart (crlf : Bool)
  | lineEnd (crlf : Bool)
  | word (unicode : Bool) (look : WordLook)
deriving DecidableEq, Repr

/-- An expression. -/
inductive Expr where
  /-- The empty piece. -/
  | empty
  /-- One character of a class. -/
  | one (cls : CharClass)
  /-- The empty piece at a position where the assertion holds. -/
  | look (look : Look)
  | seq (first second : Expr)
  | alt (first second : Expr)
  /-- At least `least` and, if a greatest number is given, at most so many pieces. -/
  | repetition (inner : Expr) (least : Nat) (most : Option Nat)
deriving Repr

/-- Whether a character belongs to words. -/
def isWord (unicode : Bool) (c : Option Char) : Bool :=
  match c with
  | none => false
  | some c =>
    if unicode && 128 ≤ c.toNat then CharClass.word.contains c.toNat
    else c.isAlphanum || c == '_'

/-- Whether the assertion holds between two neighbours. -/
def Look.holds (before after : Option Char) : Look → Bool
  | .textStart => before.isNone
  | .textEnd => after.isNone
  | .lineStart false => before.isNone || before == some '\n'
  | .lineStart true =>
    before.isNone || before == some '\n' || (before == some '\r' && after != some '\n')
  | .lineEnd false => after.isNone || after == some '\n'
  | .lineEnd true =>
    after.isNone || after == some '\r' || (after == some '\n' && before != some '\r')
  | .word unicode look =>
    let b := isWord unicode before
    let a := isWord unicode after
    match look with
    | .boundary => b != a
    | .noBoundary => b == a
    | .start => !b && a
    | .stop => b && !a
    | .startHalf => !b
    | .stopHalf => !a

/-! ## Sets of positions -/

/-- A set of positions. -/
abbrev Spots := Nat

/-- The positions whose next character the class holds. -/
def classSpots (cls : CharClass) : List Char → Spots
  | [] => 0
  | c :: cs => (cls.contains c.toNat).toNat + 2 * classSpots cls cs

/-- The positions at which an assertion holds, behind a given character. -/
def lookSpots (look : Look) (before : Option Char) : List Char → Spots
  | [] => (look.holds before none).toNat
  | c :: cs => (look.holds before (some c)).toNat + 2 * lookSpots look (some c) cs

/-- All positions of a text. -/
def allSpots (text : List Char) : Spots :=
  1 <<< (text.length + 1) - 1

/-- Adds what a step reaches, up to `n` times, or until nothing is new. -/
def reach (step : Spots → Spots) : Nat → Spots → Spots
  | 0, s => s
  | n + 1, s =>
    let t := s ||| step s
    if t = s then s else reach step n t

/-- Takes a step `n` times, or until it leads nowhere else. -/
def times (step : Spots → Spots) : Nat → Spots → Spots
  | 0, s => s
  | n + 1, s =>
    let t := step s
    if t = s then s else times step n t

/-- An expression laid over a text. -/
inductive Plan where
  | stay
  /-- One character on, from these positions. -/
  | step (spots : Spots)
  /-- No character on, at these positions. -/
  | only (spots : Spots)
  | seq (first second : Plan)
  | alt (first second : Plan)
  | repetition (inner : Plan) (least : Nat) (more : Nat)
deriving Repr

/-- Lays an expression over a text. Beyond the least number of pieces, more of them than the text
has positions reach nothing new. -/
def Expr.plan (text : List Char) : Expr → Plan
  | .empty => .stay
  | .one cls => .step (classSpots cls text)
  | .look l => .only (lookSpots l none text)
  | .seq a b => .seq (a.plan text) (b.plan text)
  | .alt a b => .alt (a.plan text) (b.plan text)
  | .repetition e least none => .repetition (e.plan text) least (text.length + 1)
  | .repetition e least (some most) => .repetition (e.plan text) least (most - least)

/-- The positions where a piece that starts at one of the given positions may end. -/
def Plan.advance : Plan → Spots → Spots
  | .stay, s => s
  | .step spots, s => 2 * (s &&& spots)
  | .only spots, s => s &&& spots
  | .seq a b, s => b.advance (a.advance s)
  | .alt a b, s => a.advance s ||| b.advance s
  | .repetition p least more, s => reach p.advance more (times p.advance least s)

/-- Whether the expression matches a piece of the text. -/
def Expr.search (e : Expr) (text : List Char) : Bool :=
  (e.plan text).advance (allSpots text) != 0

end AccessControl.Pattern
