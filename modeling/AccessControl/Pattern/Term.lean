import AccessControl.Pattern.Expr

/-!
# The syntax of patterns

A pattern is read into a term before it is given a meaning, because flags inside a pattern change
the meaning of what follows them. `Term.depth` is the nesting of a term, in which a sequence, a
choice, a group, a repetition, a set and an operator on sets count one each.
-/

namespace AccessControl.Pattern

/-- A flag. -/
inductive Flag where
  | ignoreCase
  | multiLine
  | dotAll
  | swapGreed
  | unicode
  | crlf
  | extended
deriving DecidableEq, Repr

/-- A flag, or the sign that turns off the flags after it. -/
inductive FlagItem where
  | negation
  | flag (flag : Flag)
deriving DecidableEq, Repr

/-- What a list of items says about a flag. -/
def flagState (flag : Flag) : List FlagItem → Option Bool
  | [] => none
  | .negation :: items => if items.contains (.flag flag) then some false else none
  | .flag f :: items => if f = flag then some true else flagState flag items

/-- The classes written with a backslash and a letter. -/
inductive PerlClass where
  | digit
  | space
  | word
deriving DecidableEq, Repr

/-- Operators between the parts of a set. -/
inductive SetOp where
  | intersection
  | difference
  | symmetricDifference
deriving DecidableEq, Repr

/-- How a literal character is written. -/
structure Literal where
  char : Char
  /-- Written as `\x` and two digits, which without Unicode means a byte. -/
  isByte : Bool := false
deriving DecidableEq, Repr

/-- A set of characters as it is written. -/
inductive SetTerm where
  | empty
  | literal (lit : Literal)
  | range (low high : Literal)
  | ascii (name : String) (negated : Bool)
  | perl (cls : PerlClass) (negated : Bool)
  /-- A property by its name, with a value if one is given. -/
  | property (name : String) (value : Option String) (negated : Bool)
  | bracketed (negated : Bool) (inner : SetTerm)
  | union (items : List SetTerm)
  | binary (op : SetOp) (left right : SetTerm)
deriving Repr

/-- An assertion as it is written. -/
inductive LookTerm where
  | lineStart
  | lineEnd
  | textStart
  | textEnd
  | word (look : WordLook)
deriving DecidableEq, Repr

/-- A pattern as it is written. -/
inductive Term where
  | empty
  | flags (items : List FlagItem)
  | literal (lit : Literal)
  | dot
  | look (look : LookTerm)
  | set (set : SetTerm)
  | repetition (inner : Term) (least : Nat) (most : Option Nat)
  | group (flags : List FlagItem) (inner : Term)
  | concat (items : List Term)
  | alternation (branches : List Term)
deriving Repr

mutual

/-- The nesting of a set. -/
def SetTerm.depth : SetTerm → Nat
  | .bracketed _ inner => inner.depth + 1
  | .union items => depthOfSets items + 1
  | .binary _ a b => max a.depth b.depth + 1
  | _ => 0

/-- The greatest nesting among some sets. -/
def depthOfSets : List SetTerm → Nat
  | [] => 0
  | t :: ts => max t.depth (depthOfSets ts)

end

mutual

/-- The nesting of a term. -/
def Term.depth : Term → Nat
  | .set s => s.depth
  | .repetition inner _ _ => inner.depth + 1
  | .group _ inner => inner.depth + 1
  | .concat items => depthOfTerms items + 1
  | .alternation branches => depthOfTerms branches + 1
  | _ => 0

/-- The greatest nesting among some terms. -/
def depthOfTerms : List Term → Nat
  | [] => 0
  | t :: ts => max t.depth (depthOfTerms ts)

end

/-- The sequence of some terms. -/
def Term.ofItems : List Term → Term
  | [] => .empty
  | [t] => t
  | ts => .concat ts

/-- The choice between some terms. -/
def Term.ofBranches : List Term → Term
  | [t] => t
  | ts => .alternation ts

/-- The union of some sets. -/
def SetTerm.ofItems : List SetTerm → SetTerm
  | [] => .empty
  | [t] => t
  | ts => .union ts

end AccessControl.Pattern
