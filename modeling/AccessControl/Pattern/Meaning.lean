import AccessControl.Pattern.Term

/-!
# The meaning of patterns

A term becomes an expression under the flags that hold where it stands. Flags set inside a group
hold to the end of the group, through all its branches.

Patterns match characters, never parts of their encoding. Where the flag for Unicode is off, classes
are classes of bytes, and whatever could match a byte beyond ASCII has no meaning: a dot, a negated
class, a byte escape beyond ASCII. Neither has a property there.

Where case is ignored, a class is closed under case folding before it is negated.
-/

namespace AccessControl.Pattern

open AccessControl.Text.Unicode

/-- The flags that hold at a place of a pattern. -/
structure Flags where
  ignoreCase : Bool := false
  multiLine : Bool := false
  dotAll : Bool := false
  crlf : Bool := false
  unicode : Bool := true
deriving DecidableEq, Repr

/-- The flags after some items. -/
def Flags.update (flags : Flags) (items : List FlagItem) : Flags where
  ignoreCase := (flagState .ignoreCase items).getD flags.ignoreCase
  multiLine := (flagState .multiLine items).getD flags.multiLine
  dotAll := (flagState .dotAll items).getD flags.dotAll
  crlf := (flagState .crlf items).getD flags.crlf
  unicode := (flagState .unicode items).getD flags.unicode

/-- A class closed under case folding, if case is ignored. -/
def Flags.fold (flags : Flags) (cls : CharClass) : CharClass :=
  if !flags.ignoreCase then cls
  else if flags.unicode then .folded cls
  else .asciiFolded cls

/-- A class without Unicode must hold ASCII characters only. -/
def Flags.checked (flags : Flags) (cls : CharClass) : Option CharClass :=
  if flags.unicode || cls.isAscii then some cls else none

/-! ## Properties -/

/-- The normal form of a name: in lower case, without `is` in front, blanks, hyphens, underscores
and characters beyond ASCII. -/
def normalName (name : String) : String :=
  let cs := name.toList
  let isPrefixed := (cs.take 2).map Char.toLower = ['i', 's']
  let kept := ((if isPrefixed then cs.drop 2 else cs).filter fun c =>
    c != ' ' && c != '_' && c != '-' && c.toNat < 128).map Char.toLower
  String.ofList (if isPrefixed ∧ kept = ['c'] then ['i', 's', 'c'] else kept)

/-- The class of a general category, in normal form. -/
def categoryClass? (name : String) : Option CharClass :=
  if name = "any" then some .any
  else if name = "assigned" then some (.complement (.ofTables (ofCategories ["cn"])))
  else if name = "ascii" then some (.range 0 127)
  else (category? name).map CharClass.ofTables

/-- The class of a property, a category or a script by its name in normal form. Where a name is both
that of a category and that of a property, the category is meant. -/
def namedClass? (name : String) : Option CharClass :=
  let property := if ["cf", "sc", "lc"].contains name then none else property? name
  ((property.map CharClass.ofComposed).or (categoryClass? name)).or
    ((script? name).map CharClass.ofTables)

/-- The class of a value of a property, both in normal form. -/
def valuedClass? (name value : String) : Option CharClass :=
  if ["gc", "generalcategory"].contains name then categoryClass? value
  else if ["sc", "script"].contains name then (script? value).map CharClass.ofTables
  else if ["scx", "scriptextensions"].contains name then
    (extendedScript? value).map CharClass.ofTables
  else none

/-! ## Sets -/

/-- The class of a backslash and a letter. -/
def PerlClass.toClass (unicode : Bool) : PerlClass → CharClass
  | .digit => if unicode then .digit else .range 48 57
  | .space => if unicode then .space else .unions [.range 9 13, .single 32]
  | .word =>
    if unicode then .word
    else .unions [.range 48 57, .range 65 90, .single 95, .range 97 122]

/-- The code point of a literal in a set. -/
def Literal.inSet? (flags : Flags) (lit : Literal) : Option Nat :=
  if flags.unicode || lit.char.toNat < 128 then some lit.char.toNat else none

mutual

/-- The class of a set. -/
def SetTerm.meaning? (flags : Flags) : SetTerm → Option CharClass
  | .empty => some .empty
  | .literal lit => (lit.inSet? flags).map CharClass.single
  | .range low high => do
    return .range (← low.inSet? flags) (← high.inSet? flags)
  | .ascii name negated => do
    flags.checked (.negatedIf negated (flags.fold (← CharClass.ascii? name)))
  | .perl cls negated => flags.checked (.negatedIf negated (cls.toClass flags.unicode))
  | .property name value negated => do
    let cls ← match value with
      | none => namedClass? (normalName name)
      | some value => valuedClass? (normalName name) (normalName value)
    if flags.unicode then some (.negatedIf negated (flags.fold cls)) else none
  | .bracketed negated inner => do
    flags.checked (.negatedIf negated (flags.fold (← inner.meaning? flags)))
  | .union items => do
    return .unions (← meaningOfSets? flags items)
  | .binary op a b => do
    let a := flags.fold (← a.meaning? flags)
    let b := flags.fold (← b.meaning? flags)
    match op with
    | .intersection => return .inter a b
    | .difference => return .difference a b
    | .symmetricDifference => return .symmetricDifference a b

/-- The classes of some sets. -/
def meaningOfSets? (flags : Flags) : List SetTerm → Option (List CharClass)
  | [] => some []
  | t :: ts => do
    let cls ← t.meaning? flags
    return cls :: (← meaningOfSets? flags ts)

end

/-! ## Terms -/

/-- The expression of a literal character. -/
def Literal.meaning? (flags : Flags) (lit : Literal) : Option Expr :=
  let n := lit.char.toNat
  if !flags.unicode && lit.isByte && 128 ≤ n then none
  else if !flags.ignoreCase then some (.one (.single n))
  else if flags.unicode then some (.one (.foldedSingle n))
  else some (.one (.asciiFolded (.single n)))

/-- The expression of a dot: any character, but no end of a line unless the flags say so. -/
def dot? (flags : Flags) : Option Expr :=
  if !flags.unicode then none
  else if flags.dotAll then some (.one .any)
  else if flags.crlf then some (.one (.complement (.unions [.single 10, .single 13])))
  else some (.one (.complement (.single 10)))

/-- The assertion of a place. -/
def LookTerm.meaning (flags : Flags) : LookTerm → Look
  | .lineStart => if flags.multiLine then .lineStart flags.crlf else .textStart
  | .lineEnd => if flags.multiLine then .lineEnd flags.crlf else .textEnd
  | .textStart => .textStart
  | .textEnd => .textEnd
  | .word look => .word flags.unicode look

mutual

/-- The expression of a term, and the flags that hold behind it. -/
def Term.meaning? (flags : Flags) : Term → Option (Expr × Flags)
  | .empty => some (.empty, flags)
  | .flags items => some (.empty, flags.update items)
  | .literal lit => do return (← lit.meaning? flags, flags)
  | .dot => do return (← dot? flags, flags)
  | .look l => some (.look (l.meaning flags), flags)
  | .set s => do return (.one (← s.meaning? flags), flags)
  | .repetition inner least most => do
    let (e, after) ← inner.meaning? flags
    return (.repetition e least most, after)
  | .group items inner => do
    let (e, _) ← inner.meaning? (flags.update items)
    return (e, flags)
  | .concat items => sequence? flags items
  | .alternation branches => branches? flags branches

/-- The expression of some terms one after the other. -/
def sequence? (flags : Flags) : List Term → Option (Expr × Flags)
  | [] => some (.empty, flags)
  | t :: ts => do
    let (e, flags) ← t.meaning? flags
    let (es, flags) ← sequence? flags ts
    return (.seq e es, flags)

/-- The expression of a choice between some terms. -/
def branches? (flags : Flags) : List Term → Option (Expr × Flags)
  | [] => some (.empty, flags)
  | [t] => t.meaning? flags
  | t :: u :: ts => do
    let (e, flags) ← t.meaning? flags
    let (es, flags) ← branches? flags (u :: ts)
    return (.alt e es, flags)

end

end AccessControl.Pattern
