import AccessControl.Decimal.Digits
import AccessControl.Pattern.Term
import AccessControl.Text.Basic
import AccessControl.Text.Unicode.Property

/-!
# Reading patterns

The reader takes a pattern from left to right and gives up at its first fault. While the flag for
extended patterns is on, blanks and comments (from `#` to the end of the line) are skipped between
the parts of a pattern; a group ends the reach of a flag set inside it.

Back-references and look-around are not part of the language. Groups may be named, but each name
only once.
-/

namespace AccessControl.Pattern

open AccessControl.Decimal
open AccessControl.Text

/-- What is left to read, and what was met so far. -/
structure ParseState where
  rest : List Char
  extended : Bool := false
  names : List (List Char) := []

/-- A step of reading. -/
abbrev Parser (α : Type) := StateT ParseState Option α

namespace Parser

variable {α : Type}

/-- Gives up. -/
def fail : Parser α :=
  fun _ => none

/-- The text behind blanks and comments; the flag says that a comment has begun. -/
def afterGaps : Bool → List Char → List Char
  | _, [] => []
  | true, c :: cs => afterGaps (c != '\n') cs
  | false, c :: cs =>
    if isBlank c then afterGaps false cs
    else if c = '#' then afterGaps true cs
    else c :: cs

/-- Skips blanks and comments in an extended pattern. -/
def skip : Parser Unit :=
  modify fun s => if s.extended then { s with rest := afterGaps false s.rest } else s

/-- The next character, if there is one. -/
def peek : Parser (Option Char) := do
  return (← get).rest.head?

/-- The next character. -/
def here : Parser Char := do
  match (← get).rest with
  | c :: _ => return c
  | [] => fail

/-- Takes the next character. -/
def bump : Parser Unit :=
  modify fun s => { s with rest := s.rest.tail }

/-- Takes the next character and skips what may be skipped. -/
def advance : Parser Unit := do
  bump
  skip

/-- Takes the next character and skips what may be skipped; the pattern must go on. -/
def onward : Parser Unit := do
  advance
  let _ ← here

/-- Takes these characters if they come next. -/
def bumpIf (cs : List Char) : Parser Bool := do
  let s ← get
  if cs.isPrefixOf s.rest then
    set { s with rest := s.rest.drop cs.length }
    return true
  else
    return false

/-- The character after the next one, behind what may be skipped. A comment's sign is skipped, but
not the comment. -/
def peekBehind : Parser (Option Char) := do
  let s ← get
  let cs := s.rest.tail
  if s.extended then
    match cs.dropWhile isBlank with
    | [] => return cs.head?
    | '#' :: rest =>
      match rest.dropWhile isBlank with
      | [] => return cs.head?
      | c :: _ => return some c
    | c :: _ => return some c
  else
    return cs.head?

/-! ## Numbers and escapes -/

/-- Takes digits, skipping what may be skipped after each. -/
def decimalDigits : Nat → Parser (List Char)
  | 0 => return []
  | n + 1 => do
    match ← peek with
    | some c =>
      if c.isDigit then do
        advance
        return c :: (← decimalDigits n)
      else
        return []
    | none => return []

/-- Skips blanks. -/
def skipBlanks : Parser Unit :=
  modify fun s => { s with rest := s.rest.dropWhile isBlank }

/-- Takes a number of at most 32 bits among blanks; `none` when there is no digit. -/
def decimal? : Parser (Option Nat) := do
  skipBlanks
  let ds ← decimalDigits (← get).rest.length
  skipBlanks
  if ds.isEmpty then return none
  else if value ds < UInt32.size then return some (value ds)
  else fail

/-- The character of a code point. -/
def charOf (n : Nat) : Parser Char :=
  if n < 0xD800 ∨ (0xE000 ≤ n ∧ n < 0x110000) then return Char.ofNat n else fail

/-- Takes exactly `n` hexadecimal digits behind a number read so far. -/
def hexDigits : Nat → Nat → Parser Nat
  | 0, v => return v
  | n + 1, v => do
    match hexValue? (← here) with
    | some d => do
      advance
      hexDigits n (16 * v + d)
    | none => fail

/-- Takes hexadecimal digits up to a closing brace, behind some read so far. -/
def hexBrace : Nat → List Nat → Parser (List Nat)
  | 0, _ => fail
  | n + 1, ds => do
    advance
    let c ← here
    if c = '\x7d' then
      advance
      return ds.reverse
    else
      match hexValue? c with
      | some d => hexBrace n (d :: ds)
      | none => fail

/-- Takes a hexadecimal escape at its letter, of so many digits or in braces. Two digits without
braces are a byte. -/
def hexEscape (count : Nat) : Parser Literal := do
  onward
  if (← here) = '\x7b' then
    let ds ← hexBrace ((← get).rest.length + 1) []
    if ds.isEmpty then fail else return ⟨← charOf (ds.foldl (fun v d => 16 * v + d) 0), false⟩
  else
    return ⟨← charOf (← hexDigits count 0), count = 2⟩

/-- Takes characters up to a closing brace. -/
def untilBrace : Nat → Parser (List Char)
  | 0 => fail
  | n + 1 => do
    advance
    let c ← here
    if c = '\x7d' then
      bump
      return []
    else
      return c :: (← untilBrace n)

/-- The text before and behind the first place where `mark` stands. -/
def splitAt? (mark : List Char) : List Char → Option (List Char × List Char)
  | [] => none
  | c :: cs =>
    if mark.isPrefixOf (c :: cs) then some ([], (c :: cs).drop mark.length)
    else (splitAt? mark cs).map fun (a, b) => (c :: a, b)

/-- A property from what stands in its braces. -/
def propertyOf (negated : Bool) (name : List Char) : SetTerm :=
  let pair := (splitAt? ['!', '='] name).or ((splitAt? [':'] name).or (splitAt? ['='] name))
  match pair with
  | some (key, v) => .property (String.ofList key) (some (String.ofList v)) negated
  | none => .property (String.ofList name) none negated

/-- Takes the name of a property. -/
def property (negated : Bool) : Parser SetTerm := do
  onward
  let c ← here
  if c = '\x7b' then
    return propertyOf negated (← untilBrace ((← get).rest.length + 1))
  else if c = '\\' then
    fail
  else
    advance
    return .property (String.singleton c) none negated

/-- What stands for itself behind a backslash because it means something else without. -/
def isMeta (c : Char) : Bool :=
  "\\.+*?()|[]\x7b\x7d^$#&-~".toList.contains c

/-- Whether a character may stand for itself behind a backslash. -/
def isEscapable (c : Char) : Bool :=
  isMeta c || (c.toNat < 128 && !c.isAlphanum && c != '<' && c != '>')

/-- The names of word assertions in braces. -/
def wordLooks : List (String × WordLook) :=
  [("start", .start), ("end", .stop), ("start-half", .startHalf), ("end-half", .stopHalf)]

/-- Whether a character can stand in the name of a word assertion. -/
def isWordLookChar (c : Char) : Bool :=
  c.isAlpha || c = '-'

/-- Takes the name of a word assertion. -/
def wordLookName : Nat → Parser (List Char)
  | 0 => return []
  | n + 1 => do
    match ← peek with
    | some c =>
      if isWordLookChar c then do
        advance
        return c :: (← wordLookName n)
      else
        return []
    | none => return []

/-- Takes the rest of a word assertion behind its `b`: a name in braces, if one begins. -/
def wordLook : Parser WordLook := do
  if (← peek) = some '\x7b' then
    let before ← get
    onward
    if isWordLookChar (← here) then
      let name ← wordLookName (← get).rest.length
      if (← here) = '\x7d' then
        bump
        match wordLooks.find? (·.1 == String.ofList name) with
        | some (_, look) => return look
        | none => fail
      else
        fail
    else
      set before
      return .boundary
  else
    return .boundary

/-- What one character or escape stands for. -/
inductive Primitive where
  | literal (lit : Literal)
  | look (look : LookTerm)
  | set (set : SetTerm)

/-- The control characters with a letter of their own. -/
def controls : List (Char × Char) :=
  [('a', '\x07'), ('f', '\x0c'), ('t', '\t'), ('n', '\n'), ('r', '\r'), ('v', '\x0b')]

/-- Takes an escape behind its backslash. -/
def escape : Parser Primitive := do
  let c ← here
  if c = 'x' then
    return .literal (← hexEscape 2)
  else if c = 'u' then
    return .literal (← hexEscape 4)
  else if c = 'U' then
    return .literal (← hexEscape 8)
  else if c = 'p' ∨ c = 'P' then
    return .set (← property (c = 'P'))
  else
    bump
    if c = 'd' ∨ c = 'D' then return .set (.perl .digit (c = 'D'))
    else if c = 's' ∨ c = 'S' then return .set (.perl .space (c = 'S'))
    else if c = 'w' ∨ c = 'W' then return .set (.perl .word (c = 'W'))
    else if isEscapable c then return .literal ⟨c, false⟩
    else if c = 'A' then return .look .textStart
    else if c = 'z' then return .look .textEnd
    else if c = 'b' then return .look (.word (← wordLook))
    else if c = 'B' then return .look (.word .noBoundary)
    else if c = '<' then return .look (.word .start)
    else if c = '>' then return .look (.word .stop)
    else
      match controls.find? (·.1 == c) with
      | some (_, d) => return .literal ⟨d, false⟩
      | none => fail

/-! ## Sets -/

/-- Takes one character or escape of a set. -/
def setPrimitive : Parser Primitive := do
  let c ← here
  bump
  if c = '\\' then escape else return .literal ⟨c, false⟩

/-- A primitive as a part of a set. -/
def Primitive.toSet : Primitive → Parser SetTerm
  | .literal lit => return .literal lit
  | .set s => return s
  | .look _ => fail

/-- A primitive as the end of a range. -/
def Primitive.toLiteral : Primitive → Parser Literal
  | .literal lit => return lit
  | _ => fail

/-- Takes one part of a set: a character, a class, or a range. -/
def setRange : Parser SetTerm := do
  let first ← setPrimitive
  skip
  if (← here) ≠ '-' then
    first.toSet
  else
    let next ← peekBehind
    if next = some ']' ∨ next = some '-' then
      first.toSet
    else
      onward
      let second ← setPrimitive
      let low ← first.toLiteral
      let high ← second.toLiteral
      if high.char < low.char then fail else return .range low high

/-- Takes an ASCII class such as `[:alpha:]`, if one comes next and has a known name. -/
def asciiClass? : Parser (Option SetTerm) := do
  let s ← get
  match s.rest with
  | '[' :: ':' :: cs =>
    let (negated, cs) := match cs with
      | '^' :: rest => (true, rest)
      | _ => (false, cs)
    let name := cs.takeWhile (· != ':')
    match cs.dropWhile (· != ':') with
    | ':' :: ']' :: rest =>
      if (CharClass.ascii? (String.ofList name)).isSome then
        set { s with rest := rest }
        return some (.ascii (String.ofList name) negated)
      else
        return none
    | _ => return none
  | _ => return none

/-- Takes hyphens at the start of a set. -/
def leadingHyphens : Nat → Parser (List SetTerm)
  | 0 => return []
  | n + 1 => do
    if (← here) = '-' then
      onward
      return .literal ⟨'-', false⟩ :: (← leadingHyphens n)
    else
      return []

/-- Takes the opening of a set: its bracket, its sign of negation, and the hyphens or the closing
bracket that stand for themselves there. -/
def setOpen : Parser (Bool × List SetTerm) := do
  onward
  let negated := (← here) = '^'
  if negated then onward
  let hyphens ← leadingHyphens (← get).rest.length
  if hyphens.isEmpty ∧ (← here) = ']' then
    onward
    return (negated, [.literal ⟨']', false⟩])
  else
    return (negated, hyphens)

/-- The set made of what stands before an operator and of the parts behind it, the last first. -/
def closeOperand (pending : Option (SetTerm × SetOp)) (parts : List SetTerm) : SetTerm :=
  let right := SetTerm.ofItems parts.reverse
  match pending with
  | some (left, op) => .binary op left right
  | none => right

/-- Takes the parts of a set up to and with its closing bracket, behind the parts of the current
operand, the last first. The first argument bounds the steps. -/
def setBody : Nat → List SetTerm → Option (SetTerm × SetOp) → Parser SetTerm
  | 0, _, _ => fail
  | n + 1, parts, pending => do
    skip
    let c ← here
    let operator (op : SetOp) : Parser SetTerm :=
      setBody n [] (some (closeOperand pending parts, op))
    if c = '[' then
      match ← asciiClass? with
      | some s => setBody n (s :: parts) pending
      | none => do
        let (negated, first) ← setOpen
        let inner ← setBody n first.reverse none
        setBody n (.bracketed negated inner :: parts) pending
    else if c = ']' then
      bump
      return closeOperand pending parts
    else if ← bumpIf ['&', '&'] then
      operator .intersection
    else if ← bumpIf ['-', '-'] then
      operator .difference
    else if ← bumpIf ['~', '~'] then
      operator .symmetricDifference
    else
      let part ← setRange
      setBody n (part :: parts) pending

/-- Takes a set at its opening bracket. -/
def bracketedSet : Parser SetTerm := do
  let bound := (← get).rest.length + 1
  let (negated, first) ← setOpen
  return .bracketed negated (← setBody bound first.reverse none)

/-! ## Groups -/

/-- The flag of a letter. -/
def flagOf? (c : Char) : Option Flag :=
  if c = 'i' then some .ignoreCase
  else if c = 'm' then some .multiLine
  else if c = 's' then some .dotAll
  else if c = 'U' then some .swapGreed
  else if c = 'u' then some .unicode
  else if c = 'R' then some .crlf
  else if c = 'x' then some .extended
  else none

/-- Takes flags up to the colon or bracket behind them, which is left; each item may come once. -/
def flagItems : Nat → List FlagItem → Parser (List FlagItem)
  | 0, _ => fail
  | n + 1, items => do
    let c ← here
    if c = ':' ∨ c = ')' then
      if items.head? = some .negation then fail else return items.reverse
    else
      let item ← if c = '-' then pure FlagItem.negation else
        match flagOf? c with
        | some f => pure (FlagItem.flag f)
        | none => fail
      if items.contains item then
        fail
      else
        bump
        flagItems n (item :: items)

/-- Whether a character may stand in the name of a group. -/
def isNameChar (first : Bool) (c : Char) : Bool :=
  c = '_' || Unicode.isAlphabetic c ||
    (!first && (c = '.' || c = '[' || c = ']' || Unicode.isNumeral c))

/-- Takes the name of a group up to and with the bracket behind it. -/
def groupName : Parser Unit := do
  let s ← get
  let name := s.rest.takeWhile (· != '>')
  match name, s.rest.drop name.length with
  | c :: cs, _ :: rest =>
    if isNameChar true c ∧ cs.all (isNameChar false) ∧ ¬ s.names.contains name then
      set { s with rest := rest, names := name :: s.names }
    else
      fail
  | _, _ => fail

/-- What an opening bracket begins. -/
inductive Opening where
  /-- Flags for the rest of the group around. -/
  | flags (items : List FlagItem)
  /-- A group in which some flags are set. -/
  | group (items : List FlagItem)

/-- Takes the opening of a group, or flags in brackets. -/
def opening : Parser Opening := do
  advance
  let rest := (← get).rest
  if [['?', '='], ['?', '!'], ['?', '<', '='], ['?', '<', '!']].any (·.isPrefixOf rest) then
    fail
  else if (← bumpIf ['?', 'P', '<']) || (← bumpIf ['?', '<']) then
    groupName
    return .group []
  else if ← bumpIf ['?'] then
    let items ← flagItems (rest.length + 1) []
    let last ← here
    bump
    if last = ')' then
      if items.isEmpty then fail else return .flags items
    else
      return .group items
  else
    return .group []

/-! ## Patterns -/

/-- Sets the flag for extended patterns as some items say. -/
def setExtended (items : List FlagItem) : Parser Unit :=
  modify fun s => { s with extended := (flagState .extended items).getD s.extended }

/-- Takes the question mark behind a repetition, which asks for few pieces rather than many. -/
def skipLazy : Parser Unit := do
  let _ ← bumpIf ['?']

/-- Takes a counted repetition behind its opening brace. -/
def counts : Parser (Nat × Option Nat) := do
  onward
  let least ← decimal?
  if (← here) = ',' then
    onward
    match least with
    | none => fail
    | some least =>
      if (← here) = '\x7d' then
        return (least, none)
      else
        match ← decimal? with
        | some most => if least ≤ most then return (least, some most) else fail
        | none => fail
  else
    match least with
    | some least => return (least, some least)
    | none => fail

/-- The last term of a sequence, if it can be repeated, and the terms before it. -/
def repeatable : List Term → Parser (Term × List Term)
  | [] => fail
  | .flags _ :: _ => fail
  | t :: before => return (t, before)

/-- Takes one character, escape or assertion. -/
def primitive : Parser Term := do
  let c ← here
  bump
  if c = '\\' then
    match ← escape with
    | .literal lit => return .literal lit
    | .look look => return .look look
    | .set s => return .set s
  else if c = '.' then return .dot
  else if c = '^' then return .look .lineStart
  else if c = '$' then return .look .lineEnd
  else return .literal ⟨c, false⟩

/-- Takes a choice between sequences up to the end of its group or of the pattern, behind the terms
of the current sequence, the last first, and the branches before it, the last first. The first
argument bounds the steps. -/
def choice : Nat → List Term → List Term → Parser Term
  | 0, _, _ => fail
  | n + 1, terms, branches => do
    skip
    let finished := Term.ofItems terms.reverse
    let repeated (least : Nat) (most : Option Nat) : Parser Term := do
      let (t, before) ← repeatable terms
      skipLazy
      choice n (.repetition t least most :: before) branches
    match ← peek with
    | none => return Term.ofBranches (finished :: branches).reverse
    | some ')' => return Term.ofBranches (finished :: branches).reverse
    | some '|' => do
      bump
      choice n [] (finished :: branches)
    | some '(' => do
      let outer := (← get).extended
      match ← opening with
      | .flags items => do
        setExtended items
        choice n (.flags items :: terms) branches
      | .group items => do
        setExtended items
        let inner ← choice n [] []
        if (← here) = ')' then
          bump
          modify fun s => { s with extended := outer }
          choice n (.group items inner :: terms) branches
        else
          fail
    | some '[' => do
      let s ← bracketedSet
      choice n (.set s :: terms) branches
    | some '?' => do
      bump
      repeated 0 (some 1)
    | some '*' => do
      bump
      repeated 0 none
    | some '+' => do
      bump
      repeated 1 none
    | some '\x7b' => do
      let _ ← repeatable terms
      let (least, most) ← counts
      if (← here) = '\x7d' then
        advance
        repeated least most
      else
        fail
    | some _ => do
      let t ← primitive
      choice n (t :: terms) branches

end Parser

/-- The greatest nesting of a pattern. -/
def maxDepth : Nat := 250

/-- Reads a pattern. -/
def Term.ofChars? (cs : List Char) : Option Term :=
  match Parser.choice (cs.length + 1) [] [] ⟨cs, false, []⟩ with
  | some (t, s) => if s.rest.isEmpty ∧ t.depth ≤ maxDepth then some t else none
  | none => none

end AccessControl.Pattern
