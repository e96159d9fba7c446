import AccessControl.Decimal.Digits
import AccessControl.Logging.Event
import AccessControl.Text.Basic
import AccessControl.Text.Unicode.Property

/-!
# Log filters

A filter is a list of directives. A directive says for the events of some targets, or of all, up to
which level they are let through; the most specific of the directives that cover an event decides
about it: the one with the longest target, and of those the one that asks for most fields. Of two
directives of the same reach the later one counts.

In a text the directives stand between commas. `target=level` covers the targets that begin with
`target`; a level alone covers all; a target alone lets everything through, as does a missing level
behind `=`. Behind a target there may be a span in brackets, with names of fields in braces: such a
directive speaks of what happens inside spans, and covers an event only if it asks for nothing but
fields that the event has.
-/

namespace AccessControl.Logging

open AccessControl.Decimal
open AccessControl.Text

/-- Up to which level events are let through; none at all without a level. -/
abbrev Threshold := Option Level

/-- Whether a threshold lets a level through. -/
def Threshold.admits (threshold : Threshold) (level : Level) : Bool :=
  match threshold with
  | some most => level.rank ≤ most.rank
  | none => false

/-- What a directive asks of a field. -/
structure FieldMatch where
  name : List Char
  value : Option (List Char) := none
deriving DecidableEq, Repr

/-- A directive. -/
structure Directive where
  /-- How the targets begin. -/
  target : Option (List Char) := none
  span : Option (List Char) := none
  fields : List FieldMatch := []
  threshold : Threshold
deriving DecidableEq, Repr

/-! ## Reading -/

/-- The thresholds by name, in lower case. -/
def thresholdNames : List (List Char × Threshold) :=
  ("off".toList, none) ::
    Level.all.map fun level => (level.name.toList.map Char.toLower, some level)

/-- Reads a number of a level, with an optional `+`. -/
def levelNumber? (cs : List Char) : Option Nat :=
  let ds := if cs.head? = some '+' then cs.tail else cs
  if ds.isEmpty ∨ ¬ ds.all Char.isDigit then none else some (value ds)

/-- Reads a threshold: a name in any case, or a number from 0 for none to 5 for all. -/
def Threshold.ofChars? (cs : List Char) : Option Threshold :=
  match levelNumber? cs with
  | some 0 => some none
  | some n => (Level.all.find? (·.rank == n)).map some
  | none => (thresholdNames.find? (·.1 == cs.map Char.toLower)).map (·.2)

/-- Reads the threshold behind `=`. -/
def thresholdBehind? (cs : List Char) : Option Threshold :=
  if cs.isEmpty then some (some .trace) else Threshold.ofChars? cs

/-- Whether a directive may begin with a character, if not with a bracket. -/
def startsDirective (c : Char) : Bool :=
  c == '-' || c == ':' || c == '_' || Unicode.isAlphabetic c || Unicode.isNumeral c

/-- Reads what is asked of a field. -/
def FieldMatch.ofChars? (cs : List Char) : Option FieldMatch :=
  match cs.splitOn '=' with
  | name :: value :: _ => some ⟨name, some value⟩
  | [name] => if name.isEmpty then none else some ⟨name, none⟩
  | [] => none

/-- Reads what stands behind the bracket that opens a span. -/
def spanBehind? (target : Option (List Char)) (cs : List Char) : Option Directive := do
  let name := cs.takeWhile fun c => c != ']' && c != '\x7b'
  let (span, fields, rest) ← match cs.drop name.length with
    | ']' :: rest => some (some name, [], rest)
    | '\x7b' :: rest => do
      let field := rest.takeWhile (· != '\x7d')
      match rest.drop field.length with
      | '\x7d' :: ']' :: rest =>
        some (if name.isEmpty then none else some name, [← FieldMatch.ofChars? field], rest)
      | _ => none
    | _ => none
  match rest with
  | '=' :: level => return { target, span, fields, threshold := ← thresholdBehind? level }
  | rest =>
    if (trim rest).isEmpty then some { target, span, fields, threshold := some .trace } else none

/-- Reads a directive. Blanks at its start may not be followed by a level behind `=`. -/
def Directive.ofChars? (cs : List Char) : Option Directive :=
  let first := (trimStart cs).head?
  let head := cs.takeWhile fun c => c != '=' && c != '['
  match first, cs.drop head.length with
  | none, _ => none
  | some '[', rest => spanBehind? (if head.isEmpty then none else some head) rest.tail
  | some c, [] =>
    if ¬ startsDirective c then none
    else
      match Threshold.ofChars? cs with
      | some threshold => some { threshold }
      | none => some { target := some cs, threshold := some .trace }
  | some c, '=' :: level =>
    if startsDirective c ∧ cs.head? = some c then
      (thresholdBehind? level).map fun threshold => { target := some head, threshold }
    else
      none
  | some c, _ :: rest => if startsDirective c then spanBehind? (some head) rest else none

/-! ## Filters -/

/-- A filter. -/
abbrev Filter := List Directive

namespace Filter

/-- The texts of the directives. -/
def directiveTexts (text : String) : List (List Char) :=
  (text.toList.splitOn ',').filter (!·.isEmpty)

/-- Reads a filter, if all its directives can be read. -/
def ofText? (text : String) : Option Filter :=
  (directiveTexts text).mapM Directive.ofChars?

/-- Reads a filter, passing over what cannot be read. If nothing is left, errors are let through. -/
def ofTextLossy (text : String) : Filter :=
  match (directiveTexts text).filterMap Directive.ofChars? with
  | [] => [{ threshold := some .error }]
  | ds => ds

/-- The filter of a setting, or of a fallback if there is no setting or it is no filter. -/
def choose (setting : Option String) (fallback : String) : Filter :=
  (setting.bind ofText?).getD (ofTextLossy fallback)

end Filter

/-! ## Deciding -/

/-- An event as it is logged: with a message and numbers under names. -/
structure Record where
  level : Level
  target : String
  message : String
  numbers : List (String × Int) := []
deriving DecidableEq, Repr

/-- The names of the fields. -/
def Record.fieldNames (r : Record) : List (List Char) :=
  "message".toList :: r.numbers.map (·.1.toList)

namespace Directive

/-- Whether a directive speaks of events. -/
def isStatic (d : Directive) : Bool :=
  d.span.isNone && d.fields.all (·.value.isNone)

/-- Whether a directive covers an event. -/
def covers (d : Directive) (r : Record) : Bool :=
  d.isStatic && (d.target.all (·.isPrefixOf r.target.toList)) &&
    d.fields.all fun f => r.fieldNames.contains f.name

/-- How long the target is; no target is shorter than any. -/
def reach (d : Directive) : Nat :=
  match d.target with
  | some cs => cs.length + 1
  | none => 0

/-- Whether a directive is less specific than another one that covers the same event. -/
def isLessSpecific (d e : Directive) : Bool :=
  d.reach < e.reach || (d.reach == e.reach &&
    (d.fields.length < e.fields.length || (d.fields.length == e.fields.length &&
      decide (d.fields.map (·.name) < e.fields.map (·.name)))))

end Directive

/-- The directive that decides about an event. -/
def Filter.deciding? (filter : Filter) (r : Record) : Option Directive :=
  (filter.filter (·.covers r)).foldl
    (fun best d =>
      match best with
      | some b => if d.isLessSpecific b then best else some d
      | none => some d)
    none

/-- Whether an event is let through. -/
def Filter.admits (filter : Filter) (r : Record) : Bool :=
  match filter.deciding? r with
  | some d => d.threshold.admits r.level
  | none => false

end AccessControl.Logging
