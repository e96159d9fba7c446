import AccessControl.Decimal.Digits
import AccessControl.Json.Value
import AccessControl.Text.Basic

/-!
# Reading JSON text

A `Reader` takes what it needs from the front of a text and leaves the rest. Reading stops at the
first fault, and there are three kinds:

* `Fault.truncated`: the text ends inside a value;
* `Fault.malformed`: the text is no JSON, holds a number beyond the doubles, or nests too deeply;
* `Fault.shape`: the text is JSON so far, but not of the shape that was asked for.

A value that is built may be nested in at most `maxNesting` containers; a value that is skipped may
be nested without limit, and inside it surrogate pairs and the size of numbers are not checked.

## Numbers

An integer that fits sixty-four bits is exact. For any other number the digits are gathered while
they fit sixty-four bits, and the gathered integer is rounded to a double and then multiplied or
divided by a rounded power of ten; the result can differ in its last bit from the nearest double.
-/

namespace AccessControl.Json

open AccessControl.Decimal
open AccessControl.Text

/-- Why a text is refused. -/
inductive Fault where
  | shape
  | malformed
  | truncated
deriving DecidableEq, Repr

/-- A step of reading: it takes from the front of the text, and fails at the first fault. -/
abbrev Reader (α : Type) := StateT (List Char) (Except Fault) α

/-- Containers that may be open around a value that is built. -/
def maxNesting : Nat := 127

namespace Reader

variable {α σ κ : Type}

/-- Stops with a fault. -/
def fail (fault : Fault) : Reader α :=
  fun _ => .error fault

/-- Blanks between the parts of a text. -/
def isGap (c : Char) : Bool :=
  c = ' ' || c = '\n' || c = '\t' || c = '\r'

/-- Skips blanks and shows the next character without taking it. -/
def look : Reader Char := fun cs =>
  match cs.dropWhile isGap with
  | [] => .error .truncated
  | c :: rest => .ok (c, c :: rest)

/-- The next character as it stands, if there is one, without taking it. -/
def peek : Reader (Option Char) := fun cs =>
  .ok (cs.head?, cs)

/-- Takes the next character as it stands. -/
def take : Reader Char := fun cs =>
  match cs with
  | [] => .error .truncated
  | c :: rest => .ok (c, rest)

/-- Takes the longest run of decimal digits. -/
def digits : Reader (List Char) := fun cs =>
  .ok (cs.takeWhile Char.isDigit, cs.dropWhile Char.isDigit)

/-- Takes exactly these characters. -/
def literal : List Char → Reader Unit
  | [] => pure ()
  | c :: cs => do
    if (← take) = c then literal cs else fail .malformed

/-! ## Strings -/

/-- The value of four hexadecimal digits. -/
def hexValue4? : List Char → Option Nat
  | [a, b, c, d] => do
    return 4096 * (← hexValue? a) + 256 * (← hexValue? b) + 16 * (← hexValue? c) + (← hexValue? d)
  | _ => none

/-- Takes four hexadecimal digits; the text must still hold four bytes. -/
def hex4 : Reader Nat := fun cs =>
  if (cs.take 4).foldr (fun c n => c.utf8Size + n) 0 < 4 then
    .error .truncated
  else
    match hexValue4? (cs.take 4) with
    | some n => .ok (n, cs.drop 4)
    | none => .error .malformed

/-- The character that a one-letter escape stands for. -/
def shortEscape? (c : Char) : Option Char :=
  if c = '"' ∨ c = '\\' ∨ c = '/' then some c
  else if c = 'b' then some '\x08'
  else if c = 'f' then some '\x0c'
  else if c = 'n' then some '\n'
  else if c = 'r' then some '\r'
  else if c = 't' then some '\t'
  else none

/-- Takes what follows `\u`: one code unit, or two that form a surrogate pair. -/
def codePoint : Reader Char := do
  let high ← hex4
  if 0xDC00 ≤ high ∧ high ≤ 0xDFFF then
    fail .malformed
  else if 0xD800 ≤ high ∧ high ≤ 0xDBFF then
    if (← take) ≠ '\\' then fail .malformed
    else if (← take) ≠ 'u' then fail .malformed
    else
      let low ← hex4
      if 0xDC00 ≤ low ∧ low ≤ 0xDFFF then
        return Char.ofNat (0x10000 + 0x400 * (high - 0xD800) + (low - 0xDC00))
      else
        fail .malformed
  else
    return Char.ofNat high

/-- Takes what follows a backslash. -/
def escaped : Reader Char := do
  let c ← take
  if c = 'u' then
    codePoint
  else
    match shortEscape? c with
    | some d => return d
    | none => fail .malformed

/-- Takes the characters of a string up to and with its closing quotation mark. The first argument
bounds their number. -/
def stringRest : Nat → Reader (List Char)
  | 0 => fail .truncated
  | n + 1 => do
    let c ← take
    if c = '"' then
      return []
    else if c = '\\' then
      let d ← escaped
      return d :: (← stringRest n)
    else if c.toNat < 32 then
      fail .malformed
    else
      return c :: (← stringRest n)

/-- Takes a string whose opening quotation mark comes next. -/
def quoted : Reader String := do
  let _ ← take
  let cs ← get
  return String.ofList (← stringRest (cs.length + 1))

/-- Skips the characters of a string up to and with its closing quotation mark. -/
def skipStringRest : Nat → Reader Unit
  | 0 => fail .truncated
  | n + 1 => do
    let c ← take
    if c = '"' then
      return ()
    else if c = '\\' then
      let d ← take
      if d = 'u' then
        let _ ← hex4
        skipStringRest n
      else if (shortEscape? d).isSome then
        skipStringRest n
      else
        fail .malformed
    else if c.toNat < 32 then
      fail .malformed
    else
      skipStringRest n

/-- Skips a string whose opening quotation mark comes next. -/
def skipQuoted : Reader Unit := do
  let _ ← take
  let cs ← get
  skipStringRest (cs.length + 1)

/-! ## Numbers -/

/-- The gathered digits of a number still fit sixty-four bits with this one more. -/
def fitsWith (significand : Nat) (c : Char) : Bool :=
  10 * significand + digitValue c < UInt64.size

/-- Gathers leading digits while the result fits sixty-four bits: the result, and the digits
left. -/
def gather : Nat → List Char → Nat × List Char
  | significand, [] => (significand, [])
  | significand, c :: cs =>
    if fitsWith significand c then gather (10 * significand + digitValue c) cs
    else (significand, c :: cs)

/-- Divides by `1e308` until the exponent is at least `-308` or the number is zero; the first
argument bounds the steps. -/
def scaleDown : Nat → Binary64 → Int → Binary64 × Int
  | 0, x, e => (x, e)
  | n + 1, x, e =>
    if -308 ≤ e ∨ x.significand = 0 then (x, e)
    else scaleDown n ((x.div? (Binary64.tenPow 308)).getD x) (e + 308)

/-- The double for `significand · 10 ^ exponent`, `none` when it is too large. -/
def assemble? (significand : Nat) (exponent : Int) : Option Binary64 :=
  match Binary64.nearest? false significand 1 with
  | none => none
  | some x =>
    if 308 < exponent then
      if x.significand = 0 then some x else none
    else if 0 ≤ exponent then
      x.mul? (Binary64.tenPow exponent.toNat)
    else
      let (y, e) := scaleDown 4 x exponent
      if y.significand = 0 then some y else y.div? (Binary64.tenPow (-e).toNat)

/-- The double with its sign, or a fault when it is too large. -/
def finish (negative : Bool) (significand : Nat) (exponent : Int) : Reader Number :=
  match assemble? significand exponent with
  | some x => return .double (if negative then x.neg else x)
  | none => fail .malformed

/-- The largest exponent that is told from all larger ones. -/
def maxExponent : Nat := 2147483647

/-- Takes an exponent after its `e`, and puts the number together. -/
def exponentPart (negative : Bool) (significand : Nat) (exponent : Int) : Reader Number := do
  let _ ← take
  let sign ← peek
  if sign = some '+' ∨ sign = some '-' then
    let _ ← take
  let c ← take
  if c.isDigit then
    let rest ← digits
    let shift := value (c :: rest)
    if maxExponent < shift then
      if significand ≠ 0 ∧ sign ≠ some '-' then fail .malformed
      else return .double (Binary64.zero negative)
    else if sign = some '-' then
      finish negative significand (exponent - shift)
    else
      finish negative significand (exponent + shift)
  else
    fail .malformed

/-- Takes an exponent if there is one, and puts the number together. -/
def exponentIfAny (negative : Bool) (significand : Nat) (exponent : Int) : Reader Number := do
  let c ← peek
  if c = some 'e' ∨ c = some 'E' then
    exponentPart negative significand exponent
  else
    finish negative significand exponent

/-- Takes a fraction with its point, and what follows it. Digits that no longer fit are dropped. -/
def fractionPart (negative : Bool) (significand : Nat) (exponent : Int) : Reader Number := do
  let _ ← take
  let ds ← digits
  if ds.isEmpty then
    match ← peek with
    | none => fail .truncated
    | some _ => fail .malformed
  else
    let (gathered, left) := gather significand ds
    exponentIfAny negative gathered (exponent - ((ds.length - left.length : Nat) : Int))

/-- The integer `± significand`; minus zero and what lies beyond sixty-four bits are doubles. -/
def wholeNumber (negative : Bool) (significand : Nat) : Reader Number :=
  if negative then
    if significand ≠ 0 ∧ 2 * significand ≤ UInt64.size then return .integer (-significand)
    else finish negative significand 0
  else
    return .integer significand

/-- Takes a number after its sign. -/
def unsignedNumber (negative : Bool) : Reader Number := do
  let c ← take
  if c.isDigit then
    let next ← peek
    if c = '0' ∧ (next.map Char.isDigit).getD false then
      fail .malformed
    else
      let ds ← digits
      let (significand, left) := gather (digitValue c) ds
      let exponent : Int := left.length
      match ← peek with
      | some '.' => fractionPart negative significand exponent
      | some 'e' | some 'E' => exponentPart negative significand exponent
      | _ =>
        if left.isEmpty then wholeNumber negative significand
        else finish negative significand exponent
  else
    fail .malformed

/-- Takes a number. -/
def number : Reader Number := do
  match ← peek with
  | some '-' => do
    let _ ← take
    unsignedNumber true
  | _ => unsignedNumber false

/-- Takes a digit that has to be there. -/
def skipDigit : Reader Unit := do
  match ← peek with
  | some c => if c.isDigit then let _ ← take else fail .malformed
  | none => fail .malformed

/-- Skips an exponent if there is one. -/
def skipExponent : Reader Unit := do
  let c ← peek
  if c = some 'e' ∨ c = some 'E' then
    let _ ← take
    let sign ← peek
    if sign = some '+' ∨ sign = some '-' then
      let _ ← take
    skipDigit
    let _ ← digits

/-- Skips a number. -/
def skipNumber : Reader Unit := do
  if (← peek) = some '-' then
    let _ ← take
  let first ← peek
  skipDigit
  let next ← peek
  if first = some '0' ∧ (next.map Char.isDigit).getD false then
    fail .malformed
  else
    let _ ← digits
    if (← peek) = some '.' then
      let _ ← take
      skipDigit
      let _ ← digits
    skipExponent

/-! ## Containers -/

/-- Whether another part follows in a container; its closing character is taken, and so is the
comma before the next part. -/
def another (close : Char) (first : Bool) : Reader Bool := do
  let c ← look
  if c = close then
    let _ ← take
    return false
  else if first then
    return true
  else if c = ',' then
    let _ ← take
    if (← look) = close then fail .malformed else return true
  else
    fail .malformed

/-- Takes the items of an array after its `[`. The first argument bounds their number. -/
def items (item : Reader α) : Nat → Bool → Reader (List α)
  | 0, _ => fail .truncated
  | n + 1, first => do
    if ← another ']' first then
      let x ← item
      return x :: (← items item n false)
    else
      return []

/-- Takes an array whose `[` comes next. -/
def list (item : Reader α) : Reader (List α) := do
  let _ ← take
  let cs ← get
  items item (cs.length + 1) true

/-- Takes the colon between a key and its value. -/
def colon : Reader Unit := do
  if (← look) = ':' then
    let _ ← take
  else
    fail .malformed

/-- Takes the entries of an object after its opening brace, passing each key to `entry`. -/
def entries (key : Reader κ) (entry : κ → σ → Reader σ) : Nat → Bool → σ → Reader σ
  | 0, _, _ => fail .truncated
  | n + 1, first, s => do
    if ← another '}' first then
      if (← look) = '"' then
        let k ← key
        entries key entry n false (← entry k s)
      else
        fail .malformed
    else
      return s

/-- Takes an object whose opening brace comes next. -/
def fold (key : Reader κ) (entry : κ → σ → Reader σ) (start : σ) : Reader σ := do
  let _ ← take
  let cs ← get
  entries key entry (cs.length + 1) true start

/-! ## Values -/

/-- Skips a value. The first argument bounds the nesting, which the length of the text does too. -/
def skipNested : Nat → Reader Unit
  | 0 => fail .truncated
  | n + 1 => do
    let c ← look
    if c = '[' then
      let _ ← list (skipNested n)
    else if c = '{' then
      fold skipQuoted (fun _ _ => do colon; skipNested n) ()
    else if c = '"' then
      skipQuoted
    else if c = 'n' then
      literal ['n', 'u', 'l', 'l']
    else if c = 't' then
      literal ['t', 'r', 'u', 'e']
    else if c = 'f' then
      literal ['f', 'a', 'l', 's', 'e']
    else if c = '-' ∨ c.isDigit then
      skipNumber
    else
      fail .malformed

/-- Skips a value. -/
def skip : Reader Unit := do
  let cs ← get
  skipNested (cs.length + 1)

/-- Takes a value that is no container and whose first character comes next. -/
def scalar (c : Char) : Reader Value :=
  if c = '"' then
    return .string (← quoted)
  else if c = 'n' then do
    literal ['n', 'u', 'l', 'l']
    return .null
  else if c = 't' then do
    literal ['t', 'r', 'u', 'e']
    return .bool true
  else if c = 'f' then do
    literal ['f', 'a', 'l', 's', 'e']
    return .bool false
  else if c = '-' ∨ c.isDigit then
    return .number (← number)
  else
    fail .malformed

/-- Takes a value of any kind, at most `n` containers deep. The last value under a key wins, and
keys come out sorted. -/
def value : Nat → Reader Value
  | 0 => do
    let c ← look
    scalar c
  | n + 1 => do
    let c ← look
    if c = '[' then
      return .array (← list (value n))
    else if c = '{' then
      return .object (← fold quoted (fun k es => do
        colon
        return Entries.insert k (← value n) es) [])
    else
      scalar c

/-- Reports a value of another kind than the one asked for; a fault inside a scalar comes first. -/
def mismatch : Reader α := do
  let c ← look
  if c = '[' ∨ c = '{' then
    fail .shape
  else
    let _ ← scalar c
    fail .shape

/-- Reads a whole text: after the value only blanks may follow. -/
def run (reader : Reader α) (text : String) : Except Fault α :=
  match reader text.toList with
  | .error fault => .error fault
  | .ok (x, rest) => if rest.all isGap then .ok x else .error .malformed

end Reader

/-- Reads one JSON value from a whole text. -/
def Value.ofText (text : String) : Except Fault Value :=
  (Reader.value maxNesting).run text

end AccessControl.Json
