import AccessControl.Decimal.Digits
import AccessControl.Text.Basic

/-!
# Values of settings

A setting is read from the text of a variable without the blanks at its ends. Integers are decimal,
with an optional sign; an unsigned integer may have a `+` only. The digits are looked at from left
to right, and the first fault counts: a character that is no digit, or a digit that leads out of
range.
-/

namespace AccessControl.Settings

open AccessControl.Decimal
open AccessControl.Text

/-- Why a text is no value of its type. -/
inductive ValueError where
  | emptyInteger
  | invalidDigit
  | tooLarge
  | tooSmall
  | notBoolean
  | unusableLifetime (seconds : Int)
deriving DecidableEq, Repr

/-- What is told of the failure. -/
def ValueError.message : ValueError → String
  | .emptyInteger => "cannot parse integer from empty string"
  | .invalidDigit => "invalid digit found in string"
  | .tooLarge => "number too large to fit in target type"
  | .tooSmall => "number too small to fit in target type"
  | .notBoolean => "provided string was not `true` or `false`"
  | .unusableLifetime seconds => intText seconds ++ " is not a usable key lifetime in seconds"

/-- Reads digits behind a magnitude read so far, up to a greatest magnitude. -/
def magnitude (most : Nat) (beyond : ValueError) : Nat → List Char → Except ValueError Nat
  | n, [] => .ok n
  | n, c :: cs =>
    if c.isDigit then
      let m := 10 * n + digitValue c
      if most < m then .error beyond else magnitude most beyond m cs
    else
      .error .invalidDigit

/-- Reads at least one digit. -/
def digits (most : Nat) (beyond : ValueError) : List Char → Except ValueError Nat
  | [] => .error .invalidDigit
  | c :: cs => magnitude most beyond 0 (c :: cs)

/-- Reads an integer from `-below` to `above`; without negative values a `-` is no digit. -/
def integer (below above : Nat) : List Char → Except ValueError Int
  | [] => .error .emptyInteger
  | '+' :: cs => (digits above .tooLarge cs).map Int.ofNat
  | '-' :: cs =>
    if below = 0 then .error .invalidDigit
    else (digits below .tooSmall cs).map fun n => -Int.ofNat n
  | cs => (digits above .tooLarge cs).map Int.ofNat

/-- A type of settings: how a value is read and written. -/
structure Kind (α : Type) where
  parse : List Char → Except ValueError α
  render : α → List Char

/-- Integers from `-below` to `above`. -/
def Kind.integers (below above : Nat) : Kind Int where
  parse := integer below above
  render := ofInt

/-- Unsigned integers of 64 bits. -/
def Kind.unsigned64 : Kind Int :=
  .integers 0 (UInt64.size - 1)

/-- Unsigned integers of 8 bits. -/
def Kind.unsigned8 : Kind Int :=
  .integers 0 255

/-- Signed integers of 64 bits. -/
def Kind.signed64 : Kind Int :=
  .integers (UInt64.size / 2) (UInt64.size / 2 - 1)

/-- Truth values, written in lower case. -/
def Kind.boolean : Kind Bool where
  parse cs :=
    if cs = "true".toList then .ok true
    else if cs = "false".toList then .ok false
    else .error .notBoolean
  render b := (if b then "true" else "false").toList

/-- Any text. -/
def Kind.text : Kind String where
  parse cs := .ok (String.ofList cs)
  render := String.toList

end AccessControl.Settings
