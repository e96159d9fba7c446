import AccessControl.Decimal.Shortest
import AccessControl.Json.Value
import AccessControl.Text.Basic

/-!
# Compact JSON text

Values are written without spaces, entries in their order. In a string the quotation mark, the
backslash and the control characters below U+0020 are escaped, everything else stands for itself.
Doubles are written with the fewest digits that read back.
-/

namespace AccessControl.Json

open AccessControl.Decimal
open AccessControl.Text

/-- Doubles from `1e-5` to below `1e16` are positional; the exponent of larger ones has a `+`. -/
def doubleStyle : Style :=
  ⟨-5, 16, ['+']⟩

/-- A character inside a string. -/
def escape (c : Char) : List Char :=
  if c = '"' then ['\\', '"']
  else if c = '\\' then ['\\', '\\']
  else if c = '\n' then ['\\', 'n']
  else if c = '\r' then ['\\', 'r']
  else if c = '\t' then ['\\', 't']
  else if c.toNat = 8 then ['\\', 'b']
  else if c.toNat = 12 then ['\\', 'f']
  else if c.toNat < 32 then ['\\', 'u', '0', '0', hexDigit (c.toNat / 16), hexDigit (c.toNat % 16)]
  else [c]

/-- A string between its quotation marks. -/
def quote (s : String) : List Char :=
  '"' :: (s.toList.flatMap escape ++ ['"'])

/-- The text of a number. -/
def Number.render : Number → List Char
  | .integer n => ofInt n
  | .double x => doubleStyle.render x

mutual

/-- The text of a value. -/
def Value.render : Value → List Char
  | .null => ['n', 'u', 'l', 'l']
  | .bool true => ['t', 'r', 'u', 'e']
  | .bool false => ['f', 'a', 'l', 's', 'e']
  | .number n => n.render
  | .string s => quote s
  | .array [] => ['[', ']']
  | .array (x :: xs) => '[' :: (x.render ++ renderItems xs)
  | .object [] => ['{', '}']
  | .object ((k, x) :: xs) => '{' :: (quote k ++ ':' :: (x.render ++ renderEntries xs))

/-- The further items of an array and its end. -/
def renderItems : List Value → List Char
  | [] => [']']
  | x :: xs => ',' :: (x.render ++ renderItems xs)

/-- The further entries of an object and its end. -/
def renderEntries : List (String × Value) → List Char
  | [] => ['}']
  | (k, x) :: xs => ',' :: (quote k ++ ':' :: (x.render ++ renderEntries xs))

end

/-- The compact text of a value. -/
def Value.text (v : Value) : String :=
  String.ofList v.render

/-- Values with a JSON form. -/
class ToJson (α : Type) where
  toJson : α → Value

export ToJson (toJson)

instance : ToJson Value := ⟨id⟩
instance : ToJson String := ⟨.string⟩
instance : ToJson Bool := ⟨.bool⟩
instance : ToJson Nat := ⟨fun n => .number (.integer n)⟩
instance : ToJson Int := ⟨fun n => .number (.integer n)⟩
instance {α : Type} [ToJson α] : ToJson (List α) := ⟨fun xs => .array (xs.map toJson)⟩

end AccessControl.Json
