import AccessControl.Text.Basic

/-!
# Percent encoding and forms

A byte is written as `%` and two hexadecimal digits in upper case. Encoding keeps some characters as
they are and writes the UTF-8 bytes of all others; decoding takes digits of either case and leaves a
`%` alone that no two digits follow.

A form is a list of `name=value` pairs between `&`. A space is written as `+` there; letters,
digits, `*`, `-`, `.` and `_` stand for themselves, and the bytes of everything else are
percent-encoded.
-/

namespace AccessControl.Http

open AccessControl.Text

/-- The text of a byte. -/
def percentByte (b : UInt8) : List Char :=
  ['%', upperHexDigit (b.toNat / 16), upperHexDigit (b.toNat % 16)]

/-- A character, or its bytes unless it is kept. -/
def percentChar (keeps : Char → Bool) (c : Char) : List Char :=
  if keeps c then [c] else (String.utf8EncodeChar c).flatMap percentByte

/-- A text in which only some characters stand for themselves. -/
def percentEncode (keeps : Char → Bool) (cs : List Char) : List Char :=
  cs.flatMap (percentChar keeps)

/-- The bytes of a text. -/
def percentDecode : List Char → List UInt8
  | [] => []
  | '%' :: h :: l :: cs =>
    match hexValue? h, hexValue? l with
    | some h, some l => UInt8.ofNat (16 * h + l) :: percentDecode cs
    | _, _ => String.utf8EncodeChar '%' ++ percentDecode (h :: l :: cs)
  | c :: cs => String.utf8EncodeChar c ++ percentDecode cs

/-! ## Forms -/

namespace Form

/-- Whether a character stands for itself. -/
def isPlain (c : Char) : Bool :=
  c.isAlphanum || c == '*' || c == '-' || c == '.' || c == '_'

/-- A name or a value. -/
def encodePart (cs : List Char) : List Char :=
  cs.flatMap fun c => if c = ' ' then ['+'] else percentChar isPlain c

/-- A pair. -/
def encodePair (pair : List Char × List Char) : List Char :=
  encodePart pair.1 ++ '=' :: encodePart pair.2

/-- A list of pairs. -/
def encode (pairs : List (List Char × List Char)) : List Char :=
  ['&'].intercalate (pairs.map encodePair)

end Form

end AccessControl.Http
