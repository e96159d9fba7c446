import AccessControl.Text.Basic

/-!
# Random UUIDs

A UUID of version 4 has 122 free bits; six bits say its version and variant. `Uuid.ofEntropy` puts
the low 122 bits of a number into the free places, so that different numbers below `2 ^ 122` make
different UUIDs.
-/

namespace AccessControl

open AccessControl.Text

/-- A UUID as a number of 128 bits. -/
structure Uuid where
  value : Nat
deriving DecidableEq, Repr

namespace Uuid

/-- The UUID of version 4 with the given free bits: 48 of them, the version, 12 more, the variant,
and the last 62. -/
def ofEntropy (bits : Nat) : Uuid :=
  let first := bits >>> 74 % 0x1000000000000
  let middle := bits >>> 62 % 0x1000
  let last := bits % 0x4000000000000000
  ⟨(((first * 16 + 4) * 0x1000 + middle) * 4 + 2) * 0x4000000000000000 + last⟩

/-- The 32 hexadecimal digits. -/
def digits (u : Uuid) : List Char :=
  hex 32 u.value

/-- The text without hyphens. -/
def simple (u : Uuid) : String :=
  String.ofList u.digits

/-- The text with hyphens after 8, 12, 16 and 20 digits. -/
def hyphenated (u : Uuid) : String :=
  let ds := u.digits
  String.ofList (ds.take 8 ++ '-' :: (ds.drop 8).take 4 ++ '-' :: (ds.drop 12).take 4 ++
    '-' :: (ds.drop 16).take 4 ++ '-' :: ds.drop 20)

/-- A digit of the text of a UUID. -/
def isDigit (c : Char) : Bool :=
  c.isDigit || ('a' ≤ c && c ≤ 'f')

/-- Whether the digits are those of a UUID of version 4. -/
def isRandom (ds : List Char) : Bool :=
  ds.length == 32 && ds.all isDigit && ds[12]? == some '4' &&
    (match ds[16]? with
      | some c => c == '8' || c == '9' || c == 'a' || c == 'b'
      | none => false)

end Uuid

end AccessControl
