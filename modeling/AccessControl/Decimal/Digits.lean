/-!
# Decimal digits of integers

The canonical decimal text of a natural number or an integer, and the value of a run of digits.
-/

namespace AccessControl.Decimal

/-- The value of one decimal digit. -/
def digitValue (c : Char) : Nat :=
  c.toNat - '0'.toNat

/-- The value of a run of decimal digits, the most significant first. -/
def value (cs : List Char) : Nat :=
  cs.foldl (fun n c => 10 * n + digitValue c) 0

/-- The decimal digits of a natural number, without leading zeros. -/
def ofNat (n : Nat) : List Char :=
  Nat.toDigits 10 n

/-- The decimal digits of an integer, after a `-` when it is negative. -/
def ofInt : Int → List Char
  | .ofNat n => ofNat n
  | .negSucc n => '-' :: ofNat (n + 1)

/-- The decimal digits of a natural number, filled with leading zeros to at least `width`. -/
def padded (width n : Nat) : List Char :=
  List.replicate (width - (ofNat n).length) '0' ++ ofNat n

/-- The text of a natural number. -/
def natText (n : Nat) : String :=
  String.ofList (ofNat n)

/-- The text of an integer. -/
def intText (n : Int) : String :=
  String.ofList (ofInt n)

end AccessControl.Decimal
