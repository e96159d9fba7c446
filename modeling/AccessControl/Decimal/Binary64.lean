/-!
# Finite binary64 numbers, in exact arithmetic

A finite double is `± significand · 2 ^ exponent`. Every operation here is the exact rational
operation followed by one rounding to the nearest representable value, ties going to the even
significand, so that no statement about these numbers rests on machine arithmetic.

* `Binary64.nearest?` rounds a quotient of natural numbers.
* `Binary64.mul?` and `Binary64.div` multiply and divide.
* `Binary64.sameValue` compares by value: the two zeros are one value.
-/

namespace AccessControl.Decimal

/-- A finite double. The representation is normal: the significand lies below `2 ^ 53`, and below
`2 ^ 52` only with the least exponent, `-1074`. -/
structure Binary64 where
  negative : Bool
  significand : Nat
  exponent : Int
deriving DecidableEq, Repr

namespace Binary64

/-- The zero of the given sign. -/
def zero (negative : Bool) : Binary64 :=
  ⟨negative, 0, -1074⟩

/-- The number with the other sign. -/
def neg (x : Binary64) : Binary64 :=
  ⟨!x.negative, x.significand, x.exponent⟩

/-- Equality of values; zero has one value in both signs. -/
def sameValue (x y : Binary64) : Bool :=
  x.significand == y.significand && x.exponent == y.exponent &&
    (x.significand == 0 || x.negative == y.negative)

/-- The least significand with fifty-three bits, `2 ^ 52`. -/
def leastFull : Nat := 4503599627370496

/-- The fraction `num / den` divided by `2 ^ e`. -/
def scaled (num den : Nat) : Int → Nat × Nat
  | .ofNat k => (num, den <<< k)
  | .negSucc k => (num <<< (k + 1), den)

/-- The integer nearest to `num / den`; a half goes to the even neighbour. -/
def nearestEven (num den : Nat) : Nat :=
  let q := num / den
  let r := num % den
  if 2 * r < den then q else if den < 2 * r then q + 1 else q + q % 2

/-- The exponent at which `num / den` keeps fifty-three significant bits, but at least `-1074`. -/
def exponentFor (num den : Nat) : Int :=
  let guess : Int := (Nat.log2 num : Int) - (Nat.log2 den : Int) - 52
  let (n, d) := scaled num den guess
  max (if n / d < leastFull then guess - 1 else guess) (-1074)

/-- The double nearest to `± num / den`, or `none` when that lies beyond the finite doubles. -/
def nearest? (negative : Bool) (num den : Nat) : Option Binary64 :=
  if num = 0 then
    some (zero negative)
  else
    let e := exponentFor num den
    let (n, d) := scaled num den e
    let m := nearestEven n d
    let x : Binary64 := if m = 2 * leastFull then ⟨negative, leastFull, e + 1⟩ else ⟨negative, m, e⟩
    if 971 < x.exponent then none else some x

/-- The magnitude as a fraction of natural numbers. -/
def fraction (x : Binary64) : Nat × Nat :=
  match x.exponent with
  | .ofNat k => (x.significand <<< k, 1)
  | .negSucc k => (x.significand, 1 <<< (k + 1))

/-- The rounded product, `none` when it is too large. -/
def mul? (x y : Binary64) : Option Binary64 :=
  let (a, b) := x.fraction
  let (c, d) := y.fraction
  nearest? (x.negative != y.negative) (a * c) (b * d)

/-- The rounded quotient, `none` when it is too large. -/
def div? (x y : Binary64) : Option Binary64 :=
  let (a, b) := x.fraction
  let (c, d) := y.fraction
  nearest? (x.negative != y.negative) (a * d) (b * c)

/-- The double nearest to `10 ^ k`, for `k` up to 308. -/
def tenPow (k : Nat) : Binary64 :=
  (nearest? false (Nat.pow 10 k) 1).getD (zero false)

end Binary64

end AccessControl.Decimal
