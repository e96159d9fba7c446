import AccessControl.Decimal.Binary64
import AccessControl.Decimal.Digits

/-!
# The shortest decimal that reads back

A double is written with the fewest significant digits that still round to it, and of the decimals
with that many digits the nearest one is taken. The search goes through the decimal grids of 1, 2,
… 17 significant digits; on each it is enough to look at the two neighbours of the exact value,
because a grid that meets the interval of numbers rounding to the double has one of them in it.

`Style` holds the choices of a written form: where positional notation ends, and how an exponent is
spelled.
-/

namespace AccessControl.Decimal

/-- The decimal number `digits · 10 ^ scale`. -/
structure Digits where
  digits : Nat
  scale : Int
deriving DecidableEq, Repr

namespace Binary64

/-- The power of ten of the leading digit of `num / den`. -/
def leadingPower (num den : Nat) : Int :=
  if den ≤ num then ((ofNat (num / den)).length : Int) - 1
  else -((ofNat ((den - 1) / num)).length : Int)

/-- Whether `n / d` lies among the numbers that round to `x`, ends included when the significand is
even. The interval reaches half a step to either side, and half as far below a power of two. -/
def roundsFrom (x : Binary64) (n d : Nat) : Bool :=
  let (a, b) := x.fraction
  let (one, _) := fraction ⟨false, 1, x.exponent⟩
  let low :=
    if x.significand = leastFull && -1074 < x.exponent then 4 * a - one else 4 * a - 2 * one
  let high := 4 * a + 2 * one
  if x.significand % 2 = 0 then
    low * d ≤ 4 * b * n && 4 * b * n ≤ high * d
  else
    low * d < 4 * b * n && 4 * b * n < high * d

/-- The nearest neighbour of `x` on the grid of `count` significant digits, if one rounds to `x`;
of two equally near ones the even one. -/
def onGrid? (x : Binary64) (count : Nat) : Option Digits :=
  let (a, b) := x.fraction
  let power := leadingPower a b
  let shift : Int := (count : Int) - 1 - power
  let up := Nat.pow 10 shift.toNat
  let down := Nat.pow 10 (-shift).toNat
  let n := a * up
  let d := b * down
  let low := n / d
  let lowOk := x.roundsFrom (low * down) up
  let highOk := x.roundsFrom ((low + 1) * down) up
  let near := nearestEven n d
  if lowOk && highOk then some ⟨near, -shift⟩
  else if lowOk then some ⟨low, -shift⟩
  else if highOk then some ⟨low + 1, -shift⟩
  else none

/-- The fewest significant digits that read back, of at most seventeen. -/
def shortest (x : Binary64) : Digits :=
  ((List.range 17).findSome? fun k => x.onGrid? (k + 1)).getD ⟨0, 0⟩

end Binary64

/-- The choices of a written form. -/
structure Style where
  /-- Leading powers below this one are written with an exponent. -/
  positionalFrom : Int
  /-- Leading powers from this one on are written with an exponent. -/
  positionalBelow : Int
  /-- What stands before the digits of an exponent that is not negative. -/
  exponentMark : List Char

namespace Style

/-- The digits `ds` with a point after the first `n`, filled with zeros, and at least one digit on
either side of the point. -/
def positional (ds : List Char) (power : Int) : List Char :=
  match power with
  | .ofNat p =>
    let whole := ds.take (p + 1) ++ List.replicate (p + 1 - ds.length) '0'
    let rest := ds.drop (p + 1)
    whole ++ '.' :: (if rest.isEmpty then ['0'] else rest)
  | .negSucc p => '0' :: '.' :: (List.replicate p '0' ++ ds)

/-- One digit, a point and the others if there are any, and the exponent. -/
def scientific (style : Style) (ds : List Char) (power : Int) : List Char :=
  let mantissa := match ds with
    | d :: e :: rest => d :: '.' :: e :: rest
    | _ => ds
  mantissa ++ 'e' :: (if power < 0 then ofInt power else style.exponentMark ++ ofInt power)

/-- The written form of a double. -/
def render (style : Style) (x : Binary64) : List Char :=
  let sign := if x.negative then ['-'] else []
  if x.significand = 0 then
    sign ++ "0.0".toList
  else
    let found := x.shortest
    let plain := ofNat found.digits
    let ds := (plain.reverse.dropWhile (· == '0')).reverse
    let power := found.scale + (plain.length : Int) - 1
    if style.positionalFrom ≤ power && power < style.positionalBelow then
      sign ++ positional ds power
    else
      sign ++ style.scientific ds power

end Style

end AccessControl.Decimal
