import AccessControl.Calendar.Timestamp
import AccessControl.Decimal.Digits
import AccessControl.Text.Basic

/-!
# Timestamps as text

Timestamps are written in the canonical form of RFC 3339: in UTC with `Z`, with no fraction or with
3, 6 or 9 fraction digits, whichever is the shortest that loses nothing. Years outside 0 to 9999
carry a sign, and a leap second is written as second 60.

Reading is lenient. A signed year may have any number of digits; numbers may be shorter than usual
and follow blanks; date and time are parted by `T`, `t` or one blank space; digits of a fraction
after the ninth are dropped; the offset is `Z`, `z`, `UTC` in any case, or a sign and hours and
minutes, parted by any colons and blanks, where the sign may be U+2212.
-/

namespace AccessControl.Calendar

open AccessControl.Decimal
open AccessControl.Text

namespace Timestamp

/-! ## Writing -/

/-- The year, with a sign outside 0 to 9999. -/
def yearText (year : Int) : List Char :=
  if 0 ≤ year ∧ year ≤ 9999 then padded 4 year.toNat
  else (if year < 0 then '-' else '+') :: padded 4 year.natAbs

/-- The fraction of a second, with its point, or nothing. -/
def fractionText (nanos : Nat) : List Char :=
  if nanos = 0 then []
  else if nanos % 1000000 = 0 then '.' :: padded 3 (nanos / 1000000)
  else if nanos % 1000 = 0 then '.' :: padded 6 (nanos / 1000)
  else '.' :: padded 9 nanos

/-- The text whose fraction of a second, given in nanoseconds, is written in a given way. -/
def renderWith (fraction : Nat → List Char) (t : Timestamp) : List Char :=
  let date := Date.ofDays (t.seconds / 86400)
  let ofDay := (t.seconds % 86400).toNat
  let leap := t.nanos / 1000000000
  yearText date.year ++ '-' :: padded 2 date.month ++ '-' :: padded 2 date.day ++
    'T' :: padded 2 (ofDay / 3600) ++ ':' :: padded 2 (ofDay / 60 % 60) ++
    ':' :: padded 2 (ofDay % 60 + leap) ++ fraction (t.nanos % 1000000000) ++ ['Z']

/-- The canonical text. -/
def render (t : Timestamp) : List Char :=
  t.renderWith fractionText

/-- The canonical text. -/
def text (t : Timestamp) : String :=
  String.ofList t.render

/-! ## Reading -/

/-- Takes at least one and at most `most` digits. -/
def takeDigits? (most : Nat) (cs : List Char) : Option (List Char × List Char) :=
  let ds := (cs.take most).takeWhile Char.isDigit
  if ds.isEmpty then none else some (ds, cs.drop ds.length)

/-- Takes blanks and a number of at most two digits. -/
def takeNumber? (cs : List Char) : Option (Nat × List Char) := do
  let (ds, rest) ← takeDigits? 2 (trimStart cs)
  return (value ds, rest)

/-- Takes blanks and a year, of any length after a sign. -/
def takeYear? (cs : List Char) : Option (Int × List Char) :=
  match trimStart cs with
  | '-' :: rest => do
    let (ds, rest) ← takeDigits? rest.length rest
    return (-(value ds : Int), rest)
  | '+' :: rest => do
    let (ds, rest) ← takeDigits? rest.length rest
    return (value ds, rest)
  | cs => do
    let (ds, rest) ← takeDigits? 4 cs
    return (value ds, rest)

/-- Takes blanks and one given character. -/
def takeMark? (c : Char) (cs : List Char) : Option (List Char) :=
  match trimStart cs with
  | d :: rest => if d = c then some rest else none
  | [] => none

/-- Takes one given character or one of its variants. -/
def takeSeparator? : List Char → Option (List Char)
  | c :: rest => if c = 't' ∨ c = 'T' ∨ c = ' ' then some rest else none
  | [] => none

/-- Takes a fraction of a second if there is one, as nanoseconds. -/
def takeFraction? : List Char → Option (Nat × List Char)
  | '.' :: cs => do
    let (ds, rest) ← takeDigits? 9 cs
    return (value (ds ++ List.replicate (9 - ds.length) '0'), rest.dropWhile Char.isDigit)
  | cs => some (0, cs)

/-- Two decimal digits. -/
def takeTwoDigits? : List Char → Option (Nat × List Char)
  | a :: b :: rest => if a.isDigit ∧ b.isDigit then some (value [a, b], rest) else none
  | _ => none

/-- Takes an offset from UTC, in seconds. -/
def takeOffset? (cs : List Char) : Option (Int × List Char) :=
  if (cs.take 3).map Char.toUpper = ['U', 'T', 'C'] then
    some (0, cs.drop 3)
  else
    match cs with
    | [] => none
    | c :: rest =>
      if c = 'Z' ∨ c = 'z' then
        some (0, rest)
      else if c = '+' ∨ c = '-' ∨ c = '\u2212' then do
        let (hours, rest) ← takeTwoDigits? rest
        let (minutes, rest) ← takeTwoDigits? (rest.dropWhile fun d => d = ':' || isBlank d)
        if 60 ≤ minutes then none
        let seconds : Int := (hours * 3600 + minutes * 60 : Nat)
        return (if c = '+' then seconds else -seconds, rest)
      else
        none

/-- The timestamp of a date, a time of day and an offset, if all of them are in range. -/
def ofParts? (date : Date) (hour minute second nanos : Nat) (offset : Int) : Option Timestamp :=
  if date.Valid ∧ firstYear ≤ date.year ∧ date.year ≤ lastYear ∧ hour ≤ 23 ∧ minute ≤ 59 ∧
      second ≤ 60 ∧ -86400 < offset ∧ offset < 86400 then
    let ofDay : Nat := hour * 3600 + minute * 60 + min second 59
    let seconds := date.toDays * 86400 + ofDay - offset
    if h : firstSecond ≤ seconds ∧ seconds ≤ lastSecond ∧ nanos < 1000000000 then
      some ⟨seconds, if second = 60 then nanos + 1000000000 else nanos, by split <;> omega⟩
    else
      none
  else
    none

/-- Reads a timestamp from characters. -/
def ofChars? (cs : List Char) : Option Timestamp := do
  let (year, cs) ← takeYear? cs
  let (month, cs) ← takeNumber? (← takeMark? '-' cs)
  let (day, cs) ← takeNumber? (← takeMark? '-' cs)
  let (hour, cs) ← takeNumber? (← takeSeparator? cs)
  let (minute, cs) ← takeNumber? (← takeMark? ':' cs)
  let (second, cs) ← takeNumber? (← takeMark? ':' cs)
  let (nanos, cs) ← takeFraction? cs
  let (offset, cs) ← takeOffset? (trimStart cs)
  if cs.all isBlank then ofParts? ⟨year, month, day⟩ hour minute second nanos offset else none

/-- Reads a timestamp from a whole text. -/
def ofText? (text : String) : Option Timestamp :=
  ofChars? text.toList

end Timestamp

end AccessControl.Calendar
