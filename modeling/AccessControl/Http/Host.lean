import AccessControl.Decimal.Digits
import AccessControl.Http.Percent

/-!
# Hosts

A host is a domain, or an address of version 4 or 6. A text whose last label is a number is read as
an address of version 4, whose parts may be decimal, octal or hexadecimal, and whose last part may
stand for several bytes; an address of version 6 stands in square brackets.

Domains are percent-decoded and put in lower case. Those with characters beyond ASCII are taken as
they are.
-/

namespace AccessControl.Http

open AccessControl.Decimal
open AccessControl.Text

/-- A host. -/
inductive Host where
  | domain (name : List Char)
  | ipv4 (address : Nat)
  /-- Eight pieces of sixteen bits. -/
  | ipv6 (pieces : List Nat)
deriving DecidableEq, Repr

namespace Host

/-! ## Addresses of version 4 -/

/-- The value of digits in a base. -/
def digits? (base : Nat) (cs : List Char) : Option Nat :=
  cs.foldlM (fun n c => do
    let d ← hexValue? c
    if d < base then some (base * n + d) else none) 0

/-- The value of a part of an address. -/
def part? : List Char → Option Nat
  | [] => none
  | '0' :: 'x' :: cs => digits? 16 cs
  | '0' :: 'X' :: cs => digits? 16 cs
  | '0' :: c :: cs => digits? 8 (c :: cs)
  | cs => digits? 10 cs

/-- The labels of a domain, without an empty one at the end. -/
def labels (name : List Char) : List (List Char) :=
  match (name.splitOn '.').reverse with
  | [] :: l :: ls => (l :: ls).reverse
  | ls => ls.reverse

/-- Whether the last label is a number. -/
def endsInNumber (name : List Char) : Bool :=
  match (labels name).getLast? with
  | some l => (!l.isEmpty && l.all Char.isDigit) || (part? l).isSome
  | none => false

/-- The address of up to four parts: each is a byte, but the last fills what is left. -/
def joinParts? : Nat → List Nat → Option Nat
  | _, [] => none
  | left, [n] => if n < 1 <<< (8 * left) then some n else none
  | left, n :: ns =>
    if n < 256 then (joinParts? (left - 1) ns).map (n <<< (8 * (left - 1)) + ·) else none

/-- Reads an address. -/
def ipv4? (name : List Char) : Option Nat := do
  let parts ← (labels name).mapM part?
  if parts.length ≤ 4 then joinParts? 4 parts else none

/-! ## Addresses of version 6 -/

/-- A piece of one to four hexadecimal digits. -/
def piece? (cs : List Char) : Option Nat :=
  if cs.isEmpty ∨ 4 < cs.length then none else digits? 16 cs

/-- A byte in decimal, without leading zeros. -/
def byte? (cs : List Char) : Option Nat :=
  if cs.isEmpty ∨ 3 < cs.length ∨ (cs.head? = some '0' ∧ 1 < cs.length) then none
  else
    match digits? 10 cs with
    | some n => if n < 256 then some n else none
    | none => none

/-- The pieces of groups between colons; the last group may be an address of version 4. -/
def pieces? : List (List Char) → Option (List Nat)
  | [] => some []
  | [group] =>
    if group.contains '.' then do
      match ← (group.splitOn '.').mapM byte? with
      | [a, b, c, d] => return [256 * a + b, 256 * c + d]
      | _ => none
    else do
      return [← piece? group]
  | group :: groups => do
    let n ← piece? group
    return n :: (← pieces? groups)

/-- The pieces of one side of a double colon. -/
def side? (cs : List Char) : Option (List Nat) :=
  if cs.isEmpty then some [] else pieces? (cs.splitOn ':')

/-- The texts before and behind the first double colon. -/
def splitDouble? : List Char → Option (List Char × List Char)
  | [] => none
  | ':' :: ':' :: cs => some ([], cs)
  | c :: cs => (splitDouble? cs).map fun (a, b) => (c :: a, b)

/-- Reads an address. -/
def ipv6? (cs : List Char) : Option (List Nat) := do
  match splitDouble? cs with
  | some (before, behind) => do
    if before.contains '.' then none
    let (a, b) := (← side? before, ← side? behind)
    if a.length + b.length < 8 then
      return a ++ List.replicate (8 - a.length - b.length) 0 ++ b
    else
      none
  | none => do
    let pieces ← pieces? (cs.splitOn ':')
    if pieces.length = 8 then return pieces else none

/-! ## Hosts -/

/-- Whether a character may not stand in a domain. -/
def isForbidden (c : Char) : Bool :=
  c.toNat ≤ 32 || c.toNat = 127 || "\"#%/:<>?@[\\]^`\x7b|\x7d".toList.contains c

/-- Reads a host. -/
def ofChars? : List Char → Option Host
  | '[' :: cs =>
    if cs.getLast? = some ']' then (ipv6? cs.dropLast).map .ipv6 else none
  | cs => do
    let text ← String.fromUTF8? ⟨(percentDecode cs).toArray⟩
    let name := text.toList.map Char.toLower
    if name.isEmpty ∨ name.any isForbidden then none
    else if endsInNumber name then (ipv4? name).map .ipv4
    else some (.domain name)

/-- The four bytes of an address. -/
def ipv4Text (address : Nat) : List Char :=
  ['.'].intercalate ([16777216, 65536, 256, 1].map fun unit => ofNat (address / unit % 256))

/-- A number in hexadecimal, without leading zeros. -/
def pieceText (n : Nat) : List Char :=
  Nat.toDigits 16 n

/-- How many zeros begin a list. -/
def zeroRun (pieces : List Nat) : Nat :=
  (pieces.takeWhile (· == 0)).length

/-- The place and length of the first of the longest runs of zeros. -/
def longestRun (pieces : List Nat) : Nat × Nat :=
  (List.range 8).foldl
    (fun best i => if best.2 < zeroRun (pieces.drop i) then (i, zeroRun (pieces.drop i)) else best)
    (0, 0)

/-- The pieces of an address, the longest run of zeros left out if it is one of two at least. -/
def ipv6Text (pieces : List Nat) : List Char :=
  let join (ps : List Nat) : List Char := [':'].intercalate (ps.map pieceText)
  let (start, length) := longestRun pieces
  if length < 2 then join pieces
  else join (pieces.take start) ++ [':', ':'] ++ join (pieces.drop (start + length))

/-- The text of a host. -/
def toChars : Host → List Char
  | .domain name => name
  | .ipv4 address => ipv4Text address
  | .ipv6 pieces => '[' :: (ipv6Text pieces ++ [']'])

end Host

end AccessControl.Http
