import AccessControl.Http.Host
import AccessControl.Http.Percent

/-!
# Addresses of the web

An address with the scheme `http` or `https`, in the normal form of the URL standard: scheme and
host in lower case, the number behind the host only if it is not the usual one, a path without dots
that go up or stay, and everything that may not stand for itself percent-encoded. Names and
passwords before the host are dropped.

`Url.ofChars?` reads an address and normalises it, `Url.toChars` writes it, and `Url.target` is what
a request for it asks the host for: the path and the query.
-/

namespace AccessControl.Http

open AccessControl.Decimal

/-- The schemes that can be requested. -/
inductive Scheme where
  | http
  | https
deriving DecidableEq, Repr

/-- The name of a scheme. -/
def Scheme.name : Scheme → List Char
  | .http => ['h', 't', 't', 'p']
  | .https => ['h', 't', 't', 'p', 's']

/-- The number that is meant where none stands behind the host. -/
def Scheme.usualNumber : Scheme → Nat
  | .http => 80
  | .https => 443

/-- An address. -/
structure Url where
  scheme : Scheme
  host : Host
  /-- The number behind the host, if it is not the usual one. -/
  number : Option Nat := none
  /-- The parts of the path, each behind a slash. -/
  path : List (List Char) := [[]]
  query : Option (List Char) := none
  fragment : Option (List Char) := none
deriving DecidableEq, Repr

namespace Url

/-! ## What stands for itself -/

/-- Whether a character stands for itself in a fragment. -/
def keepsInFragment (c : Char) : Bool :=
  32 < c.toNat && c.toNat < 127 && !"\"<>`".toList.contains c

/-- Whether a character stands for itself in a path. -/
def keepsInPath (c : Char) : Bool :=
  keepsInFragment c && !"#?\x7b\x7d".toList.contains c

/-- Whether a character stands for itself in a query. -/
def keepsInQuery (c : Char) : Bool :=
  32 < c.toNat && c.toNat < 127 && !"\"#<>'".toList.contains c

/-! ## Reading -/

/-- Whether a character divides the parts of a path. -/
def isSlash (c : Char) : Bool :=
  c == '/' || c == '\\'

/-- Whether a character ends the host. -/
def endsHost (c : Char) : Bool :=
  isSlash c || c == '?' || c == '#'

/-- A text without control characters and spaces at its ends, and without tabs and line ends. -/
def cleaned (cs : List Char) : List Char :=
  let isOuter (c : Char) : Bool := c.toNat ≤ 32
  (((cs.dropWhile isOuter).reverse.dropWhile isOuter).reverse).filter fun c =>
    c != '\t' && c != '\n' && c != '\r'

/-- The text before and behind the first of a mark. -/
def cut (mark : Char) (cs : List Char) : List Char × Option (List Char) :=
  match cs.dropWhile (· != mark) with
  | [] => (cs, none)
  | _ :: rest => (cs.takeWhile (· != mark), some rest)

/-- Takes the scheme. -/
def takeScheme? (cs : List Char) : Option (Scheme × List Char) :=
  match cut ':' cs with
  | (name, some rest) =>
    let name := name.map Char.toLower
    if name = Scheme.http.name then some (.http, rest)
    else if name = Scheme.https.name then some (.https, rest)
    else none
  | (_, none) => none

/-- The text behind the last `@`. -/
def withoutUser (cs : List Char) : List Char :=
  (cs.reverse.takeWhile (· != '@')).reverse

/-- The texts before and behind the first colon that is not in square brackets; the flag says that
a bracket is open. -/
def splitNumber : Bool → List Char → List Char × Option (List Char)
  | _, [] => ([], none)
  | inside, c :: cs =>
    if c = ':' ∧ ¬ inside then ([], some cs)
    else
      let (host, number) := splitNumber (c = '[' || (inside && c != ']')) cs
      (c :: host, number)

/-- Reads the number behind a host: digits, or nothing for the usual one. -/
def number? (scheme : Scheme) (cs : List Char) : Option (Option Nat) :=
  if ¬ cs.all Char.isDigit then none
  else if cs.isEmpty ∨ value cs = scheme.usualNumber then some none
  else if value cs < UInt16.size then some (some (value cs))
  else none

/-- Whether a part of a path stands for the same place. -/
def isSingleDot (part : List Char) : Bool :=
  [".", "%2e"].contains (String.ofList (part.map Char.toLower))

/-- Whether a part of a path goes one up. -/
def isDoubleDot (part : List Char) : Bool :=
  ["..", ".%2e", "%2e.", "%2e%2e"].contains (String.ofList (part.map Char.toLower))

/-- The parts of a path, the last first, behind some parts read before; at the end of the path dots
leave an empty part. -/
def resolve : List (List Char) → List (List Char) → List (List Char)
  | before, [] => before
  | before, part :: parts =>
    let kept :=
      if isDoubleDot part then before.tail
      else if isSingleDot part then before
      else part :: before
    let dots := isDoubleDot part || isSingleDot part
    resolve (if dots && parts.isEmpty then [] :: kept else kept) parts

/-- Reads a path. -/
def pathOf (cs : List Char) : List (List Char) :=
  let parts := (if cs.head?.any isSlash then cs.tail else cs).splitOnP isSlash
  (resolve [] (parts.map (percentEncode keepsInPath))).reverse

/-- Reads an address. -/
def ofChars? (cs : List Char) : Option Url := do
  let (scheme, rest) ← takeScheme? (cleaned cs)
  let rest := rest.dropWhile isSlash
  let (hostText, numberText) := splitNumber false (withoutUser (rest.takeWhile (!endsHost ·)))
  let host ← Host.ofChars? hostText
  let number ← number? scheme (numberText.getD [])
  let (rest, fragment) := cut '#' (rest.dropWhile (!endsHost ·))
  let (path, query) := cut '?' rest
  return { scheme, host, number, path := pathOf path
           query := query.map (percentEncode keepsInQuery)
           fragment := fragment.map (percentEncode keepsInFragment) }

/-! ## Writing -/

/-- The path and the query. -/
def target (u : Url) : List Char :=
  u.path.flatMap ('/' :: ·) ++ ((u.query.map ('?' :: ·)).getD [])

/-- The text of an address. -/
def toChars (u : Url) : List Char :=
  u.scheme.name ++ ':' :: '/' :: '/' :: (u.host.toChars ++
    ((u.number.map fun n => ':' :: ofNat n).getD []) ++ u.target ++
    ((u.fragment.map ('#' :: ·)).getD []))

/-- The address with some pairs behind its query. -/
def withPairs (u : Url) (pairs : List (List Char × List Char)) : Url :=
  let more := Form.encode pairs
  { u with query := some (match u.query with
      | none => more
      | some q => if q.isEmpty then more else q ++ '&' :: more) }

/-- The length up to which an address can be requested. -/
def maxLength : Nat := 65534

/-- Whether an address can be requested. -/
def isUsable (u : Url) : Bool :=
  u.toChars.length ≤ maxLength

end Url

end AccessControl.Http
