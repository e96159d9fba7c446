import AccessControl.Text.Basic

/-!
# Email addresses

An address is a local part and a host, parted by the last `@`.

* The whole address takes 3 to 254 bytes, the local part 1 to 64 and the host at least 3.
* The local part consists of ASCII letters, digits, dots and some punctuation; it neither starts nor
  ends with a dot, and no two dots follow each other in it.
* The host holds no blank and no `@`, and has a dot with something on both sides of it. What follows
  its last dot takes 2 to 24 bytes.

Lengths count UTF-8 bytes.
-/

namespace AccessControl.Email

open AccessControl.Text

/-- The number of UTF-8 bytes of a text. -/
def byteLength (cs : List Char) : Nat :=
  cs.foldr (fun c n => c.utf8Size + n) 0

/-- The text before and the text behind the last `mark`, if there is one. -/
def splitLast? (mark : Char) : List Char → Option (List Char × List Char)
  | [] => none
  | c :: cs =>
    match splitLast? mark cs with
    | some (before, behind) => some (c :: before, behind)
    | none => if c = mark then some ([], cs) else none

/-- The characters of a local part. -/
def isLocalChar (c : Char) : Bool :=
  c.isAlphanum || "!#$%&'*+/=?^_`\x7b|\x7d~.-".toList.contains c

/-- Whether two dots follow each other. -/
def hasDoubleDot : List Char → Bool
  | '.' :: '.' :: _ => true
  | _ :: cs => hasDoubleDot cs
  | [] => false

/-- Whether the text is the local part of an address. -/
def isLocal (cs : List Char) : Bool :=
  1 ≤ byteLength cs && byteLength cs ≤ 64 && cs.all isLocalChar && cs.head? != some '.' &&
    cs.getLast? != some '.' && !hasDoubleDot cs

/-- Whether a dot stands between two characters of the text. -/
def hasInnerDot (cs : List Char) : Bool :=
  ((cs.drop 1).dropLast).contains '.'

/-- Whether the text is the host of an address. -/
def isHost (cs : List Char) : Bool :=
  3 ≤ byteLength cs && cs.all (fun c => !isBlank c && c != '@') && hasInnerDot cs &&
    match splitLast? '.' cs with
    | some (_, top) => 2 ≤ byteLength top && byteLength top ≤ 24
    | none => false

/-- Whether the text is an email address. -/
def isEmail (cs : List Char) : Bool :=
  3 ≤ byteLength cs && byteLength cs ≤ 254 &&
    match splitLast? '@' cs with
    | some (before, behind) => isLocal before && isHost behind
    | none => false

end AccessControl.Email
