import AccessControl.Text.Unicode.Folding
import AccessControl.Text.Unicode.Property
import AccessControl.Text.Unicode.Script

/-!
# Classes of characters

A class is a set of code points, put together from ranges by union, intersection and complement, and
closed under case folding where a pattern ignores case. `CharClass.contains` says what it holds.
-/

namespace AccessControl.Pattern

open AccessControl.Text.Unicode

/-- A set of code points. -/
inductive CharClass where
  | empty
  | range (low high : Nat)
  | ranges (ranges : Ranges)
  | union (a b : CharClass)
  | inter (a b : CharClass)
  | complement (a : CharClass)
  /-- With every code point those equal to it but for case. -/
  | folded (a : CharClass)
  /-- With every ASCII letter its other case. -/
  | asciiFolded (a : CharClass)
deriving Repr

namespace CharClass

/-- The other case of an ASCII letter, and any other code point itself. -/
def otherCase (n : Nat) : Nat :=
  if 65 ≤ n && n ≤ 90 then n + 32 else if 97 ≤ n && n ≤ 122 then n - 32 else n

/-- Whether the class holds a code point. -/
def contains : CharClass → Nat → Bool
  | empty, _ => false
  | range low high, n => low ≤ n && n ≤ high
  | ranges rs, n => rs.contains n
  | union a b, n => a.contains n || b.contains n
  | inter a b, n => a.contains n && b.contains n
  | complement a, n => !a.contains n
  | folded a, n => (orbit n).any fun m => a.contains m
  | asciiFolded a, n => a.contains n || a.contains (otherCase n)

/-- The class of all code points. -/
def any : CharClass :=
  complement empty

/-- The class of one code point. -/
def single (n : Nat) : CharClass :=
  range n n

/-- The union of some classes. -/
def unions : List CharClass → CharClass
  | [] => empty
  | [a] => a
  | a :: as => union a (unions as)

/-- What is in the first class and not in the second. -/
def difference (a b : CharClass) : CharClass :=
  inter a (complement b)

/-- What is in one of the two classes and not in the other. -/
def symmetricDifference (a b : CharClass) : CharClass :=
  union (difference a b) (difference b a)

/-- The complement of the class if `negated` says so. -/
def negatedIf (negated : Bool) (a : CharClass) : CharClass :=
  if negated then complement a else a

/-- A code point with those equal to it but for case. -/
def foldedSingle (n : Nat) : CharClass :=
  unions ((orbit n).map single)

/-- The class of a composed set. -/
def ofComposed (s : Composed) : CharClass :=
  let parts := unions (s.parts.map ranges)
  if s.without.isEmpty then parts else difference parts (ranges s.without)

/-- The class of some tables. -/
def ofTables (tables : List Ranges) : CharClass :=
  unions (tables.map ranges)

/-- The class of a property, or of no code point if there is none of that name. -/
def ofProperty (name : String) : CharClass :=
  ((property? name).map ofComposed).getD empty

/-- Decimal digits. -/
def digit : CharClass :=
  ofTables (ofCategories ["nd"])

/-- Blanks. -/
def space : CharClass :=
  ofProperty "whitespace"

/-- Letters, marks, decimal digits, connectors and joiners. -/
def word : CharClass :=
  unions [ofProperty "alphabetic", ofTables (ofCategories ["mn", "mc", "me", "nd", "pc"]),
    ofProperty "joincontrol"]

/-- The ASCII classes by name. -/
def asciiClasses : List (String × CharClass) :=
  [("alnum", unions [range 48 57, range 65 90, range 97 122]),
    ("alpha", unions [range 65 90, range 97 122]),
    ("ascii", range 0 127),
    ("blank", unions [single 9, single 32]),
    ("cntrl", unions [range 0 31, single 127]),
    ("digit", range 48 57),
    ("graph", range 33 126),
    ("lower", range 97 122),
    ("print", range 32 126),
    ("punct", unions [range 33 47, range 58 64, range 91 96, range 123 126]),
    ("space", unions [range 9 13, single 32]),
    ("upper", range 65 90),
    ("word", unions [range 48 57, range 65 90, single 95, range 97 122]),
    ("xdigit", unions [range 48 57, range 65 70, range 97 102])]

/-- The ASCII class of a name. -/
def ascii? (name : String) : Option CharClass :=
  (asciiClasses.find? (·.1 == name)).map (·.2)

/-- Whether the class holds ASCII characters only, as far as single bytes go. -/
def isAscii (a : CharClass) : Bool :=
  (List.range 128).all fun k => !a.contains (128 + k)

/-! ## The ranges of a class -/

/-- The code points at which a class can begin or cease to hold. -/
def edges : CharClass → List Nat
  | empty => []
  | range low high => [low, high + 1]
  | ranges rs => rs.flatMap fun (low, high) => [low, high + 1]
  | union a b => a.edges ++ b.edges
  | inter a b => a.edges ++ b.edges
  | complement a => a.edges
  | folded a => a.edges ++ orbits.flatMap fun members => members.flatMap fun n => [n, n + 1]
  | asciiFolded a => a.edges ++ a.edges.map otherCase ++ [65, 91, 97, 123]

/-- Joins ranges that touch. -/
def joined : Ranges → Ranges
  | (a, b) :: (c, d) :: rest =>
    if b + 1 = c then joined ((a, d) :: rest) else (a, b) :: joined ((c, d) :: rest)
  | rs => rs
termination_by rs => rs.length

/-- The stretches between successive edges that the class holds. -/
def stretches (a : CharClass) : List Nat → Ranges
  | low :: next :: rest =>
    if low < next && a.contains low then (low, next - 1) :: stretches a (next :: rest)
    else stretches a (next :: rest)
  | _ => []

/-- The ranges of a class, in order, without the surrogates. -/
def toRanges (a : CharClass) : Ranges :=
  let edges := (0 :: 0xD800 :: 0xE000 :: 0x110000 :: a.edges).filter (· ≤ 0x110000)
  let kept := inter a (complement (range 0xD800 0xDFFF))
  joined (kept.stretches (edges.mergeSort fun m n => decide (m ≤ n)))

end CharClass

end AccessControl.Pattern
