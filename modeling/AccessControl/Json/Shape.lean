import AccessControl.Json.Reader
import AccessControl.Json.Writer

/-!
# Reading values of a given shape

A `Shape α` reads an `α` straight from the text, without building a JSON value first; its argument
is the number of containers that may still be opened. Faults come in the order of the text: a value
of the wrong shape is reported where it stands, before anything behind it is looked at.

A record is read from an object, whose fields may come in any order, with unknown fields skipped and
a repeated known field refused; or from an array that lists the fields in their declared order.
Trailing fields of an array and any field of an object may be missing if they have a default.
-/

namespace AccessControl.Json

/-- How to read an `α`, with the number of containers that may still be opened. -/
abbrev Shape (α : Type) := Nat → Reader α

namespace Shape

open Reader

variable {α β σ : Type}

/-- A string. -/
def string : Shape String := fun _ => do
  if (← look) = '"' then quoted else mismatch

/-- A truth value. -/
def bool : Shape Bool := fun _ => do
  let c ← look
  if c = 't' then
    literal ['t', 'r', 'u', 'e']
    return true
  else if c = 'f' then
    literal ['f', 'a', 'l', 's', 'e']
    return false
  else
    mismatch

/-- An integer from 0 to `2 ^ 64 - 1`. -/
def natural : Shape Nat := fun _ => do
  let c ← look
  if c = '-' ∨ c.isDigit then
    match ← number with
    | .integer (.ofNat n) => return n
    | _ => fail .shape
  else
    mismatch

/-- A string that `parse` accepts. -/
def parsed (parse : String → Option α) : Shape α := fun n => do
  match parse (← string n) with
  | some x => return x
  | none => fail .shape

/-- An array of items of one shape. -/
def list (item : Shape α) : Shape (List α)
  | 0 => do
    if (← look) = '[' then fail .malformed else mismatch
  | n + 1 => do
    if (← look) = '[' then Reader.list (item n) else mismatch

/-- Passes the entries of an object to `entry`. -/
def fold (entry : Nat → String → σ → Reader σ) (start : σ) : Shape σ
  | 0 => do
    if (← look) = '\x7b' then fail .malformed else mismatch
  | n + 1 => do
    if (← look) = '\x7b' then Reader.fold quoted (entry n) start else mismatch

/-- An object of any values; the last value under a key wins, and keys come out sorted. -/
def object : Shape Entries :=
  fold (fun n key entries => do
    colon
    return entries.insert key (← value n)) []

/-- One of a list of names, written as a string, or as an object that maps the name to null. -/
def choice (parse : String → Option α) : Shape α := fun n => do
  let c ← look
  if c = '"' then
    parsed parse n
  else if c = '\x7b' then
    if n = 0 then
      fail .malformed
    else
      let _ ← take
      let x ← parsed parse n
      colon
      if (← look) = 'n' then literal ['n', 'u', 'l', 'l'] else mismatch
      if (← look) = '\x7d' then
        let _ ← take
        return x
      else
        fail .malformed
  else
    fail .malformed

/-! ## Records -/

/-- One field of a record that is gathered in a draft `σ`. -/
structure Field (σ : Type) where
  name : String
  /-- Whether the draft holds the field already. -/
  present : σ → Bool
  /-- Reads the field into the draft. -/
  read : Nat → σ → Reader σ

/-- A field that is stored in an optional part of the draft. -/
def field (name : String) (shape : Shape α) (get : σ → Option α) (set : σ → α → σ) : Field σ where
  name := name
  present s := (get s).isSome
  read n s := do return set s (← shape n)

/-- Takes the end of an array whose items have all been read. -/
def closeArray : Reader Unit := do
  if (← look) = ']' then
    let _ ← take
  else
    fail .malformed

/-- Takes the fields of an array after its `[`, in declared order, as far as it goes. -/
def positional (n : Nat) : List (Field σ) → Bool → σ → Reader σ
  | [], _, s => do
    closeArray
    return s
  | f :: fs, first, s => do
    if ← another ']' first then
      positional n fs false (← f.read n s)
    else
      return s

/-- Takes one entry of an object into the draft. -/
def keyed (fields : List (Field σ)) (n : Nat) (key : String) (s : σ) : Reader σ :=
  match fields.find? (·.name == key) with
  | some f =>
    if f.present s then
      fail .shape
    else do
      colon
      f.read n s
  | none => do
    colon
    skip
    return s

/-- A record with the given fields; `complete` turns the draft into the record unless a field that
has no default is missing. -/
def record (fields : List (Field σ)) (start : σ) (complete : σ → Option α) : Shape α
  | 0 => do
    let c ← look
    if c = '[' ∨ c = '\x7b' then fail .malformed else mismatch
  | n + 1 => do
    let c ← look
    let draft ←
      if c = '[' then do
        let _ ← take
        positional n fields true start
      else if c = '\x7b' then
        Reader.fold quoted (keyed fields n) start
      else
        mismatch
    match complete draft with
    | some x => return x
    | none => fail .shape

/-- Reads a value of this shape from a whole text. -/
def ofText (shape : Shape α) (text : String) : Except Fault α :=
  (shape maxNesting).run text

end Shape

end AccessControl.Json
