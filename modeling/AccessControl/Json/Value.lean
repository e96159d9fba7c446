import AccessControl.Decimal.Binary64

/-!
# JSON values

A JSON value keeps integers exact and every other number as a binary64. An object is a list of
entries in the order in which they are written; `Entries.insert` keeps such a list sorted by key
(by code points, which is also the order of the UTF-8 bytes) with one entry for each key, the last
one inserted.

`Value.same` is equality of values: it tells `1` from `1.0`, and takes `0.0` and `-0.0` for one
number.
-/

namespace AccessControl.Json

open AccessControl.Decimal

/-- A number: an exact integer, or a double for everything written with a fraction or an exponent
and for integers beyond sixty-four bits. -/
inductive Number where
  | integer (value : Int)
  | double (value : Binary64)
deriving DecidableEq, Repr

/-- A JSON value. -/
inductive Value where
  | null
  | bool (value : Bool)
  | number (value : Number)
  | string (value : String)
  | array (items : List Value)
  | object (entries : List (String × Value))
deriving Repr, Inhabited

mutual

/-- Decides whether two values are the same in every part. -/
def Value.decEq (v w : Value) : Decidable (v = w) :=
  match v, w with
  | .null, .null => isTrue rfl
  | .bool a, .bool b => decidable_of_decidable_of_iff (p := a = b) (by simp)
  | .number m, .number n => decidable_of_decidable_of_iff (p := m = n) (by simp)
  | .string s, .string t => decidable_of_decidable_of_iff (p := s = t) (by simp)
  | .array xs, .array ys =>
    have := decEqItems xs ys
    decidable_of_decidable_of_iff (p := xs = ys) (by simp)
  | .object xs, .object ys =>
    have := decEqEntries xs ys
    decidable_of_decidable_of_iff (p := xs = ys) (by simp)
  | .null, .bool _ | .null, .number _ | .null, .string _ | .null, .array _ | .null, .object _
  | .bool _, .null | .bool _, .number _ | .bool _, .string _ | .bool _, .array _
  | .bool _, .object _ | .number _, .null | .number _, .bool _ | .number _, .string _
  | .number _, .array _ | .number _, .object _ | .string _, .null | .string _, .bool _
  | .string _, .number _ | .string _, .array _ | .string _, .object _ | .array _, .null
  | .array _, .bool _ | .array _, .number _ | .array _, .string _ | .array _, .object _
  | .object _, .null | .object _, .bool _ | .object _, .number _ | .object _, .string _
  | .object _, .array _ => isFalse nofun

/-- Decides whether two arrays are the same, item by item. -/
def decEqItems (xs ys : List Value) : Decidable (xs = ys) :=
  match xs, ys with
  | [], [] => isTrue rfl
  | x :: xs, y :: ys =>
    have := x.decEq y
    have := decEqItems xs ys
    decidable_of_decidable_of_iff (p := x = y ∧ xs = ys) (by simp)
  | [], _ :: _ | _ :: _, [] => isFalse nofun

/-- Decides whether two objects are the same, entry by entry. -/
def decEqEntries (xs ys : List (String × Value)) : Decidable (xs = ys) :=
  match xs, ys with
  | [], [] => isTrue rfl
  | (k, x) :: xs, (l, y) :: ys =>
    have := x.decEq y
    have := decEqEntries xs ys
    decidable_of_decidable_of_iff (p := (k = l ∧ x = y) ∧ xs = ys) (by simp)
  | [], _ :: _ | _ :: _, [] => isFalse nofun

end

instance : DecidableEq Value := Value.decEq

/-- The entries of an object, in the order in which they are written. -/
abbrev Entries := List (String × Value)

/-- Equality of numbers, by value within each of the two kinds. -/
def Number.same : Number → Number → Bool
  | .integer m, .integer n => m == n
  | .double x, .double y => x.sameValue y
  | _, _ => false

mutual

/-- Equality of values. -/
def Value.same : Value → Value → Bool
  | .null, .null => true
  | .bool a, .bool b => a == b
  | .number m, .number n => m.same n
  | .string s, .string t => s == t
  | .array xs, .array ys => sameItems xs ys
  | .object xs, .object ys => sameEntries xs ys
  | _, _ => false

/-- Equality of arrays, item by item. -/
def sameItems : List Value → List Value → Bool
  | [], [] => true
  | x :: xs, y :: ys => x.same y && sameItems xs ys
  | _, _ => false

/-- Equality of objects, entry by entry in their written order. -/
def sameEntries : List (String × Value) → List (String × Value) → Bool
  | [], [] => true
  | (k, x) :: xs, (l, y) :: ys => k == l && x.same y && sameEntries xs ys
  | _, _ => false

end

namespace Entries

/-- The value under a key. -/
def get? (entries : Entries) (key : String) : Option Value :=
  (entries.find? (·.1 == key)).map (·.2)

/-- Puts a value under a key of a list sorted by key, in place of an earlier value there. -/
def insert (key : String) (value : Value) : Entries → Entries
  | [] => [(key, value)]
  | (k, v) :: rest =>
    if key < k then (key, value) :: (k, v) :: rest
    else if key = k then (key, value) :: rest
    else (k, v) :: insert key value rest

/-- Whether the keys ascend strictly. -/
def Sorted (entries : Entries) : Prop :=
  entries.Pairwise (·.1 < ·.1)

/-- Among entries sorted by key, a key has the value that it is listed with, and no other. -/
theorem get?_eq_some_iff {entries : Entries} (sorted : entries.Sorted) {key : String}
    {value : Value} : entries.get? key = some value ↔ (key, value) ∈ entries := by
  induction entries with
  | nil => simp [get?]
  | cons entry rest ih =>
    obtain ⟨k, v⟩ := entry
    obtain ⟨first, others⟩ := List.pairwise_cons.mp sorted
    by_cases hk : k = key
    · -- the first key stands nowhere else
      subst hk
      have hrest : (k, value) ∉ rest := fun h => String.lt_irrefl k (first _ h)
      simp [get?, hrest, eq_comm]
    · have hne : ¬ key = k := fun h => hk h.symm
      rw [List.mem_cons, ← ih others]
      simp [get?, hk, hne]

/-- Whether every entry of `filter` is present with an equal value. -/
def includes (entries filter : Entries) : Bool :=
  filter.all fun (key, value) =>
    match entries.get? key with
    | some found => found.same value
    | none => false

end Entries

end AccessControl.Json
