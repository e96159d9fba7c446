import AccessControl.Calendar.Date

/-!
# Points in time

A timestamp counts seconds since 1970-01-01T00:00:00Z and nanoseconds within the second. A leap
second is written into the second before it: its nanoseconds run from `10 ^ 9` to below
`2 · 10 ^ 9`. Timestamps are ordered by seconds and then by nanoseconds.

Only the years from -262143 to 262142 are representable; `Timestamp.add?` says so by `none`.
-/

namespace AccessControl.Calendar

/-- A span of time, in nanoseconds; a negative span goes back. -/
structure Duration where
  nanos : Int
deriving DecidableEq, Repr

/-- The span of some seconds. -/
def Duration.ofSeconds (seconds : Int) : Duration :=
  ⟨seconds * 1000000000⟩

/-- A point in time. -/
structure Timestamp where
  seconds : Int
  nanos : Nat
  nanos_lt : nanos < 2000000000 := by omega
deriving DecidableEq, Repr

namespace Timestamp

instance : LT Timestamp :=
  ⟨fun a b => a.seconds < b.seconds ∨ (a.seconds = b.seconds ∧ a.nanos < b.nanos)⟩

instance : LE Timestamp :=
  ⟨fun a b => a.seconds < b.seconds ∨ (a.seconds = b.seconds ∧ a.nanos ≤ b.nanos)⟩

instance (a b : Timestamp) : Decidable (a < b) :=
  inferInstanceAs (Decidable (_ ∨ _))

instance (a b : Timestamp) : Decidable (a ≤ b) :=
  inferInstanceAs (Decidable (_ ∨ _))

theorem lt_iff (a b : Timestamp) :
    a < b ↔ a.seconds < b.seconds ∨ (a.seconds = b.seconds ∧ a.nanos < b.nanos) :=
  Iff.rfl

theorem le_iff (a b : Timestamp) :
    a ≤ b ↔ a.seconds < b.seconds ∨ (a.seconds = b.seconds ∧ a.nanos ≤ b.nanos) :=
  Iff.rfl

/-- The first representable year. -/
def firstYear : Int := -262143

/-- The last representable year. -/
def lastYear : Int := 262142

/-- The first second of the first representable year. -/
def firstSecond : Int := (Date.mk firstYear 1 1).toDays * 86400

/-- The last second of the last representable year. -/
def lastSecond : Int := (Date.mk lastYear 12 31).toDays * 86400 + 86399

/-- Nanoseconds since 1970-01-01T00:00:00Z; a leap second runs into the second after it. -/
def toNanos (t : Timestamp) : Int :=
  t.seconds * 1000000000 + t.nanos

/-- The timestamp of a count of nanoseconds. -/
def ofNanos (n : Int) : Timestamp where
  seconds := n / 1000000000
  nanos := (n % 1000000000).toNat
  nanos_lt := by omega

/-- The timestamp a span later. A leap second that the span starts in and runs beyond takes its time
like any other second. -/
def shift (t : Timestamp) (d : Duration) : Timestamp :=
  if t.nanos < 1000000000 ∨ t.nanos + d.nanos < 1000000000 then ofNanos (t.toNanos + d.nanos)
  else if _ : 2000000000 ≤ t.nanos + d.nanos then ofNanos (t.toNanos + d.nanos - 1000000000)
  else { seconds := t.seconds, nanos := (t.nanos + d.nanos).toNat }

/-- The timestamp a span later; `none` outside the representable years. -/
def add? (t : Timestamp) (d : Duration) : Option Timestamp :=
  if firstSecond ≤ (t.shift d).seconds ∧ (t.shift d).seconds ≤ lastSecond then some (t.shift d)
  else none

end Timestamp

end AccessControl.Calendar
