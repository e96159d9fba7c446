import AccessControl.Calendar.Rfc3339
import AccessControl.Json.Writer
import AccessControl.Logging.Filter

/-!
# Log lines

An event is written as one JSON object, or as a line to be read: time, level, message and numbers.
Times have six fraction digits. In a line to be read, the characters that could steer a terminal are
escaped.
-/

namespace AccessControl.Logging

open AccessControl.Calendar
open AccessControl.Decimal
open AccessControl.Json
open AccessControl.Text

/-- How events are written. -/
inductive Format where
  | json
  | pretty
deriving DecidableEq, Repr

/-- The format where none is asked for. -/
def Format.standard : Format := .json

/-- The time of an event. -/
def timeText (now : Timestamp) : List Char :=
  now.renderWith fun nanos => '.' :: padded 6 (nanos / 1000)

/-- A character of a message in a line to be read. -/
def escapeControl (c : Char) : List Char :=
  if [0x07, 0x08, 0x0c, 0x1b, 0x7f].contains c.toNat then '\\' :: 'x' :: hex 2 c.toNat
  else if 0x80 ≤ c.toNat ∧ c.toNat ≤ 0x9f then
    '\\' :: 'u' :: '\x7b' :: (hex 2 c.toNat ++ ['\x7d'])
  else [c]

/-- A level in five columns. -/
def levelColumn (level : Level) : List Char :=
  List.replicate (5 - level.name.length) ' ' ++ level.name.toList

/-- The JSON object of an event. -/
def Record.toJson (now : Timestamp) (r : Record) : Value :=
  .object [("timestamp", .string (String.ofList (timeText now))),
    ("level", .string r.level.name),
    ("fields", .object (("message", .string r.message) ::
      r.numbers.map fun (name, n) => (name, .number (.integer n))))]

/-- The text of an event, up to the end of its line. -/
def Format.write (now : Timestamp) (r : Record) : Format → List Char
  | .json => (r.toJson now).render ++ ['\n']
  | .pretty =>
    timeText now ++ ' ' :: (levelColumn r.level ++ ' ' :: (r.message.toList.flatMap escapeControl ++
      r.numbers.flatMap fun (name, n) => ' ' :: (name.toList ++ '=' :: ofInt n))) ++ ['\n']

end AccessControl.Logging
