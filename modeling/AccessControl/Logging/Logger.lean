import AccessControl.Logging.Format
import AccessControl.Settings.Environment

/-!
# The logger of a process

A process has one logger. It is set up once: its filter is that of the variable `RUST_LOG`, or a
fallback; whoever sets it up again changes nothing. Before that, events are lost.
-/

namespace AccessControl.Logging

open AccessControl.Calendar

/-- The logger of a process, with what it has written. -/
structure Logger where
  setup : Option (Format × Filter) := none
  written : List Char := []
deriving DecidableEq, Repr

namespace Logger

/-- Sets the logger up, with a fallback for the filter. -/
def initWith (env : Environment) (format : Format) (fallback : String) (logger : Logger) : Logger :=
  match logger.setup with
  | some _ => logger
  | none => { logger with setup := some (format, Filter.choose (env.text? "RUST_LOG") fallback) }

/-- Sets the logger up as usual: in JSON, and without the events below `info`. -/
def init (env : Environment) (logger : Logger) : Logger :=
  logger.initWith env .json "info"

/-- Logs an event. -/
def log (now : Timestamp) (r : Record) (logger : Logger) : Logger :=
  match logger.setup with
  | some (format, filter) =>
    if filter.admits r then { logger with written := logger.written ++ format.write now r }
    else logger
  | none => logger

/-- The lines written so far. -/
def lines (logger : Logger) : List (List Char) :=
  match (logger.written.splitOn '\n').reverse with
  | [] :: ls => ls.reverse.map unended
  | ls => ls.reverse.map unended
where
  /-- A line without a carriage return at its end. -/
  unended (line : List Char) : List Char :=
    if line.getLast? = some '\r' then line.dropLast else line

end Logger

end AccessControl.Logging
