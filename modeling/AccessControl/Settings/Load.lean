import AccessControl.Identity.KeyTable
import AccessControl.Settings.Environment
import AccessControl.Settings.Parse

/-!
# Loading settings from the environment

`Settings.textOr` takes the text of a variable, or a default, which is logged. `Settings.parseOr`
takes the value of a variable, or a default, which is not logged; a variable whose text is no value
is an error. Both take the default when the variable is unset or holds no text.
-/

namespace AccessControl.Settings

open AccessControl.Text

/-- A variable whose value is of no use. -/
structure SettingError where
  key : String
  cause : ValueError
deriving DecidableEq, Repr

/-- What is told of the failure. -/
def SettingError.message (e : SettingError) : String :=
  "invalid value for " ++ e.key ++ ": " ++ e.cause.message

/-- Loading from an environment. -/
abbrev Load (α : Type) := Action Environment SettingError α

/-- The text of a variable, or a default. -/
def textOr (key default : String) : Load String := do
  match (← Action.get).text? key with
  | some text => return text
  | none => do
    Action.emit (.settingDefaulted key default)
    return default

/-- The value of a variable, or a default. -/
def parseOr {α : Type} (kind : Kind α) (key : String) (default : α) : Load α := do
  match (← Action.get).text? key with
  | some text => Action.ofExcept ((kind.parse (trim text.toList)).mapError (⟨key, ·⟩))
  | none => return default

/-- The settings of the account service. -/
structure AccountSettings where
  /-- The pattern that every new password must match. -/
  passwordPattern : String
deriving DecidableEq, Repr

/-- At least eight characters, on one line. -/
def defaultPattern : String :=
  "^.\x7b8,\x7d$"

/-- Loads the settings of the account service. -/
def AccountSettings.load : Load AccountSettings := do
  return ⟨← textOr "WARDEN_USERS_PASS_REGEX" defaultPattern⟩

/-- The settings of the remote policy agent. -/
structure RemoteSettings where
  readUrl : String := "http://localhost:4466"
  writeUrl : String := "http://localhost:4467"
  timeoutMillis : Int := 5000
deriving DecidableEq, Repr

/-- Loads the settings of the remote policy agent. -/
def RemoteSettings.load : Load RemoteSettings := do
  let standard : RemoteSettings := {}
  let timeout ← parseOr .unsigned64 "WARDEN_KETO_TIMEOUT_MS" standard.timeoutMillis
  let readUrl ← textOr "WARDEN_KETO_READ_URL" standard.readUrl
  let writeUrl ← textOr "WARDEN_KETO_WRITE_URL" standard.writeUrl
  return ⟨readUrl, writeUrl, timeout⟩

/-- The longest key lifetime in seconds: its milliseconds still fit sixty-four bits. -/
def longestLifetime : Int :=
  9223372036854775807 / 1000

/-- Loads one key lifetime; it must be positive. -/
def lifetime (key : String) (default : Int) : Load Int := do
  let seconds ← parseOr .signed64 key default
  if 0 < seconds ∧ seconds ≤ longestLifetime then return seconds
  else Action.fail ⟨key, .unusableLifetime seconds⟩

/-- Loads the lifetimes of keys. -/
def loadLifetimes : Load KeyLifetimes := do
  let standard := KeyLifetimes.standard
  let user ← lifetime "WARDEN_AUTH_LOGIN_DURATION_SECS" standard.user
  let recovery ← lifetime "WARDEN_AUTH_RECOVERY_DURATION_SECS" standard.recovery
  let api ← lifetime "WARDEN_AUTH_API_DURATION_SECS" standard.api
  return ⟨user, recovery, api⟩

end AccessControl.Settings
