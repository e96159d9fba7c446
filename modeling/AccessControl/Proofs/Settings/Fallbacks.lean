import AccessControl.Proofs.Settings.Variables
import Mathlib.Data.List.Nodup

/-!
# Fallbacks

A load reads settings one after the other, and ends at the first one that is at fault.
`Load.Reads` says which settings a load reads in which order, what it answers if none of them is at
fault, and that its log is made up of what each setting that it reaches has to tell. The combinators
of loads put the settings one behind the other (`Load.Reads.bind`), so that each loader has its
table of settings (`Loader.settings`, `Loader.reads`).

A setting that is read as a text tells of it when its default takes its place. A setting that is
read as a value does not, and so the log of a load tells of some of the defaults that it took
(`Settings.fallbacks_logged`), but not of all of them (`Settings.lifetimes_default_silently`).
-/

namespace AccessControl.Settings

variable {α β : Type} {env : Environment} {xs ys : List Setting}

/-! ## Settings -/

/-- A setting, as a load reads it. -/
structure Setting where
  key : String
  /-- The text of the default. -/
  default : String
  /-- Whether the log tells of it when the default takes the place of the variable. -/
  logged : Bool
  /-- What is wrong with the text of the variable, or with the default if there is none. -/
  fault : Option String → Option ValueError

namespace Setting

/-- The default takes the place of the variable. -/
def Defaulted (x : Setting) (env : Environment) : Prop :=
  env.text? x.key = none

/-- The event that tells that the default takes the place of the variable. -/
def event (x : Setting) : Event :=
  .settingDefaulted x.key x.default

/-- The default takes the place of the variable, and the log tells of it. -/
def told (x : Setting) (env : Environment) : Bool :=
  x.logged && (env.text? x.key).isNone

/-- A setting is told of exactly when it is one that is logged, and its default is taken. -/
theorem told_iff {x : Setting} : x.told env = true ↔ x.logged = true ∧ x.Defaulted env := by
  rw [told, Bool.and_eq_true, Option.isNone_iff_eq_none, Defaulted]

/-- What is told when the setting is read. -/
def events (x : Setting) (env : Environment) : List Event :=
  if x.told env then [x.event] else []

/-- The error that ends a load at this setting. -/
def error? (x : Setting) (env : Environment) : Option SettingError :=
  (x.fault (env.text? x.key)).map (⟨x.key, ·⟩)

/-- The error of a setting names its variable. -/
theorem key_of_error? {x : Setting} {error : SettingError} (h : x.error? env = some error) :
    error.key = x.key := by
  obtain ⟨cause, _, rfl⟩ := Option.map_eq_some_iff.mp h
  rfl

/-- A setting that is read as a text. -/
def ofText (key default : String) : Setting :=
  ⟨key, default, true, fun _ => none⟩

/-- A setting that is read as a value. -/
def ofValue (key default : String) (read : Option String → Except ValueError α) : Setting :=
  ⟨key, default, false, fun text? =>
    match read text? with
    | .ok _ => none
    | .error cause => some cause⟩

end Setting

/-- The settings up to the first one that is at fault. -/
def reached (env : Environment) : List Setting → List Setting
  | [] => []
  | x :: xs => x :: if (x.error? env).isSome then [] else reached env xs

/-- How a load ends that reads some settings. -/
def ending (env : Environment) (settings : List Setting) (v : α) : Except SettingError α :=
  match settings.findSome? (·.error? env) with
  | some error => .error error
  | none => .ok v

/-- The load reads some settings in this order, and answers a value if none of them is at fault. -/
def Load.Reads (settings : List Setting) (value : Environment → α) (load : Load α) : Prop :=
  ∀ env, load env =
    ⟨ending env settings (value env), (reached env settings).flatMap (·.events env), env⟩

/-- The settings behind others are reached exactly when none of these fails. -/
theorem reached_append : reached env (xs ++ ys) =
    reached env xs ++ if (xs.findSome? (·.error? env)).isSome then [] else reached env ys := by
  induction xs with
  | nil => rfl
  | cons x xs ih =>
    rw [List.cons_append, reached, reached, ih, List.findSome?_cons, List.cons_append]
    cases x.error? env <;> rfl

/-- What is reached is read in the order of the settings. -/
theorem reached_isPrefix : reached env xs <+: xs := by
  induction xs with
  | nil => exact List.prefix_refl []
  | cons x xs ih =>
    rw [reached, List.cons_prefix_cons]
    refine ⟨rfl, ?_⟩
    split
    · exact List.nil_prefix
    · exact ih

/-- A load succeeds exactly when no setting fails. -/
theorem ending_eq_ok_iff {v w : α} :
    ending env xs v = .ok w ↔ (∀ x ∈ xs, x.error? env = none) ∧ w = v := by
  rw [ending, ← List.findSome?_eq_none_iff]
  cases xs.findSome? (·.error? env) <;> simp [eq_comm]

/-- The first setting that is at fault is the one that a load fails with. -/
theorem ending_eq_error_iff {v : α} {error : SettingError} : ending env xs v = .error error ↔
    ∃ before x after, xs = before ++ x :: after ∧ x.error? env = some error ∧
      ∀ y ∈ before, y.error? env = none := by
  rw [ending, ← List.findSome?_eq_some_iff]
  cases xs.findSome? (·.error? env) <;> simp

/-- The log tells of the settings that are told of, in the order in which they are reached. -/
theorem flatMap_events (settings : List Setting) : settings.flatMap (·.events env) =
    (settings.filter (·.told env)).map Setting.event := by
  induction settings with
  | nil => rfl
  | cons x xs ih =>
    rw [List.flatMap_cons, ih, Setting.events]
    cases htold : x.told env <;> simp [htold]

/-! ## What loads read -/

namespace Load

theorem Reads.pure (v : α) : Reads [] (fun _ => v) (Pure.pure v) :=
  fun _ => rfl

/-- The settings of the second load stand behind those of the first one. They are reached if none of
those is at fault. -/
theorem Reads.bind {first : Load α} {next : α → Load β} {v : Environment → α}
    {w : α → Environment → β} (hfirst : first.Reads xs v) (hnext : ∀ a, (next a).Reads ys (w a)) :
    Reads (xs ++ ys) (fun env => w (v env) env) (first >>= next) := by
  intro env
  rw [Action.bind_run, hfirst env, ending, ending, reached_append, List.findSome?_append]
  cases xs.findSome? (·.error? env) with
  | some error => simp
  | none => simp [hnext (v env) env, ending]

/-- To change what is loaded reads the same settings. -/
theorem Reads.map {load : Load α} {v : Environment → α} (h : load.Reads xs v) (f : α → β) :
    Reads xs (fun env => f (v env)) (load >>= fun a => Pure.pure (f a)) := by
  have hbind := h.bind fun a => Reads.pure (f a)
  rwa [List.append_nil] at hbind

end Load

/-- A value is read, and the default takes the place of what is at fault. -/
def taken (read : Option String → Except ValueError α) (default : α) (text? : Option String) : α :=
  (read text?).toOption.getD default

/-- What the text of a variable is read as, or a default, if it is a lifetime. -/
def parsedLifetime (default : Int) (text? : Option String) : Except ValueError Int :=
  (parsed .signed64 default text?).bind fun seconds =>
    if 0 < seconds ∧ seconds ≤ longestLifetime then .ok seconds
    else .error (.unusableLifetime seconds)

/-- A load that reads one value, with its key in the error. -/
theorem Load.Reads.ofValue {load : Load α} {key text : String} {default : α}
    {read : Option String → Except ValueError α}
    (h : ∀ env, load env = ⟨(read (env.text? key)).mapError (⟨key, ·⟩), [], env⟩) :
    load.Reads [.ofValue key text read] fun env => taken read default (env.text? key) := by
  intro env
  rw [h]
  cases hread : read (env.text? key) <;>
    simp [ending, reached, Setting.error?, Setting.ofValue, Setting.events, Setting.told, taken,
      hread, Except.mapError, Except.toOption]

/-- A value can be read exactly if the setting is not at fault, and then it is taken. -/
theorem read_eq_ok_iff {key text : String} {read : Option String → Except ValueError α}
    {default v : α} : read (env.text? key) = .ok v ↔
      (Setting.ofValue key text read).error? env = none ∧
        v = taken read default (env.text? key) := by
  simp only [Setting.error?, Setting.ofValue, taken]
  cases read (env.text? key) <;> simp [Except.toOption, eq_comm]

/-- A text is taken from its variable or by default, and never fails. -/
theorem textOr_run (key default : String) (env : Environment) :
    textOr key default env = ⟨.ok ((env.text? key).getD default),
      (Setting.ofText key default).events env, env⟩ := by
  cases htext : env.text? key <;>
    simp [textOr, Action.bind_run, Setting.events, Setting.told, Setting.ofText, Setting.event,
      htext, -bind_pure_comp]

/-- A text reads the one setting of its variable. -/
theorem reads_textOr (key default : String) :
    (textOr key default).Reads [.ofText key default] fun env => (env.text? key).getD default := by
  intro env
  rw [textOr_run, reached, List.flatMap_cons]
  simp [ending, Setting.error?, Setting.ofText, reached]

/-- The setting of a value, the default of which has its canonical text. -/
def Setting.ofParsed (kind : Kind α) (key : String) (default : α) : Setting :=
  .ofValue key (String.ofList (kind.render default)) (parsed kind default)

/-- A parsed value reads the one setting of its variable. -/
theorem reads_parseOr (kind : Kind α) (key : String) (default : α) :
    (parseOr kind key default).Reads [.ofParsed kind key default]
      fun env => taken (parsed kind default) default (env.text? key) :=
  .ofValue (parseOr_run kind key default)

/-- The setting of a lifetime. -/
def Setting.ofLifetime (key : String) (default : Int) : Setting :=
  .ofValue key (Decimal.intText default) (parsedLifetime default)

/-- A lifetime is parsed from its variable, without an event. -/
theorem lifetime_run (key : String) (default : Int) (env : Environment) :
    lifetime key default env =
      ⟨(parsedLifetime default (env.text? key)).mapError (⟨key, ·⟩), [], env⟩ := by
  rw [lifetime, Action.bind_run, parseOr_run, parsedLifetime]
  cases parsed .signed64 default (env.text? key) with
  | error cause => rfl
  | ok seconds =>
    simp only [Except.mapError, Except.bind, List.nil_append]
    split_ifs <;> rfl

/-- A lifetime reads the one setting of its variable. -/
theorem reads_lifetime (key : String) (default : Int) :
    (lifetime key default).Reads [.ofLifetime key default]
      fun env => taken (parsedLifetime default) default (env.text? key) :=
  .ofValue (lifetime_run key default)

/-! ## Loaders -/

/-- What reads settings: a single setting, or the settings of a part of the system. -/
inductive Loader where
  | text (key default : String)
  | value (t : ValueType) (key : String) (default : t.Value)
  | account
  | remote
  | lifetimes

namespace Loader

/-- What a loader answers. -/
@[reducible] def Answer : Loader → Type
  | text .. => String
  | value t .. => t.Value
  | account => AccountSettings
  | remote => RemoteSettings
  | lifetimes => KeyLifetimes

/-- The load itself. -/
def load : (loader : Loader) → Load loader.Answer
  | text key default => textOr key default
  | value t key default => parseOr t.kind key default
  | account => AccountSettings.load
  | remote => RemoteSettings.load
  | lifetimes => loadLifetimes

/-- The settings in the order in which they are read. -/
def settings : Loader → List Setting
  | text key default => [.ofText key default]
  | value t key default => [.ofParsed t.kind key default]
  | account => [.ofText "WARDEN_USERS_PASS_REGEX" defaultPattern]
  | remote =>
    [.ofParsed .unsigned64 "WARDEN_KETO_TIMEOUT_MS" 5000,
      .ofText "WARDEN_KETO_READ_URL" "http://localhost:4466",
      .ofText "WARDEN_KETO_WRITE_URL" "http://localhost:4467"]
  | lifetimes =>
    [.ofLifetime "WARDEN_AUTH_LOGIN_DURATION_SECS" 36000,
      .ofLifetime "WARDEN_AUTH_RECOVERY_DURATION_SECS" 300,
      .ofLifetime "WARDEN_AUTH_API_DURATION_SECS" 31536000]

/-- What is answered if no setting is at fault. -/
def answer (env : Environment) : (loader : Loader) → loader.Answer
  | text key default => (env.text? key).getD default
  | value t key default => taken (parsed t.kind default) default (env.text? key)
  | account => ⟨(env.text? "WARDEN_USERS_PASS_REGEX").getD defaultPattern⟩
  | remote =>
    ⟨(env.text? "WARDEN_KETO_READ_URL").getD "http://localhost:4466",
      (env.text? "WARDEN_KETO_WRITE_URL").getD "http://localhost:4467",
      taken (parsed .unsigned64 5000) 5000 (env.text? "WARDEN_KETO_TIMEOUT_MS")⟩
  | lifetimes =>
    ⟨taken (parsedLifetime 36000) 36000 (env.text? "WARDEN_AUTH_LOGIN_DURATION_SECS"),
      taken (parsedLifetime 300) 300 (env.text? "WARDEN_AUTH_RECOVERY_DURATION_SECS"),
      taken (parsedLifetime 31536000) 31536000 (env.text? "WARDEN_AUTH_API_DURATION_SECS")⟩

/-- Every loader reads its settings, in their order. -/
theorem reads (loader : Loader) :
    loader.load.Reads loader.settings fun env => loader.answer env := by
  cases loader with
  | text key default => exact reads_textOr key default
  | value t key default => exact reads_parseOr t.kind key default
  | account => exact (reads_textOr _ _).map AccountSettings.mk
  | remote =>
    exact (reads_parseOr _ _ _).bind fun timeout => (reads_textOr _ _).bind fun readUrl =>
      (reads_textOr _ _).map (RemoteSettings.mk readUrl · timeout)
  | lifetimes =>
    exact (reads_lifetime _ _).bind fun user => (reads_lifetime _ _).bind fun recovery =>
      (reads_lifetime _ _).map (KeyLifetimes.mk user recovery)

/-- No loader reads a variable twice. -/
theorem nodup_keys (loader : Loader) : (loader.settings.map Setting.key).Nodup := by
  cases loader <;> simp [settings, Setting.ofText, Setting.ofParsed, Setting.ofLifetime,
    Setting.ofValue]

end Loader

/-- Among the events of settings, that of a logged one is there exactly when its default is taken.
-/
theorem told_iff_mem_events {settings : List Setting} {x : Setting} (hx : x ∈ settings)
    (hlogged : x.logged = true) :
    x.event ∈ settings.flatMap (·.events env) ↔ x.Defaulted env := by
  simp only [flatMap_events, List.mem_map, List.mem_filter, Setting.told_iff]
  constructor
  · rintro ⟨y, ⟨_, _, hdefaulted⟩, hevent⟩
    -- whether a default is taken depends on the key alone, and the event has the key
    obtain ⟨hkey, _⟩ := Event.settingDefaulted.inj hevent
    rwa [Setting.Defaulted, ← hkey]
  · exact fun hdefaulted => ⟨x, ⟨hx, hlogged, hdefaulted⟩, rfl⟩

/-- What the log of a load tells. The settings are reached in their order up to the first one that
is at fault, which the load fails with; if there is none, the load answers their values. The log is
made up of warnings, each with the key and the default of a setting that is read as a text and takes
its default, one for each of them and in their order, and tells nothing of a variable that is used.
It tells nothing of a setting that is read as a value either, whether or not it takes its
default. -/
theorem fallbacks_logged (loader : Loader) (env : Environment) :
    let read := loader.load env
    let settings := reached env loader.settings
    read.result = ending env loader.settings (loader.answer env) ∧ read.state = env ∧
    read.events = (settings.filter (·.told env)).map Setting.event ∧
    read.events.Nodup ∧
    (∀ event ∈ read.events, event.level = .warn ∧ ∃ x ∈ settings, event = x.event ∧
      event.fields = [("key", x.key), ("default", x.default)] ∧ x.Defaulted env) ∧
    (∀ x ∈ settings, x.logged = true → (x.event ∈ read.events ↔ x.Defaulted env)) ∧
    ∀ x ∈ settings, x.logged = false →
      ∀ default, .settingDefaulted x.key default ∉ read.events := by
  intro read settings
  have hread : read = _ := loader.reads env
  have hevents : read.events = (settings.filter (·.told env)).map Setting.event := by
    rw [hread, flatMap_events]
  have hkeys : (settings.map Setting.key).Nodup :=
    loader.nodup_keys.sublist (reached_isPrefix.sublist.map Setting.key)
  refine ⟨by rw [hread], by rw [hread], hevents, ?nodup, fun event hevent => ?warning,
    fun x hx hlogged => ?logged, fun x hx hsilent default hevent => ?silent⟩
  case nodup =>
    rw [hevents]
    refine List.Nodup.map_on (fun x hx y hy heq => ?_) ?_
    · exact List.inj_on_of_nodup_map hkeys (List.mem_of_mem_filter hx) (List.mem_of_mem_filter hy)
        (Event.settingDefaulted.inj heq).1
    · exact hkeys.of_map.filter _
  case warning =>
    rw [hevents] at hevent
    obtain ⟨x, hx, rfl⟩ := List.mem_map.mp hevent
    obtain ⟨hreached, htold⟩ := List.mem_filter.mp hx
    exact ⟨rfl, x, hreached, rfl, rfl, (Setting.told_iff.mp htold).2⟩
  case logged =>
    rw [hread]
    exact told_iff_mem_events hx hlogged
  case silent =>
    rw [hevents] at hevent
    obtain ⟨y, hy, heq⟩ := List.mem_map.mp hevent
    obtain ⟨hreached, htold⟩ := List.mem_filter.mp hy
    obtain ⟨hkey, _⟩ := Event.settingDefaulted.inj heq
    -- two settings of a loader have different keys
    obtain rfl := List.inj_on_of_nodup_map hkeys hx hreached hkey.symm
    exact Bool.false_ne_true (hsilent.symm.trans (Setting.told_iff.mp htold).1)

/-- Whether the variable is not set or is set to what the default is, the lifetimes are the same,
and so is what is told: nothing. The log does not tell which of the two is the case. -/
theorem lifetimes_default_silently :
    let set := Environment.ofList
      [("WARDEN_AUTH_LOGIN_DURATION_SECS", Environment.bytes "36000")]
    (Environment.ofList []).text? "WARDEN_AUTH_LOGIN_DURATION_SECS" = none ∧
    set.text? "WARDEN_AUTH_LOGIN_DURATION_SECS" = some "36000" ∧
    (loadLifetimes (.ofList [])).result = .ok .standard ∧
    (loadLifetimes set).result = .ok .standard ∧
    (loadLifetimes (.ofList [])).events = [] ∧ (loadLifetimes set).events = [] := by
  decide +kernel

end AccessControl.Settings
