import AccessControl.Logging.Logger
import AccessControl.Proofs.Json.Values
import AccessControl.Proofs.Logging.Filter
import AccessControl.Proofs.Text.Pieces

/-!
# What a logger writes

A logger is set up once (`Logger.initWith_initWith`), and from then on it writes the events that its
filter lets through, one behind the other (`Logger.logAll_of_setup`); before that it writes nothing
(`Logger.logAll_of_not_setup`).

In JSON every event is one line, whatever its message holds, since no control character stands for
itself in the text of a value (`Json.Value.printable_render`). So the lines of a process are the
events that were let through, in their order (`Logger.lines_logAll_init`).
-/

namespace AccessControl

open AccessControl.Calendar
open AccessControl.Decimal
open AccessControl.Text

/-! ## Text without control characters -/

namespace Json

/-- No character of the text is a control character below U+0020. -/
def Printable (cs : List Char) : Prop :=
  ∀ c ∈ cs, 32 ≤ c.toNat

variable {c : Char} {cs ds : List Char}

@[simp]
theorem printable_nil : Printable [] := nofun

@[simp]
theorem printable_cons : Printable (c :: cs) ↔ 32 ≤ c.toNat ∧ Printable cs :=
  List.forall_mem_cons

@[simp]
theorem printable_append : Printable (cs ++ ds) ↔ Printable cs ∧ Printable ds :=
  List.forall_mem_append

/-- Whatever stands for a character in a string is printable. -/
theorem printable_escape (c : Char) : Printable (escape c) := by
  have hhex : ∀ n < 16, 32 ≤ (hexDigit n).toNat := by decide
  unfold escape
  split_ifs with _ _ _ _ _ _ _ hcontrol
  on_goal 9 => simpa using hcontrol
  on_goal 8 => simp [hhex (c.toNat / 16) (by omega), hhex (c.toNat % 16) (by omega)]
  all_goals simp

/-- A string in quotation marks is printable, since control characters are escaped. -/
theorem printable_quote (s : String) : Printable (quote s) := by
  have hcs : Printable (s.toList.flatMap escape) := fun d hd => by
    obtain ⟨c, _, hc⟩ := List.mem_flatMap.mp hd
    exact printable_escape c d hc
  simp [quote, hcs]

/-- A number is printable. -/
theorem printable_ofInt (n : Int) : Printable (ofInt n) := by
  have hdigits (n : Nat) : Printable (ofNat n) := fun c hc => by
    have hdigit := isDigit_of_mem_ofNat hc
    simp only [Char.isDigit, Bool.and_eq_true, decide_eq_true_eq, UInt32.le_iff_toNat_le] at hdigit
    exact Nat.le_trans (by decide) hdigit.1
  cases n with
  | ofNat n => exact hdigits n
  | negSucc n => simp [ofInt, hdigits]

/-- The further items of an array are printable when each item is. -/
theorem printable_renderItems {vs : List Value} (h : ∀ v ∈ vs, Printable v.render) :
    Printable (renderItems vs) := by
  induction vs with
  | nil => simp [renderItems]
  | cons v vs ih =>
    obtain ⟨hv, hvs⟩ := List.forall_mem_cons.mp h
    simp [renderItems, hv, ih hvs]

/-- The further entries of an object are printable when their values are. -/
theorem printable_renderEntries {es : Entries} (h : ∀ e ∈ es, Printable e.2.render) :
    Printable (renderEntries es) := by
  induction es with
  | nil => simp [renderEntries]
  | cons e es ih =>
    obtain ⟨hv, hes⟩ := List.forall_mem_cons.mp h
    simp [renderEntries, printable_quote, hv, ih hes]

/-- The text of a value is printable, if the value holds no double. -/
theorem Value.printable_render {v : Value} (free : v.FloatFree) : Printable v.render := by
  induction free with
  | null => simp [render]
  | bool b => cases b <;> simp [render]
  | integer i => exact printable_ofInt i
  | string s => exact printable_quote s
  | @array vs _ ih =>
    cases vs with
    | nil => simp [render]
    | cons v vs =>
      obtain ⟨hv, hvs⟩ := List.forall_mem_cons.mp ih
      simp [render, hv, printable_renderItems hvs]
  | @object es _ ih =>
    cases es with
    | nil => simp [render]
    | cons e es =>
      obtain ⟨hv, hes⟩ := List.forall_mem_cons.mp ih
      simp [render, printable_quote, hv, printable_renderEntries hes]

end Json

namespace Logging

open AccessControl.Json

/-- The JSON object of an event is written without a control character. -/
theorem Record.printable_toJson (now : Timestamp) (r : Record) :
    Printable (r.toJson now).render := by
  have hfields : (Value.object (("message", .string r.message) ::
      r.numbers.map fun number => (number.1, .number (.integer number.2)))).FloatFree :=
    .object (List.forall_mem_cons.mpr
      ⟨.string _, List.forall_mem_map.mpr fun number _ => .integer number.2⟩)
  refine Value.printable_render (.object ?_)
  simp only [List.forall_mem_cons]
  exact ⟨.string _, .string _, hfields, nofun⟩

namespace Logger

variable {logger : Logger} {format : Format} {filter : Filter}

/-! ## Setting up -/

/-- Whoever sets a logger up again changes nothing. -/
theorem initWith_initWith (env env' : Environment) (format format' : Format)
    (fallback fallback' : String) (logger : Logger) :
    (logger.initWith env format fallback).initWith env' format' fallback' =
      logger.initWith env format fallback := by
  cases h : logger.setup <;> simp [initWith, h]

/-! ## Logging -/

/-- Logs some events, each at its time. -/
def logAll (entries : List (Timestamp × Record)) (logger : Logger) : Logger :=
  entries.foldl (fun logger entry => logger.log entry.1 entry.2) logger

/-- The events that a filter lets through. -/
def admitted (filter : Filter) (entries : List (Timestamp × Record)) : List (Timestamp × Record) :=
  entries.filter fun entry => filter.admits entry.2

/-- Before it is set up, a logger loses all events. -/
theorem logAll_of_not_setup (h : logger.setup = none) (entries : List (Timestamp × Record)) :
    logger.logAll entries = logger := by
  induction entries with
  | nil => rfl
  | cons entry entries ih =>
    have hlog : logger.log entry.1 entry.2 = logger := by simp [log, h]
    rw [logAll, List.foldl_cons, hlog]
    exact ih

/-- A logger that is set up writes an event if its filter lets it through. -/
theorem log_of_setup (h : logger.setup = some (format, filter)) (now : Timestamp) (r : Record) :
    logger.log now r = { logger with
      written := logger.written ++ (if filter.admits r then format.write now r else []) } := by
  obtain ⟨setup, written⟩ := logger
  obtain rfl : setup = some (format, filter) := h
  by_cases hadmits : filter.admits r = true <;> simp [log, hadmits]

/-- A logger that is set up writes what its filter lets through, behind what it has written. -/
theorem logAll_of_setup (h : logger.setup = some (format, filter))
    (entries : List (Timestamp × Record)) : logger.logAll entries =
      { logger with written := logger.written ++
          (admitted filter entries).flatMap fun entry => format.write entry.1 entry.2 } := by
  induction entries generalizing logger with
  | nil => simp [logAll, admitted]
  | cons entry entries ih =>
    have hcons : logger.logAll (entry :: entries) =
        (logger.log entry.1 entry.2).logAll entries := rfl
    have hsetup : (logger.log entry.1 entry.2).setup = some (format, filter) := by
      rw [log_of_setup h, h]
    rw [hcons, ih hsetup, log_of_setup h]
    by_cases hadmits : filter.admits entry.2 = true <;> simp [admitted, hadmits]

/-! ## Lines -/

/-- Pieces that end in a line feed each are the lines, if they are printable. -/
theorem lines_of_written {pieces : List (List Char)} (hprintable : ∀ cs ∈ pieces, Printable cs)
    (h : logger.written = pieces.flatMap (· ++ ['\n'])) : logger.lines = pieces := by
  have hsplit : logger.written.splitOn '\n' = pieces ++ [[]] := by
    rw [h]
    refine splitOn_flatMap_ended fun cs hcs hfeed => ?_
    exact absurd (hprintable cs hcs '\n' hfeed) (by decide)
  have hkept : ∀ cs ∈ pieces, lines.unended cs = cs := fun cs hcs => by
    refine if_neg fun hlast => ?_
    exact absurd (hprintable cs hcs '\r' (List.mem_of_getLast? hlast)) (by decide)
  rw [lines, hsplit, List.reverse_append]
  simp only [List.reverse_cons, List.reverse_nil, List.nil_append, List.singleton_append,
    List.reverse_reverse]
  exact (List.map_congr_left hkept).trans (List.map_id' pieces)

/-- The lines of a process that sets its logger up as usual are the JSON objects of the events that
the filter of `RUST_LOG` lets through, in the order in which they were logged. -/
theorem lines_logAll_init (env : Environment) (entries : List (Timestamp × Record)) :
    ((init env {}).logAll entries).lines =
      (admitted (Filter.choose (env.text? "RUST_LOG") "info") entries).map fun entry =>
        (entry.2.toJson entry.1).render := by
  refine lines_of_written (fun cs hcs => ?_) ?_
  · obtain ⟨entry, _, rfl⟩ := List.mem_map.mp hcs
    exact entry.2.printable_toJson entry.1
  · rw [logAll_of_setup rfl, List.flatMap_map]
    rfl

end Logger

end Logging

end AccessControl
