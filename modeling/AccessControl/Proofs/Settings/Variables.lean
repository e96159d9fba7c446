import AccessControl.Proofs.Settings.Values
import AccessControl.Settings.Load

/-!
# Values of variables

The value of a variable is a run of bytes, which is a text or not
(`Environment.textOf?_eq_some_iff`). A variable that holds a text is read as the value that its text
stands for, blanks around it left out; if the text stands for no value, the variable is named in the
error. The default takes the place of a variable that is not set, but also of one that is set and
holds no text (`Settings.set_variable_parsed`, `Settings.bytes_without_text_defaulted`).
-/

namespace AccessControl

open AccessControl.Text

namespace Environment

/-- The bytes of a text, from a byte on. -/
theorem toList_loop (b : ByteArray) (i : Nat) (front : List UInt8) :
    ByteArray.toList.loop b i front = front.reverse ++ b.data.toList.drop i := by
  fun_induction ByteArray.toList.loop b i front with
  | case1 i front hlt ih =>
    have hlength : i < b.data.toList.length := hlt
    have hget : b.get! i = b.data.toList[i] := by
      simp [ByteArray.get!, hlt]
    rw [ih, List.reverse_cons, List.append_assoc, hget, List.singleton_append,
      ← List.drop_eq_getElem_cons]
  | case2 i front hge =>
    rw [List.drop_of_length_le (Nat.not_lt.mp hge), List.append_nil]

theorem bytes_eq (text : String) : bytes text = text.toByteArray.data.toList := by
  rw [bytes, ByteArray.toList, toList_loop]
  rfl

/-- Bytes hold a text exactly if they are the bytes of this text. -/
theorem textOf?_eq_some_iff {value : List UInt8} {text : String} :
    textOf? value = some text ↔ value = bytes text := by
  rw [bytes_eq, textOf?, String.fromUTF8?]
  constructor
  · intro h
    split at h
    · cases h
      rfl
    · cases h
  · rintro rfl
    rw [dif_pos text.isValidUTF8]
    rfl

/-- A text is read back from its bytes. -/
theorem textOf?_bytes (text : String) : textOf? (bytes text) = some text :=
  textOf?_eq_some_iff.mpr rfl

/-- Bytes are no text exactly when they are those of none. -/
theorem textOf?_eq_none_iff {value : List UInt8} :
    textOf? value = none ↔ ∀ text, value ≠ bytes text := by
  simp only [Option.eq_none_iff_forall_ne_some, ne_eq, textOf?_eq_some_iff]

/-- A variable whose bytes are known holds the text that they hold. -/
theorem text?_eq {env : Environment} {key : String} {value : Option (List UInt8)}
    (h : env.value? key = value) : env.text? key = value.bind textOf? := by
  rw [text?, h]

end Environment

namespace Settings

/-- What the text of a variable is read as, or a default. -/
def parsed {α : Type} (kind : Kind α) (default : α) : Option String → Except ValueError α
  | some text => kind.parse (trim text.toList)
  | none => .ok default

/-- A value is parsed from its variable or taken by default, without an event. -/
theorem parseOr_run {α : Type} (kind : Kind α) (key : String) (default : α) (env : Environment) :
    parseOr kind key default env =
      ⟨(parsed kind default (env.text? key)).mapError (⟨key, ·⟩), [], env⟩ := by
  simp only [parseOr, Action.bind_run, Action.get_run]
  cases env.text? key <;> rfl

/-- A variable that holds a text is read as what the text stands for, blanks around it left out. -/
theorem parseOr_eq_ok_iff {t : ValueType} {env : Environment} {key text : String}
    {default v : t.Value} (h : env.text? key = some text) :
    (parseOr t.kind key default env).result = .ok v ↔ t.Spells (trim text.toList) v := by
  simp only [parseOr_run, h, parsed, ← t.parse_eq_ok_iff]
  -- naming the variable in an error makes no value of it
  cases t.kind.parse (trim text.toList) <;> simp [Except.mapError]

/-- A variable that is not set has the default. One that holds a text is read as what the text
without the blanks at its ends stands for, so that every value is found again in its canonical text
with any blanks around it; a text that stands for no value is an error with the name of the
variable. Only a variable that is set to something other than a text has the default as well, and
nothing is told of it. -/
theorem set_variable_parsed (t : ValueType) (env : Environment) (key : String)
    (default : t.Value) :
    let read := parseOr t.kind key default env
    (env.value? key = none → read.result = .ok default) ∧
    (∀ text, env.value? key = some (Environment.bytes text) →
      read.result = (t.kind.parse (trim text.toList)).mapError (⟨key, ·⟩) ∧
      (∀ v, read.result = .ok v ↔ t.Spells (trim text.toList) v) ∧
      ((∀ v, ¬ t.Spells (trim text.toList) v) → ∃ cause, read.result = .error ⟨key, cause⟩)) ∧
    (∀ v before after, t.Proper v → Blank before → Blank after →
      env.value? key =
        some (Environment.bytes (String.ofList (before ++ t.kind.render v ++ after))) →
      read.result = .ok v) ∧
    ∀ value, env.value? key = some value → (∀ text, value ≠ Environment.bytes text) →
      read = ⟨.ok default, [], env⟩ := by
  intro read
  have holds {text : String} (h : env.value? key = some (Environment.bytes text)) :
      env.text? key = some text :=
    (Environment.text?_eq h).trans (Environment.textOf?_bytes text)
  refine ⟨fun h => ?_, fun text h => ?_, fun v before after proper hbefore hafter h => ?_,
    fun value h hbytes => ?_⟩
  · simp only [read, parseOr_run, Environment.text?_eq h, Option.bind_none, parsed]
    rfl
  · have hread : read.result = (t.kind.parse (trim text.toList)).mapError (⟨key, ·⟩) := by
      simp only [read, parseOr_run, holds h, parsed]
    refine ⟨hread, fun v => parseOr_eq_ok_iff (holds h), fun hnone => ?_⟩
    cases hparse : t.kind.parse (trim text.toList) with
    | ok v => exact absurd (t.parse_eq_ok_iff.mp hparse) (hnone v)
    | error cause => exact ⟨cause, by rw [hread, hparse]; rfl⟩
  · refine (parseOr_eq_ok_iff (holds h)).mpr ?_
    rw [String.toList_ofList, trim_append (t.trimmed_render proper) hbefore hafter]
    exact t.spells_render proper
  · have hnone : env.text? key = none :=
      (Environment.text?_eq h).trans (Environment.textOf?_eq_none_iff.mpr hbytes)
    simp only [read, parseOr_run, hnone, parsed]
    rfl

/-- A variable is set to a single byte that is no text, and is read as the default. -/
theorem bytes_without_text_defaulted :
    let env := Environment.ofList [("LIMIT", [255])]
    env.value? "LIMIT" = some [255] ∧
      (parseOr ValueType.unsigned64.kind "LIMIT" (11 : Int) env).result = .ok 11 := by
  decide +kernel

end Settings

end AccessControl
