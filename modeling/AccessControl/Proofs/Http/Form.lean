import AccessControl.Http.Url

/-!
# Reading form-encoded pairs

`Form.decode?` reads a list of pairs as the receiver of a form does: the text is split at each `&`,
every piece at its first `=`, and in names and values a `+` is a space and percent-encoded bytes are
decoded; pieces without a character are passed over. Bytes that are no UTF-8 make no pair.

What is encoded can be read back (`Form.decode?_encode`), whatever characters it holds.
-/

namespace AccessControl.Http.Form

open AccessControl.Text

/-! ## Reading -/

/-- The text of which these are the bytes. -/
def textOf? (bytes : List UInt8) : Option String :=
  String.fromUTF8? bytes.toByteArray

/-- A plus sign is a space. -/
def spaced (c : Char) : Char :=
  if c = '+' then ' ' else c

/-- Reads a name or a value. -/
def decodePart? (cs : List Char) : Option String :=
  textOf? (percentDecode (cs.map spaced))

/-- Reads a pair. -/
def decodePair? (piece : List Char) : Option (String × String) := do
  let (name, value) := Url.cut '=' piece
  return (← decodePart? name, ← decodePart? (value.getD []))

/-- Reads a list of pairs. -/
def decode? (cs : List Char) : Option (List (String × String)) :=
  ((cs.splitOn '&').filter (!·.isEmpty)).mapM decodePair?

/-! ## Bytes and digits -/

/-- A text is read back from its bytes. -/
theorem textOf?_utf8 (cs : List Char) :
    textOf? (cs.flatMap String.utf8EncodeChar) = some (String.ofList cs) := by
  have hvalid : (cs.flatMap String.utf8EncodeChar).toByteArray.IsValidUTF8 := ⟨cs, rfl⟩
  rw [textOf?, String.fromUTF8?, dif_pos hvalid]
  rfl

/-- The value of a hexadecimal digit is the number that it was written for. -/
theorem hexValue?_upperHexDigit : ∀ n < 16, hexValue? (upperHexDigit n) = some n := by decide

/-- A percent-encoded byte is read back. -/
theorem percentDecode_percentByte (b : UInt8) (rest : List Char) :
    percentDecode (percentByte b ++ rest) = b :: percentDecode rest := by
  have hb : b.toNat < 256 := b.toNat_lt
  have hhigh := hexValue?_upperHexDigit (b.toNat / 16) (by omega)
  have hlow := hexValue?_upperHexDigit (b.toNat % 16) (by omega)
  simp only [percentByte, List.cons_append, List.nil_append, percentDecode, hhigh, hlow]
  rw [Nat.div_add_mod, UInt8.ofNat_toNat]

/-- A byte is written with a percent sign and digits. -/
theorem of_mem_percentByte {P : Char → Prop} (hpercent : P '%')
    (hdigit : ∀ n < 16, P (upperHexDigit n)) {b : UInt8} {c : Char} (h : c ∈ percentByte b) :
    P c := by
  have hb : b.toNat < 256 := b.toNat_lt
  simp only [percentByte, List.mem_cons, List.not_mem_nil, or_false] at h
  rcases h with rfl | rfl | rfl
  · exact hpercent
  · exact hdigit _ (by omega)
  · exact hdigit _ (by omega)

/-- Escaped bytes are read back as these bytes. -/
theorem percentDecode_flatMap_percentByte (bytes : List UInt8) (rest : List Char) :
    percentDecode (bytes.flatMap percentByte ++ rest) = bytes ++ percentDecode rest := by
  induction bytes with
  | nil => rfl
  | cons b bytes ih =>
    rw [List.flatMap_cons, List.append_assoc, percentDecode_percentByte, ih, List.cons_append]

/-- Everything but a percent sign stands for its own bytes. -/
theorem percentDecode_cons {c : Char} (h : c ≠ '%') (rest : List Char) :
    percentDecode (c :: rest) = String.utf8EncodeChar c ++ percentDecode rest := by
  rw [percentDecode]
  intro _ _ _ hc
  exact absurd hc h

/-! ## Names and values -/

/-- No hexadecimal digit is a mark of a form. -/
theorem upperHexDigit_ne : ∀ n < 16,
    upperHexDigit n ≠ '+' ∧ upperHexDigit n ≠ '&' ∧ upperHexDigit n ≠ '=' := by decide

/-- No byte is written with a mark of the form. -/
theorem ne_of_mem_percentByte {b : UInt8} {c : Char} (h : c ∈ percentByte b) :
    c ≠ '+' ∧ c ≠ '&' ∧ c ≠ '=' :=
  of_mem_percentByte (P := fun c => c ≠ '+' ∧ c ≠ '&' ∧ c ≠ '=') (by decide) upperHexDigit_ne h

/-- What stands for itself is no mark of the form, and no percent sign. -/
theorem ne_of_isPlain {c : Char} (h : isPlain c = true) :
    c ≠ '+' ∧ c ≠ '&' ∧ c ≠ '=' ∧ c ≠ '%' := by
  refine ⟨?_, ?_, ?_, ?_⟩ <;>
  · rintro rfl
    exact absurd h (by decide)

theorem encodePart_cons (c : Char) (cs : List Char) :
    encodePart (c :: cs) =
      (if c = ' ' then ['+'] else percentChar isPlain c) ++ encodePart cs := rfl

/-- An encoded part holds none of the characters that divide a form. -/
theorem ne_of_mem_encodePart {cs : List Char} {c : Char} (h : c ∈ encodePart cs) :
    c ≠ '&' ∧ c ≠ '=' := by
  obtain ⟨d, _, hc⟩ := List.mem_flatMap.mp h
  by_cases hspace : d = ' '
  · rw [if_pos hspace, List.mem_singleton] at hc
    subst hc
    decide
  · rw [if_neg hspace, percentChar] at hc
    by_cases hplain : isPlain d = true
    · rw [if_pos hplain, List.mem_singleton] at hc
      subst hc
      obtain ⟨_, hamp, heq, _⟩ := ne_of_isPlain hplain
      exact ⟨hamp, heq⟩
    · rw [if_neg hplain] at hc
      obtain ⟨b, _, hb⟩ := List.mem_flatMap.mp hc
      exact (ne_of_mem_percentByte hb).2

/-- Bytes hold no plus sign, so reading pluses as spaces does not touch them. -/
theorem map_spaced_flatMap_percentByte (bytes : List UInt8) :
    (bytes.flatMap percentByte).map spaced = bytes.flatMap percentByte := by
  have hsame : ∀ c ∈ bytes.flatMap percentByte, spaced c = id c := by
    intro c hc
    obtain ⟨b, _, hb⟩ := List.mem_flatMap.mp hc
    exact if_neg (ne_of_mem_percentByte hb).1
  rw [List.map_congr_left hsame, List.map_id]

/-- The bytes of an encoded part are those of the text. -/
theorem percentDecode_encodePart (cs : List Char) :
    percentDecode ((encodePart cs).map spaced) = cs.flatMap String.utf8EncodeChar := by
  induction cs with
  | nil => rfl
  | cons c cs ih =>
    rw [encodePart_cons, List.map_append, List.flatMap_cons, ← ih]
    by_cases hspace : c = ' '
    · subst hspace
      exact percentDecode_cons (by decide) _
    · rw [if_neg hspace, percentChar]
      by_cases hplain : isPlain c = true
      · obtain ⟨hplus, _, _, hpercent⟩ := ne_of_isPlain hplain
        rw [if_pos hplain, List.map_singleton, spaced, if_neg hplus]
        exact percentDecode_cons hpercent _
      · rw [if_neg hplain, map_spaced_flatMap_percentByte]
        exact percentDecode_flatMap_percentByte _ _

/-- An encoded part is read back. -/
theorem decodePart?_encodePart (s : String) : decodePart? (encodePart s.toList) = some s := by
  rw [decodePart?, percentDecode_encodePart, textOf?_utf8, String.ofList_toList]

/-! ## Pairs -/

/-- A text is cut at the first mark. -/
theorem cut_append {mark : Char} {before behind : List Char} (h : mark ∉ before) :
    Url.cut mark (before ++ mark :: behind) = (before, some behind) := by
  have hall : ∀ c ∈ before, (c != mark) = true := by
    intro c hc
    simpa using fun heq : c = mark => h (heq ▸ hc)
  rw [Url.cut, List.dropWhile_append_of_pos hall, List.takeWhile_append_of_pos hall]
  simp

/-- A pair is read back from its encoding. -/
theorem decodePair?_encodePair (pair : String × String) :
    decodePair? (encodePair (pair.1.toList, pair.2.toList)) = some pair := by
  have hcut : '=' ∉ encodePart pair.1.toList := fun h => (ne_of_mem_encodePart h).2 rfl
  simp only [decodePair?, encodePair, cut_append hcut, decodePart?_encodePart, Option.getD_some,
    Option.bind_eq_bind, Option.bind_some, Option.pure_def]

/-- A pair is written with an equals sign, and without an ampersand. -/
theorem encodePair_divides (pair : List Char × List Char) :
    '&' ∉ encodePair pair ∧ (encodePair pair).isEmpty = false := by
  refine ⟨fun h => ?_, by simp [encodePair]⟩
  rw [encodePair, List.mem_append, List.mem_cons] at h
  rcases h with h | h | h
  · exact (ne_of_mem_encodePart h).1 rfl
  · exact absurd h (by decide)
  · exact (ne_of_mem_encodePart h).1 rfl

/-- Pairs are read back from their encodings. -/
theorem mapM_decodePair? (pairs : List (String × String)) :
    (pairs.map fun pair => encodePair (pair.1.toList, pair.2.toList)).mapM decodePair? =
      some pairs := by
  induction pairs with
  | nil => rfl
  | cons pair pairs ih =>
    rw [List.map_cons, List.mapM_cons, decodePair?_encodePair, ih]
    rfl

/-- What is encoded can be read back. -/
theorem decode?_encode (pairs : List (String × String)) :
    decode? (encode (pairs.map fun pair => (pair.1.toList, pair.2.toList))) = some pairs := by
  cases pairs with
  | nil => rfl
  | cons pair pairs =>
    rw [decode?, encode, List.map_map, List.splitOn_intercalate, List.filter_eq_self.mpr]
    · exact mapM_decodePair? (pair :: pairs)
    · intro piece hpiece
      obtain ⟨_, _, rfl⟩ := List.mem_map.mp hpiece
      rw [Function.comp_apply, (encodePair_divides _).2]
      rfl
    · intro piece hpiece
      obtain ⟨_, _, rfl⟩ := List.mem_map.mp hpiece
      exact (encodePair_divides _).1
    · exact List.cons_ne_nil _ _

end AccessControl.Http.Form
