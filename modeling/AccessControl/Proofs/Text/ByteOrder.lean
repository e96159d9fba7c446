import Mathlib.Tactic.SplitIfs

/-!
# The byte order of texts

Texts are ordered by their characters. UTF-8 keeps this order: of two characters the smaller one
has the smaller encoding, whatever follows the two. So sorting texts by their characters sorts them
by their bytes (`lt_iff_utf8_lt`).
-/

namespace AccessControl.Text

/-- The bytes of a text. -/
def utf8 (text : String) : List UInt8 :=
  text.toUTF8.data.toList

/-- The bytes of a text are those of its characters. -/
theorem utf8_eq_flatMap (text : String) :
    utf8 text = text.toList.flatMap String.utf8EncodeChar := by
  rw [utf8, String.toUTF8_eq_toByteArray, ← String.utf8Encode_toList, List.utf8Encode,
    List.data_toByteArray]

/-- Every character has a code below `0x110000`. -/
theorem code_lt (c : Char) : c.val.toNat < 1114112 := by
  rcases c.valid with h | h
  · exact Nat.lt_trans h (by decide)
  · exact h.2

/-- The smaller of two characters has the smaller encoding, and neither encoding is the start of
the other. -/
theorem utf8EncodeChar_append_lt {c d : Char} (h : c < d) (s t : List UInt8) :
    String.utf8EncodeChar c ++ s < String.utf8EncodeChar d ++ t := by
  have hlt : c.val.toNat < d.val.toNat := h
  have hmax : d.val.toNat < 1114112 := code_lt d
  simp only [String.utf8EncodeChar]
  generalize c.val.toNat = m at *
  generalize d.val.toNat = n at *
  -- the digits of a code to the base 64, one from the other
  have hdigits (k : Nat) : k / 4096 = k / 64 / 64 ∧ k / 262144 = k / 64 / 64 / 64 := by omega
  simp only [hdigits]
  -- one case for each pair of lengths; the first bytes tell different lengths apart
  split_ifs <;>
    simp only [List.cons_append, List.nil_append, List.cons_lt_cons_iff, UInt8.lt_iff_toNat_lt,
      ← UInt8.toNat_inj, UInt8.toNat_ofNat'] <;>
    simp (disch := omega) only [Nat.mod_eq_of_lt (b := 2 ^ 8)] <;>
    omega

/-- Every character has a byte. -/
theorem utf8EncodeChar_ne_nil (c : Char) : String.utf8EncodeChar c ≠ [] := by
  simp only [String.utf8EncodeChar]
  split_ifs <;> exact List.cons_ne_nil _ _

/-- Lists of characters are ordered as their bytes are. -/
theorem flatMap_utf8EncodeChar_lt {s t : List Char} (h : s < t) :
    s.flatMap String.utf8EncodeChar < t.flatMap String.utf8EncodeChar := by
  induction h with
  | nil =>
    rename_i d t
    obtain ⟨b, bs, hd⟩ := List.exists_cons_of_ne_nil (utf8EncodeChar_ne_nil d)
    rw [List.flatMap_cons, hd, List.flatMap_nil, List.cons_append]
    exact List.nil_lt_cons _ _
  | rel hlt =>
    rw [List.flatMap_cons, List.flatMap_cons]
    exact utf8EncodeChar_append_lt hlt _ _
  | @cons c s t _ ih =>
    rw [List.flatMap_cons, List.flatMap_cons]
    exact List.append_left_lt ih

/-- One text is before another exactly when its bytes are. -/
theorem lt_iff_utf8_lt {s t : String} : s < t ↔ utf8 s < utf8 t := by
  have hmono {s t : String} (h : s < t) : utf8 s < utf8 t := by
    rw [utf8_eq_flatMap, utf8_eq_flatMap]
    exact flatMap_utf8EncodeChar_lt (String.lt_iff.mp h)
  refine ⟨hmono, fun h => String.not_le.mp fun hle => ?_⟩
  by_cases heq : s = t
  · exact List.lt_irrefl _ (heq ▸ h)
  · have hlt : t < s := String.not_le.mp fun hge => heq (String.le_antisymm hge hle)
    exact List.lt_irrefl _ (List.lt_trans h (hmono hlt))

example : "z" < "é" ∧ utf8 "z" = [122] ∧ utf8 "é" = [195, 169] := by decide

end AccessControl.Text
