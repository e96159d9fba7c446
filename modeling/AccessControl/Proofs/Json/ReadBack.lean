import AccessControl.Json.Shape
import Mathlib.Data.List.Forall2

/-!
# Reading back what was written

`Reader.Reads r v x` says that a reader takes the text of the value `v` from the front of any text
in which `v` may stand, and answers `x`. Strings are read back whatever characters they hold
(`Shape.reads_string`), an array is when its items are (`Shape.reads_list`), and a record when its
entries, one after the other, fill its draft (`Shape.reads_record`).

A whole text is then read back by `Shape.ofText_text`.
-/

namespace AccessControl.Json

open AccessControl.Text

/-! ## Steps of a reader -/

namespace Reader

variable {α β σ : Type}

/-- A step that succeeds hands its result and the rest of the text on. -/
theorem bind_run {r : Reader α} {cs cs' : List Char} {x : α} (h : r cs = .ok (x, cs'))
    (next : α → Reader β) : (r >>= next) cs = next x cs' := by
  change (r cs >>= fun p => next p.1 p.2) = _
  rw [h]
  rfl

/-- A character that is no blank is shown and stays. -/
theorem look_cons {c : Char} (h : isGap c = false) (rest : List Char) :
    look (c :: rest) = .ok (c, c :: rest) := by
  rw [look, List.dropWhile_cons_of_neg (by rw [h]; exact Bool.false_ne_true)]

/-- The next character is taken, whatever it is. -/
theorem take_cons (c : Char) (rest : List Char) : take (c :: rest) = .ok (c, rest) := rfl

/-- Characters are taken where they stand in front. -/
theorem literal_run (cs rest : List Char) : literal cs (cs ++ rest) = .ok ((), rest) := by
  induction cs with
  | nil => rfl
  | cons c cs ih => rw [literal, List.cons_append, bind_run (take_cons _ _), if_pos rfl, ih]

/-! ## Strings -/

/-- The value of a hexadecimal digit is the number that it was written for. -/
theorem hexValue?_hexDigit : ∀ n < 16, hexValue? (hexDigit n) = some n := by decide

/-- Four hexadecimal digits are taken as their value. -/
theorem hex4_run {a b c d : Char} {n : Nat} (h : hexValue4? [a, b, c, d] = some n)
    (rest : List Char) : hex4 (a :: b :: c :: d :: rest) = .ok (n, rest) := by
  have ha := a.utf8Size_pos
  have hb := b.utf8Size_pos
  have hc := c.utf8Size_pos
  have hd := d.utf8Size_pos
  have hfour : ¬ a.utf8Size + (b.utf8Size + (c.utf8Size + (d.utf8Size + 0))) < 4 := by omega
  simp only [hex4, List.take_succ_cons, List.take_zero, List.foldr_cons, List.foldr_nil, h,
    List.drop_succ_cons, List.drop_zero, if_neg hfour]

/-- A control character is written with the digits of its code. -/
theorem hexValue4?_control {c : Char} (h : c.toNat < 32) :
    hexValue4? ['0', '0', hexDigit (c.toNat / 16), hexDigit (c.toNat % 16)] = some c.toNat := by
  have hhigh := hexValue?_hexDigit (c.toNat / 16) (by omega)
  have hlow := hexValue?_hexDigit (c.toNat % 16) (by omega)
  have hzero : hexValue? '0' = some 0 := by decide
  simp only [hexValue4?, hhigh, hlow, hzero, Option.bind_eq_bind, Option.bind_some,
    Option.pure_def, Option.some.injEq]
  omega

/-- The four digits of a control character are taken as this character. -/
theorem codePoint_run {c : Char} (h : c.toNat < 32) (rest : List Char) :
    codePoint ('0' :: '0' :: hexDigit (c.toNat / 16) :: hexDigit (c.toNat % 16) :: rest) =
      .ok (c, rest) := by
  rw [codePoint, bind_run (hex4_run (hexValue4?_control h) rest), if_neg (by omega),
    if_neg (by omega), Char.ofNat_toNat]
  rfl

/-- A letter behind a backslash is taken as the character that it stands for. -/
theorem escaped_short {e c : Char} (hu : e ≠ 'u') (h : shortEscape? e = some c)
    (rest : List Char) : escaped (e :: rest) = .ok (c, rest) := by
  rw [escaped, bind_run (take_cons e rest), if_neg hu, h]
  rfl

/-- Behind a backslash, a control character is read back from its digits. -/
theorem escaped_control {c : Char} (h : c.toNat < 32) (rest : List Char) :
    escaped ('u' :: '0' :: '0' :: hexDigit (c.toNat / 16) :: hexDigit (c.toNat % 16) :: rest) =
      .ok (c, rest) := by
  rw [escaped, bind_run (take_cons _ _), if_pos rfl, codePoint_run h rest]

/-- A character in a string is an escape that stands for it, or stands for itself. -/
theorem escape_cases (c : Char) :
    (∃ e, escape c = '\\' :: e ∧ ∀ rest, escaped (e ++ rest) = .ok (c, rest)) ∨
      (escape c = [c] ∧ c ≠ '"' ∧ c ≠ '\\' ∧ 32 ≤ c.toNat) := by
  obtain ⟨cs, hcs⟩ : ∃ cs, escape c = cs := ⟨_, rfl⟩
  rw [hcs]
  unfold escape at hcs
  split at hcs
  · next h => exact .inl ⟨_, hcs.symm, escaped_short (by decide) (by rw [h]; decide)⟩
  split at hcs
  · next h => exact .inl ⟨_, hcs.symm, escaped_short (by decide) (by rw [h]; decide)⟩
  split at hcs
  · next h => exact .inl ⟨_, hcs.symm, escaped_short (by decide) (by rw [h]; decide)⟩
  split at hcs
  · next h => exact .inl ⟨_, hcs.symm, escaped_short (by decide) (by rw [h]; decide)⟩
  split at hcs
  · next h => exact .inl ⟨_, hcs.symm, escaped_short (by decide) (by rw [h]; decide)⟩
  split at hcs
  · next h =>
    have hc : c = '\x08' := Char.toNat_inj.mp h
    exact .inl ⟨_, hcs.symm, escaped_short (by decide) (by rw [hc]; decide)⟩
  split at hcs
  · next h =>
    have hc : c = '\x0c' := Char.toNat_inj.mp h
    exact .inl ⟨_, hcs.symm, escaped_short (by decide) (by rw [hc]; decide)⟩
  split at hcs
  · next h => exact .inl ⟨_, hcs.symm, escaped_control h⟩
  · next hquote hback _ _ _ _ _ hcontrol =>
    exact .inr ⟨hcs.symm, hquote, hback, Nat.le_of_not_lt hcontrol⟩

/-- In a string, what stands for a character is read as this character. -/
theorem stringRest_escape (n : Nat) (c : Char) (rest : List Char) :
    stringRest (n + 1) (escape c ++ rest) =
      (do return c :: (← stringRest n) : Reader (List Char)) rest := by
  obtain ⟨e, he, hread⟩ | ⟨hc, hquote, hback, hcontrol⟩ := escape_cases c
  · rw [he, List.cons_append, stringRest, bind_run (take_cons _ _), if_neg (by decide),
      if_pos rfl, bind_run (hread rest)]
  · rw [hc, List.singleton_append, stringRest, bind_run (take_cons _ _), if_neg hquote,
      if_neg hback, if_neg (Nat.not_lt.mpr hcontrol)]

/-- The characters of a string are read back up to its closing quotation mark. -/
theorem stringRest_run (cs : List Char) {n : Nat} (h : cs.length < n) (rest : List Char) :
    stringRest n (cs.flatMap escape ++ '"' :: rest) = .ok (cs, rest) := by
  induction cs generalizing n with
  | nil =>
    obtain ⟨m, rfl⟩ := Nat.exists_eq_add_of_lt h
    rfl
  | cons c cs ih =>
    obtain ⟨m, rfl⟩ := Nat.exists_eq_add_of_lt h
    rw [List.flatMap_cons, List.append_assoc, stringRest_escape, bind_run (ih (by simp; omega))]
    rfl

/-- Escaping makes no text shorter. -/
theorem length_le_flatMap_escape (cs : List Char) : cs.length ≤ (cs.flatMap escape).length := by
  induction cs with
  | nil => exact Nat.le_refl 0
  | cons c cs ih =>
    have hone : 1 ≤ (escape c).length := by
      obtain ⟨e, he, _⟩ | ⟨hc, _⟩ := escape_cases c
      · rw [he, List.length_cons]
        omega
      · rw [hc]
        exact Nat.le_refl 1
    rw [List.flatMap_cons, List.length_append, List.length_cons]
    omega

/-- A string is read back, whatever stands behind it. -/
theorem quoted_run (s : String) (rest : List Char) : quoted (quote s ++ rest) = .ok (s, rest) := by
  -- the bound is the length of the text, and escapes only make it longer
  have hlength := length_le_flatMap_escape s.toList
  rw [quote, List.cons_append, List.append_assoc, List.singleton_append, quoted,
    bind_run (take_cons _ _), bind_run (x := s.toList.flatMap escape ++ '"' :: rest) rfl,
    bind_run (stringRest_run s.toList (by rw [List.length_append]; omega) rest),
    String.ofList_toList]
  rfl

/-! ## Values -/

/-- The text ends here, or goes on as it may behind a value. -/
def Follows (rest : List Char) : Prop :=
  ∀ c ∈ rest.head?, c = ',' ∨ c = ']' ∨ c = '\x7d'

/-- The text of `v` starts with no blank and with no end of an array, and the reader takes it and
answers `x`. -/
structure Reads (r : Reader α) (v : Value) (x : α) : Prop where
  opens : ∃ c cs, v.render = c :: cs ∧ isGap c = false ∧ c ≠ ']'
  takes : ∀ rest, Follows rest → r (v.render ++ rest) = .ok (x, rest)

/-- What follows a reader may go on with its answer as long as it takes nothing more. -/
theorem Reads.andThen {r : Reader α} {next : α → Reader β} {v : Value} {x : α} {y : β}
    (h : Reads r v x) (hnext : ∀ rest, next x rest = .ok (y, rest)) : Reads (r >>= next) v y where
  opens := h.opens
  takes rest hrest := by rw [bind_run (h.takes rest hrest), hnext]

/-- The end of the text may follow a value. -/
theorem follows_nil : Follows [] := fun _ h => nomatch h

/-- The further items of an array may follow a value. -/
theorem follows_renderItems (vs : List Value) (rest : List Char) :
    Follows (renderItems vs ++ rest) := by
  cases vs <;> simp [Follows, renderItems]

/-- The further entries of an object may follow a value. -/
theorem follows_renderEntries (es : Entries) (rest : List Char) :
    Follows (renderEntries es ++ rest) := by
  cases es <;> simp [Follows, renderEntries]

/-- The text of an array opens with a bracket. -/
theorem render_array (vs : List Value) : ∃ cs, (Value.array vs).render = '[' :: cs := by
  cases vs <;> exact ⟨_, rfl⟩

/-- The text of an object opens with a brace. -/
theorem render_object (es : Entries) : ∃ cs, (Value.object es).render = '\x7b' :: cs := by
  cases es <;> exact ⟨_, rfl⟩

/-! ## Arrays -/

/-- At the closing mark no other element comes. -/
theorem another_close {close : Char} (h : isGap close = false) (first : Bool)
    (rest : List Char) : another close first (close :: rest) = .ok (false, rest) := by
  rw [another, bind_run (look_cons h rest), if_pos rfl, bind_run (take_cons _ _)]
  rfl

/-- In front of the first element there is no comma. -/
theorem another_first {close c : Char} (h : isGap c = false) (hne : c ≠ close)
    (rest : List Char) : another close true (c :: rest) = .ok (true, c :: rest) := by
  rw [another, bind_run (look_cons h rest), if_neg hne]
  rfl

/-- A comma announces another element. -/
theorem another_comma {close c : Char} (h : isGap c = false) (hne : c ≠ close)
    (hclose : ',' ≠ close) (rest : List Char) :
    another close false (',' :: c :: rest) = .ok (true, c :: rest) := by
  rw [another, bind_run (look_cons (by decide) _), if_neg hclose, if_neg Bool.false_ne_true,
    if_pos rfl, bind_run (take_cons _ _), bind_run (look_cons h rest), if_neg hne]
  rfl

variable {item : Reader α} {v : Value} {x : α} {vs : List Value} {xs : List α}

/-- A value that is read may be the first item of an array. -/
theorem Reads.another_first (h : Reads item v x) (rest : List Char) :
    another ']' true (v.render ++ rest) = .ok (true, v.render ++ rest) := by
  obtain ⟨c, cs, hopens, hgap, hne⟩ := h.opens
  rw [hopens]
  exact Reader.another_first hgap hne _

/-- A value that is read may be a further item of an array, behind a comma. -/
theorem Reads.another_comma (h : Reads item v x) (rest : List Char) :
    another ']' false (',' :: (v.render ++ rest)) = .ok (true, v.render ++ rest) := by
  obtain ⟨c, cs, hopens, hgap, hne⟩ := h.opens
  rw [hopens]
  exact Reader.another_comma hgap hne (by decide) _

/-- Where an item comes next, it is taken, and then the further ones. -/
theorem items_step (h : Reads item v x) {first : Bool} {text rest : List Char}
    (hnext : another ']' first text = .ok (true, v.render ++ (renderItems vs ++ rest)))
    (n : Nat) :
    items item (n + 1) first text =
      (do return x :: (← items item n false) : Reader (List α)) (renderItems vs ++ rest) := by
  rw [items, bind_run hnext, if_pos rfl, bind_run (h.takes _ (follows_renderItems vs rest))]

/-- The text of the further items is longer than their number. -/
theorem length_lt_renderItems (vs : List Value) : vs.length < (renderItems vs).length := by
  induction vs with
  | nil => exact Nat.one_pos
  | cons v vs ih =>
    rw [renderItems, List.length_cons, List.length_cons, List.length_append]
    omega

/-- Further items are read back one after the other, up to the closing bracket. -/
theorem items_run (h : List.Forall₂ (Reads item) vs xs) {n : Nat} (hn : vs.length < n)
    (rest : List Char) : items item n false (renderItems vs ++ rest) = .ok (xs, rest) := by
  induction h generalizing n with
  | nil =>
    obtain ⟨m, rfl⟩ := Nat.exists_eq_add_of_lt hn
    rw [items, renderItems, List.singleton_append, bind_run (another_close (by decide) _ _)]
    rfl
  | @cons v x vs xs hv _ ih =>
    obtain ⟨m, rfl⟩ := Nat.exists_eq_add_of_lt hn
    rw [renderItems, List.cons_append, List.append_assoc, items_step hv (hv.another_comma _),
      bind_run (ih (by rw [List.length_cons]; omega))]
    rfl

/-- An array is read back when its items are. -/
theorem list_run (h : List.Forall₂ (Reads item) vs xs) (rest : List Char) :
    list item ((Value.array vs).render ++ rest) = .ok (xs, rest) := by
  cases h with
  | nil =>
    rw [list, Value.render, List.cons_append, bind_run (take_cons _ _), bind_run rfl, items,
      List.singleton_append, bind_run (another_close (by decide) _ _)]
    rfl
  | @cons v x vs xs hv hvs =>
    -- the bound is the length of the text, which is more than there are items
    have hlength := length_lt_renderItems vs
    rw [list, Value.render, List.cons_append, List.append_assoc, bind_run (take_cons _ _),
      bind_run rfl, items_step hv (hv.another_first _),
      bind_run (items_run hvs (by simp only [List.length_append]; omega) rest)]
    rfl

/-! ## Objects -/

variable {entry : String → σ → Reader σ} {s s' : σ} {key : String} {es : Entries}

/-- Reading the value under a key, with the colon before it, takes a draft from one state to
another. -/
def Fills (entry : String → σ → Reader σ) (key : String) (v : Value) (s s' : σ) : Prop :=
  ∀ rest, Follows rest → entry key s (':' :: (v.render ++ rest)) = .ok (s', rest)

/-- Reading the entries one after the other takes a draft from one state to another. -/
inductive Gathers (entry : String → σ → Reader σ) : σ → Entries → σ → Prop
  | nil (s : σ) : Gathers entry s [] s
  | cons {s s' s'' : σ} {key : String} {v : Value} {es : Entries}
      (first : Fills entry key v s s') (others : Gathers entry s' es s'') :
      Gathers entry s ((key, v) :: es) s''

/-- The colon behind a key is taken. -/
theorem colon_run (rest : List Char) : colon (':' :: rest) = .ok ((), rest) := by
  rw [colon, bind_run (look_cons (by decide) _), if_pos rfl, bind_run (take_cons _ _)]
  rfl

/-- A key may be that of the first entry of an object. -/
theorem another_quote_first (key : String) (rest : List Char) :
    another '\x7d' true (quote key ++ rest) = .ok (true, quote key ++ rest) :=
  another_first (by decide) (by decide) _

/-- A key may be that of a further entry, behind a comma. -/
theorem another_quote_comma (key : String) (rest : List Char) :
    another '\x7d' false (',' :: (quote key ++ rest)) = .ok (true, quote key ++ rest) :=
  another_comma (by decide) (by decide) (by decide) _

/-- The text of the further entries is longer than their number. -/
theorem length_lt_renderEntries (es : Entries) : es.length < (renderEntries es).length := by
  induction es with
  | nil => exact Nat.one_pos
  | cons e es ih =>
    obtain ⟨key, v⟩ := e
    rw [renderEntries, List.length_cons, List.length_cons, List.length_append, List.length_cons,
      List.length_append]
    omega

section Keys

/- What is taken of a key may be less than the key. -/
variable {κ : Type} {keys : Reader κ} {name : String → κ} {fill : κ → σ → Reader σ}
  (hkeys : ∀ key rest, keys (quote key ++ rest) = .ok (name key, rest))
include hkeys

/-- Where an entry comes next, it is taken, and then the further ones. -/
theorem entries_step (h : Fills (fun key => fill (name key)) key v s s') {first : Bool}
    {text rest : List Char}
    (hnext : another '\x7d' first text =
      .ok (true, quote key ++ ':' :: (v.render ++ (renderEntries es ++ rest))))
    (n : Nat) :
    entries keys fill (n + 1) first s text =
      entries keys fill n false s' (renderEntries es ++ rest) := by
  have hlook : look (quote key ++ ':' :: (v.render ++ (renderEntries es ++ rest))) =
      .ok ('"', quote key ++ ':' :: (v.render ++ (renderEntries es ++ rest))) :=
    look_cons (by decide) _
  rw [entries, bind_run hnext, if_pos rfl, bind_run hlook, if_pos rfl,
    bind_run (hkeys key _), bind_run (h _ (follows_renderEntries es rest))]

/-- Further entries are gathered one after the other, up to the closing brace. -/
theorem entries_run (h : Gathers (fun key => fill (name key)) s es s') {n : Nat}
    (hn : es.length < n) (rest : List Char) :
    entries keys fill n false s (renderEntries es ++ rest) = .ok (s', rest) := by
  induction h generalizing n with
  | nil s =>
    obtain ⟨m, rfl⟩ := Nat.exists_eq_add_of_lt hn
    rw [entries, renderEntries, List.singleton_append, bind_run (another_close (by decide) _ _)]
    rfl
  | cons first _ ih =>
    obtain ⟨m, rfl⟩ := Nat.exists_eq_add_of_lt hn
    rw [renderEntries, List.cons_append, List.append_assoc, List.cons_append, List.append_assoc,
      entries_step hkeys first (another_quote_comma _ _),
      ih (by rw [List.length_cons]; omega)]

/-- The entries of an object are gathered in the order in which they are written. -/
theorem fold_run (h : Gathers (fun key => fill (name key)) s es s') (rest : List Char) :
    fold keys fill s ((Value.object es).render ++ rest) = .ok (s', rest) := by
  cases h with
  | nil s =>
    rw [fold, Value.render, List.cons_append, bind_run (take_cons _ _), bind_run rfl, entries,
      List.singleton_append, bind_run (another_close (by decide) _ _)]
    rfl
  | @cons s s₁ s' key v es first others =>
    -- the bound is the length of the text, which is more than there are entries
    have hlength := length_lt_renderEntries es
    rw [fold, Value.render, List.cons_append, bind_run (take_cons _ _), bind_run rfl,
      List.append_assoc, List.cons_append, List.append_assoc,
      entries_step hkeys first (another_quote_first _ _),
      entries_run hkeys others (by simp only [List.length_append, List.length_cons]; omega) rest]

end Keys

end Reader

/-! ## Shapes -/

namespace Shape

open Reader

variable {α σ : Type} {n : Nat}

/-- A string is read back, whatever characters it holds. -/
theorem reads_string (s : String) : Reads (string n) (.string s) s where
  opens := ⟨'"', _, rfl, by decide, by decide⟩
  takes rest _ := by
    have hquoted := quoted_run s rest
    rw [Value.render]
    rw [quote, List.cons_append] at hquoted ⊢
    rw [string, bind_run (look_cons (by decide) _), if_pos rfl, hquoted]

/-- A truth value is read back. -/
theorem reads_bool (b : Bool) : Reads (bool n) (.bool b) b where
  opens := by cases b <;> exact ⟨_, _, rfl, by decide, by decide⟩
  takes rest _ := by
    cases b with
    | true =>
      have hliteral := literal_run ['t', 'r', 'u', 'e'] rest
      rw [Value.render, bool]
      rw [List.cons_append] at hliteral ⊢
      rw [bind_run (look_cons (by decide) _), if_pos rfl, bind_run hliteral]
      rfl
    | false =>
      have hliteral := literal_run ['f', 'a', 'l', 's', 'e'] rest
      rw [Value.render, bool]
      rw [List.cons_append] at hliteral ⊢
      rw [bind_run (look_cons (by decide) _), if_neg (by decide), if_pos rfl, bind_run hliteral]
      rfl

/-- An array is read back when its items are. -/
theorem reads_list {item : Shape α} {vs : List Value} {xs : List α}
    (h : List.Forall₂ (Reads (item n)) vs xs) : Reads (list item (n + 1)) (.array vs) xs := by
  obtain ⟨cs, hcs⟩ := render_array vs
  refine ⟨⟨'[', cs, hcs, by decide, by decide⟩, fun rest _ => ?_⟩
  have hlist := list_run h rest
  rw [hcs, List.cons_append] at hlist ⊢
  rw [list, bind_run (look_cons (by decide) _), if_pos rfl, hlist]

/-- A field that has not been read is read into the draft. -/
theorem keyed_fills {fields : List (Field σ)} {name : String} {shape : Shape α}
    {get : σ → Option α} {set : σ → α → σ} {s : σ} {v : Value} {x : α}
    (hfind : fields.find? (·.name == name) = some (field name shape get set))
    (hget : get s = none) (h : Reads (shape n) v x) :
    Fills (keyed fields n) name v s (set s x) := by
  intro rest hrest
  have habsent : (field name shape get set).present s = false := by
    change (get s).isSome = false
    rw [hget]
    rfl
  have hread : (field name shape get set).read n s (v.render ++ rest) = .ok (set s x, rest) :=
    bind_run (h.takes rest hrest) _
  rw [keyed, hfind]
  dsimp only
  rw [habsent, if_neg Bool.false_ne_true, bind_run (colon_run _), hread]

/-- A record is read back when its entries fill the draft. -/
theorem reads_record {fields : List (Field σ)} {start : σ} {complete : σ → Option α}
    {es : Entries} {x : α} (draft : σ) (h : Gathers (keyed fields n) start es draft)
    (hcomplete : complete draft = some x) :
    Reads (record fields start complete (n + 1)) (.object es) x := by
  obtain ⟨cs, hcs⟩ := render_object es
  refine ⟨⟨'\x7b', cs, hcs, by decide, by decide⟩, fun rest _ => ?_⟩
  have hfold := fold_run quoted_run h rest
  rw [hcs, List.cons_append] at hfold ⊢
  rw [record, bind_run (look_cons (by decide) _), if_neg (by decide), if_pos rfl,
    bind_run hfold]
  dsimp only
  rw [hcomplete]
  rfl

/-- What was written is read back from a whole text. -/
theorem ofText_text {shape : Shape α} {v : Value} {x : α}
    (h : Reads (shape maxNesting) v x) : shape.ofText v.text = .ok x := by
  have hreads := h.takes [] follows_nil
  rw [List.append_nil] at hreads
  rw [ofText, run, Value.text, String.toList_ofList, hreads]
  rfl

end Shape

end AccessControl.Json
