import AccessControl.Proofs.Json.Values

/-!
# Skipping values

A value that nobody asked for is skipped where it stands, at any depth: `Reader.reads_skipNested`
says that the text of a value is taken whole and nothing behind it. The sizes of numbers and the
nesting are not looked at.
-/

namespace AccessControl.Json

open AccessControl.Decimal
open AccessControl.Text

namespace Reader

variable {rest : List Char}

/-! ## Strings -/

/-- An escape of one letter is skipped in a string. -/
theorem skipStringRest_short {e : Char} (hu : e ≠ 'u') (h : (shortEscape? e).isSome = true)
    (n : Nat) (rest : List Char) :
    skipStringRest (n + 1) ('\\' :: e :: rest) = skipStringRest n rest := by
  rw [skipStringRest, bind_run (take_cons _ _), if_neg (by decide), if_pos rfl,
    bind_run (take_cons _ _), if_neg hu, if_pos h]

/-- An escape of four digits is skipped in a string. -/
theorem skipStringRest_control {c : Char} (h : c.toNat < 32) (n : Nat) (rest : List Char) :
    skipStringRest (n + 1)
        ('\\' :: 'u' :: '0' :: '0' :: hexDigit (c.toNat / 16) :: hexDigit (c.toNat % 16) :: rest) =
      skipStringRest n rest := by
  rw [skipStringRest, bind_run (take_cons _ _), if_neg (by decide), if_pos rfl,
    bind_run (take_cons _ _), if_pos rfl, bind_run (hex4_run (hexValue4?_control h) rest)]

/-- However a character is written, one step skips it. -/
theorem skipStringRest_escape (n : Nat) (c : Char) (rest : List Char) :
    skipStringRest (n + 1) (escape c ++ rest) = skipStringRest n rest := by
  unfold escape
  split_ifs with hquote hback _ _ _ _ _ hcontrol
  iterate 7 exact skipStringRest_short (by decide) (by decide) n rest
  · exact skipStringRest_control hcontrol n rest
  · rw [List.singleton_append, skipStringRest, bind_run (take_cons _ _), if_neg hquote,
      if_neg hback, if_neg hcontrol]

/-- The characters of a string are skipped up to its closing quotation mark. -/
theorem skipStringRest_run (cs : List Char) {n : Nat} (h : cs.length < n) (rest : List Char) :
    skipStringRest n (cs.flatMap escape ++ '"' :: rest) = .ok ((), rest) := by
  induction cs generalizing n with
  | nil =>
    obtain ⟨m, rfl⟩ := Nat.exists_eq_add_of_lt h
    rfl
  | cons c cs ih =>
    obtain ⟨m, rfl⟩ := Nat.exists_eq_add_of_lt h
    rw [List.flatMap_cons, List.append_assoc, skipStringRest_escape, ih (by simp; omega)]

/-- A string is skipped, whatever stands behind it. -/
theorem skipQuoted_run (s : String) (rest : List Char) :
    skipQuoted (quote s ++ rest) = .ok ((), rest) := by
  have hlength := length_le_flatMap_escape s.toList
  rw [quote, List.cons_append, List.append_assoc, List.singleton_append, skipQuoted,
    bind_run (take_cons _ _), bind_run (x := s.toList.flatMap escape ++ '"' :: rest) rfl,
    skipStringRest_run s.toList (by rw [List.length_append]; omega) rest]

/-! ## Integers -/

/-- A digit is skipped. -/
theorem skipDigit_run {c : Char} (h : c.isDigit = true) (rest : List Char) :
    skipDigit (c :: rest) = .ok ((), rest) := by
  rw [skipDigit, bind_run (peek_run _), List.head?_cons]
  dsimp only
  rw [if_pos h, bind_run (take_cons _ _)]
  rfl

/-- Where a value may end there is no exponent to be skipped. -/
theorem skipExponent_run {rest : List Char} (hrest : Follows rest) :
    skipExponent rest = .ok ((), rest) := by
  rw [skipExponent, bind_run (peek_run _), if_neg]
  · rfl
  · cases rest with
    | nil => simp
    | cons c rest => obtain rfl | rfl | rfl := hrest c rfl <;> simp

/-- The digits of a natural number are skipped. -/
theorem skipNumber_natural (n : Nat) {rest : List Char} (hrest : Follows rest) :
    skipNumber (ofNat n ++ rest) = .ok ((), rest) := by
  obtain ⟨c, cs, hcons, hdigits, hzero⟩ := ofNat_eq_cons n
  obtain ⟨hc, hcs⟩ := List.forall_mem_cons.mp hdigits
  have hminus : ¬ some c = some '-' := fun h => by
    cases h
    cases hc
  have hpoint : ¬ rest.head? = some '.' := fun h => by
    obtain h | h | h := hrest '.' h <;> cases h
  have hzero' : ¬ (some c = some '0' ∧
      (((cs ++ rest).head?).map Char.isDigit).getD false = true) := fun h =>
    hrest.no_leading_zero hzero ⟨Option.some.inj h.1, h.2⟩
  rw [hcons, List.cons_append, skipNumber, bind_run (peek_run _), List.head?_cons, if_neg hminus]
  dsimp only
  rw [bind_run (peek_run _), bind_run (skipDigit_run hc _), bind_run (peek_run _),
    List.head?_cons, if_neg hzero', bind_run (digits_run hcs hrest.isDigit),
    bind_run (peek_run _), if_neg hpoint]
  exact skipExponent_run hrest

/-- A sign in front of a number is skipped. -/
theorem skipNumber_minus {c : Char} (h : c ≠ '-') (cs : List Char) :
    skipNumber ('-' :: c :: cs) = skipNumber (c :: cs) := by
  have hc : ¬ some c = some '-' := fun hsome => h (Option.some.inj hsome)
  rw [skipNumber, bind_run (peek_run _), List.head?_cons, if_pos rfl, bind_run (take_cons _ _),
    bind_run (peek_run _), List.head?_cons, if_neg hc]

/-- An integer is skipped, whatever its size. -/
theorem skipNumber_run (i : Int) {rest : List Char} (hrest : Follows rest) :
    skipNumber (ofInt i ++ rest) = .ok ((), rest) := by
  cases i with
  | ofNat n => exact skipNumber_natural n hrest
  | negSucc n =>
    have hnatural := skipNumber_natural (n + 1) hrest
    obtain ⟨c, cs, hcons, hdigits, _⟩ := ofNat_eq_cons (n + 1)
    have hc : c ≠ '-' := fun h => by
      rw [h] at hdigits
      cases hdigits '-' List.mem_cons_self
    rw [hcons, List.cons_append] at hnatural
    rw [ofInt, List.cons_append, hcons, List.cons_append, skipNumber_minus hc, hnatural]

/-! ## Values -/

/-- The text of an item is shorter than that of all items. -/
theorem length_lt_of_mem_items {v : Value} {vs : List Value} (h : v ∈ vs) :
    v.render.length < (renderItems vs).length := by
  induction vs with
  | nil => cases h
  | cons first vs ih =>
    simp only [renderItems, List.length_cons, List.length_append]
    obtain rfl | h := List.mem_cons.mp h
    · omega
    · have hothers := ih h
      omega

/-- The text of the value of an entry is shorter than that of all entries. -/
theorem length_lt_of_mem_entries {e : String × Value} {es : Entries} (h : e ∈ es) :
    e.2.render.length < (renderEntries es).length := by
  induction es with
  | nil => cases h
  | cons first es ih =>
    simp only [renderEntries, List.length_cons, List.length_append]
    obtain rfl | h := List.mem_cons.mp h
    · omega
    · have hothers := ih h
      omega

/-- Each item of an array is shorter than the array. -/
theorem length_lt_array {v : Value} {vs : List Value} (h : v ∈ vs) :
    v.render.length < (Value.array vs).render.length := by
  cases vs with
  | nil => cases h
  | cons first vs =>
    have hitems := length_lt_of_mem_items h
    simp only [renderItems, Value.render, List.length_cons, List.length_append] at hitems ⊢
    exact hitems

/-- The value under each key of an object is shorter than the object. -/
theorem length_lt_object {e : String × Value} {es : Entries} (h : e ∈ es) :
    e.2.render.length < (Value.object es).render.length := by
  cases es with
  | nil => cases h
  | cons first es =>
    have hentries := length_lt_of_mem_entries h
    simp only [renderEntries, Value.render, List.length_cons, List.length_append] at hentries ⊢
    exact hentries

/-- Entries of which each leaves the draft as it is. -/
theorem gathers_of_fills {σ : Type} {entry : String → σ → Reader σ} {s : σ} {es : Entries}
    (h : ∀ e ∈ es, Fills entry e.1 e.2 s s) : Gathers entry s es s := by
  induction es with
  | nil => exact .nil s
  | cons e es ih =>
    obtain ⟨hfirst, hothers⟩ := List.forall_mem_cons.mp h
    exact .cons hfirst (ih hothers)

/-- What is no container is skipped in the way that its first character announces. -/
theorem skips_scalar {v : Value} {c : Char} {cs : List Char} (hrender : v.render = c :: cs)
    (hopens : isGap c = false ∧ c ≠ ']') {skipper : Reader Unit} (n : Nat)
    (hskipper : ∀ text, skipNested (n + 1) (c :: text) = skipper (c :: text))
    (h : ∀ rest, Follows rest → skipper (v.render ++ rest) = .ok ((), rest)) :
    Reads (skipNested (n + 1)) v () := by
  refine ⟨⟨c, cs, hrender, hopens⟩, fun rest hrest => ?_⟩
  have htakes := h rest hrest
  rw [hrender, List.cons_append] at htakes ⊢
  rw [hskipper, htakes]

/-- A value is skipped, whatever stands behind it. -/
theorem reads_skipNested {v : Value} (free : v.FloatFree) {n : Nat} (hn : v.render.length ≤ n) :
    Reads (skipNested (n + 1)) v () := by
  induction free generalizing n with
  | null => exact skips_scalar rfl (by decide) n (fun _ => rfl) fun rest _ => literal_run _ rest
  | bool b =>
    cases b <;>
      exact skips_scalar rfl (by decide) n (fun _ => rfl) fun rest _ => literal_run _ rest
  | integer i =>
    obtain ⟨c, cs, hcons, hopens⟩ := ofInt_eq_cons i
    have hne (d : Char) (hd : d ≠ '-' ∧ d.isDigit = false) : c ≠ d := ne_of_opens_number hopens hd
    have hgap := isGap_of_opens_number hopens
    refine skips_scalar (v := .number (.integer i)) hcons ⟨hgap, hne _ (by decide)⟩ n
      (fun text => ?_) fun rest hrest => skipNumber_run i hrest
    rw [skipNested, bind_run (look_cons hgap _), if_neg (hne _ (by decide)),
      if_neg (hne _ (by decide)), if_neg (hne _ (by decide)), if_neg (hne _ (by decide)),
      if_neg (hne _ (by decide)), if_neg (hne _ (by decide)), if_pos hopens]
  | string s =>
    exact skips_scalar rfl (by decide) n (fun _ => rfl) fun rest _ => skipQuoted_run s rest
  | @array vs _ ih =>
    obtain ⟨cs, hcs⟩ := render_array vs
    obtain ⟨m, rfl⟩ : ∃ m, n = m + 1 := Nat.exists_eq_succ_of_ne_zero (by
      rw [hcs, List.length_cons] at hn
      omega)
    have hitems : List.Forall₂ (Reads (skipNested (m + 1))) vs (vs.map fun _ => ()) := by
      rw [List.forall₂_map_right_iff]
      refine List.forall₂_same.mpr fun v hv => ih v hv ?_
      have hlength := length_lt_array hv
      omega
    refine ⟨⟨'[', cs, hcs, by decide, by decide⟩, fun rest _ => ?_⟩
    have hlist := list_run hitems rest
    rw [hcs, List.cons_append] at hlist ⊢
    rw [skipNested, bind_run (look_cons (by decide) _), if_pos rfl, bind_run hlist]
    rfl
  | @object es _ ih =>
    obtain ⟨cs, hcs⟩ := render_object es
    obtain ⟨m, rfl⟩ : ∃ m, n = m + 1 := Nat.exists_eq_succ_of_ne_zero (by
      rw [hcs, List.length_cons] at hn
      omega)
    have hentries : Gathers (fun _ _ => do colon; skipNested (m + 1)) () es () := by
      refine gathers_of_fills fun e he rest hrest => ?_
      have hlength := length_lt_object he
      rw [bind_run (colon_run _)]
      exact (ih e he (by omega)).takes rest hrest
    refine ⟨⟨'\x7b', cs, hcs, by decide, by decide⟩, fun rest _ => ?_⟩
    have hfold : fold skipQuoted (fun _ _ => do colon; skipNested (m + 1)) ()
        ((Value.object es).render ++ rest) = .ok ((), rest) :=
      fold_run skipQuoted_run hentries rest
    rw [hcs, List.cons_append] at hfold ⊢
    rw [skipNested, bind_run (look_cons (by decide) _), if_neg (by decide), if_pos rfl, hfold]

/-- A value is skipped where anything of a text is left behind it. -/
theorem skip_run {v : Value} (free : v.FloatFree) {rest : List Char} (hrest : Follows rest) :
    skip (v.render ++ rest) = .ok ((), rest) := by
  have hskips := reads_skipNested free (n := (v.render ++ rest).length)
    (by rw [List.length_append]; omega)
  rw [skip, bind_run rfl, hskips.takes rest hrest]

end Reader

end AccessControl.Json
