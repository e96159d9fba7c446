import AccessControl.Proofs.Json.ReadBack
import AccessControl.Proofs.Json.Yields

/-!
# Reading values back

A value that a reader has built is read back from its text, unless it holds a double: integers are
written exactly, and the keys of an object come in the order in which they are kept
(`Reader.reads_value`).
-/

namespace AccessControl.Json

open AccessControl.Decimal

/-- The value holds no double. -/
inductive Value.FloatFree : Value → Prop
  | null : FloatFree .null
  | bool (b : Bool) : FloatFree (.bool b)
  | integer (i : Int) : FloatFree (.number (.integer i))
  | string (s : String) : FloatFree (.string s)
  | array {vs : List Value} (items : ∀ v ∈ vs, FloatFree v) : FloatFree (.array vs)
  | object {es : List (String × Value)} (values : ∀ e ∈ es, FloatFree e.2) : FloatFree (.object es)

/-- No value under a key holds a double. -/
def Entries.FloatFree (es : Entries) : Prop :=
  ∀ e ∈ es, e.2.FloatFree

namespace Reader

/-! ## Integers -/

/-- Digits behind a number do not make it smaller. -/
theorem le_ofDigitChars (n : Nat) (cs : List Char) : n ≤ Nat.ofDigitChars 10 cs n := by
  rw [Nat.ofDigitChars_eq_ofDigitChars_zero]
  exact le_add_right (Nat.le_mul_of_pos_left n (Nat.pow_pos (by decide)))

/-- All digits are gathered if the number that they make up fits. -/
theorem gather_eq {n : Nat} {cs : List Char} (h : Nat.ofDigitChars 10 cs n < UInt64.size) :
    gather n cs = (Nat.ofDigitChars 10 cs n, []) := by
  induction cs generalizing n with
  | nil => rfl
  | cons c cs ih =>
    have hnext : Nat.ofDigitChars 10 (c :: cs) n =
        Nat.ofDigitChars 10 cs (10 * n + digitValue c) := rfl
    rw [hnext] at h ⊢
    have hfits : fitsWith n c = true := by
      rw [fitsWith, decide_eq_true_eq]
      exact lt_of_le_of_lt (le_ofDigitChars _ cs) h
    rw [gather, if_pos hfits, ih h]

theorem peek_run (cs : List Char) : peek cs = .ok (cs.head?, cs) := rfl

/-- A run of digits is taken up to where something else stands. -/
theorem digits_run {ds rest : List Char} (hds : ∀ d ∈ ds, d.isDigit = true)
    (hrest : ∀ c ∈ rest.head?, c.isDigit = false) : digits (ds ++ rest) = .ok (ds, rest) := by
  obtain ⟨htaken, hleft⟩ := span_digits hds hrest
  rw [digits, htaken, hleft]

/-- No digit may follow a value. -/
theorem Follows.isDigit {rest : List Char} (h : Follows rest) :
    ∀ c ∈ rest.head?, c.isDigit = false := by
  intro c hc
  obtain rfl | rfl | rfl := h c hc <;> rfl

/-- Behind the digit zero alone no digit follows. -/
theorem Follows.no_leading_zero {rest cs : List Char} (h : Follows rest) {c : Char}
    (hzero : c = '0' → cs = []) :
    ¬ (c = '0' ∧ (((cs ++ rest).head?).map Char.isDigit).getD false = true) := by
  rintro ⟨hc, hnext⟩
  rw [hzero hc, List.nil_append] at hnext
  cases rest with
  | nil => cases hnext
  | cons d rest => cases (h.isDigit d rfl).symm.trans hnext

/-- The digits of a number that fits are taken as this number. -/
theorem unsignedNumber_run (negative : Bool) {n : Nat} (hn : n < UInt64.size) {rest : List Char}
    (hrest : Follows rest) :
    unsignedNumber negative (ofNat n ++ rest) = wholeNumber negative n rest := by
  obtain ⟨c, cs, hcons, hdigits, hzero⟩ := ofNat_eq_cons n
  obtain ⟨hc, hcs⟩ := List.forall_mem_cons.mp hdigits
  have hvalue : Nat.ofDigitChars 10 cs (digitValue c) = n := by
    rw [← value_ofNat n, hcons]
    show _ = Nat.ofDigitChars 10 cs (10 * 0 + digitValue c)
    rw [Nat.mul_zero, Nat.zero_add]
  rw [hcons, List.cons_append, unsignedNumber, bind_run (take_cons _ _), if_pos hc,
    bind_run (peek_run _), if_neg (hrest.no_leading_zero hzero),
    bind_run (digits_run hcs hrest.isDigit), gather_eq (hvalue ▸ hn), hvalue]
  dsimp only
  rw [bind_run (peek_run _)]
  cases rest with
  | nil => rfl
  | cons d rest => obtain rfl | rfl | rfl := hrest d rfl <;> rfl

theorem number_minus (rest : List Char) : number ('-' :: rest) = unsignedNumber true rest := rfl

/-- Without a sign in front, a number is read as an unsigned one. -/
theorem number_plain {c : Char} (h : c ≠ '-') (rest : List Char) :
    number (c :: rest) = unsignedNumber false (c :: rest) := by
  rw [number, bind_run (peek_run _), List.head?_cons]
  simp [h]

/-- An integer that fits is read back. -/
theorem number_run {i : Int} (fits : (Number.integer i).Fits) {rest : List Char}
    (hrest : Follows rest) : number (ofInt i ++ rest) = .ok (.integer i, rest) := by
  have hsize : UInt64.size = 2 ^ 64 := rfl
  cases i with
  | ofNat n =>
    have hn : n < UInt64.size := by
      have hlt : (n : Int) < 2 ^ 64 := fits.2
      omega
    obtain ⟨c, cs, hcons, hdigits, _⟩ := ofNat_eq_cons n
    have hminus : c ≠ '-' := by
      rintro rfl
      exact absurd (List.forall_mem_cons.mp hdigits).1 (by decide)
    have hread : unsignedNumber false (ofNat n ++ rest) = .ok (.integer n, rest) :=
      unsignedNumber_run false hn hrest
    rw [hcons] at hread
    rw [ofInt, hcons, List.cons_append, number_plain hminus]
    exact hread
  | negSucc n =>
    have hn : 2 * (n + 1) ≤ UInt64.size := by
      have hge : -(2 ^ 63) ≤ Int.negSucc n := fits.1
      omega
    rw [ofInt, List.cons_append, number_minus, unsignedNumber_run true (by omega) hrest,
      wholeNumber, if_pos rfl, if_pos ⟨by omega, hn⟩]
    rfl

/-- An integer starts with its sign or a digit. -/
theorem ofInt_eq_cons (i : Int) :
    ∃ c cs, ofInt i = c :: cs ∧ (c = '-' ∨ c.isDigit = true) := by
  cases i with
  | ofNat n =>
    obtain ⟨c, cs, hcons, hdigits, _⟩ := ofNat_eq_cons n
    exact ⟨c, cs, hcons, Or.inr (List.forall_mem_cons.mp hdigits).1⟩
  | negSucc n => exact ⟨'-', _, rfl, Or.inl rfl⟩

/-- The first character of a number is none that something else starts with. -/
theorem ne_of_opens_number {c d : Char} (h : c = '-' ∨ c.isDigit = true)
    (hd : d ≠ '-' ∧ d.isDigit = false) : c ≠ d := by
  rintro rfl
  rcases h with hminus | hdigit
  · exact hd.1 hminus
  · exact absurd (hd.2.symm.trans hdigit) Bool.false_ne_true

/-- A number does not open with a blank. -/
theorem isGap_of_opens_number {c : Char} (h : c = '-' ∨ c.isDigit = true) : isGap c = false := by
  simp only [isGap, Bool.or_eq_false_iff, decide_eq_false_iff_not]
  exact ⟨⟨⟨ne_of_opens_number h (by decide), ne_of_opens_number h (by decide)⟩,
    ne_of_opens_number h (by decide)⟩, ne_of_opens_number h (by decide)⟩

/-! ## Values of any kind -/

/-- What is no container is read as the scalar that its first character announces. -/
theorem reads_scalar (n : Nat) {v : Value} {c : Char} {cs : List Char}
    (hrender : v.render = c :: cs)
    (hopens : isGap c = false ∧ c ≠ ']' ∧ c ≠ '[' ∧ c ≠ '\x7b')
    (h : ∀ rest, Follows rest → scalar c (v.render ++ rest) = .ok (v, rest)) :
    Reads (value n) v v := by
  obtain ⟨hgap, hclose, hlist, hobject⟩ := hopens
  refine ⟨⟨c, cs, hrender, hgap, hclose⟩, fun rest hrest => ?_⟩
  have hscalar := h rest hrest
  rw [hrender, List.cons_append] at hscalar ⊢
  cases n with
  | zero => rw [value, bind_run (look_cons hgap _), hscalar]
  | succ n => rw [value, bind_run (look_cons hgap _), if_neg hlist, if_neg hobject, hscalar]

/-- A value that is a word is read back from this word. -/
theorem reads_literal (n : Nat) {v : Value} {c : Char} {cs : List Char}
    (hrender : v.render = c :: cs)
    (hopens : isGap c = false ∧ c ≠ ']' ∧ c ≠ '[' ∧ c ≠ '\x7b')
    (hscalar : scalar c = do literal v.render; return v) : Reads (value n) v v := by
  refine reads_scalar n hrender hopens fun rest _ => ?_
  rw [hscalar, bind_run (literal_run _ rest)]
  rfl

/-- A string is read back as a value. -/
theorem reads_quoted (n : Nat) (s : String) : Reads (value n) (.string s) (.string s) := by
  refine reads_scalar n rfl (by decide) fun rest _ => ?_
  rw [scalar, if_pos rfl, Value.render, bind_run (quoted_run s rest)]
  rfl

/-- An integer that fits is read back exactly. -/
theorem reads_integer (n : Nat) {i : Int} (fits : (Number.integer i).Fits) :
    Reads (value n) (.number (.integer i)) (.number (.integer i)) := by
  obtain ⟨c, cs, hcons, hopens⟩ := ofInt_eq_cons i
  have hne (d : Char) (hd : d ≠ '-' ∧ d.isDigit = false) : c ≠ d := ne_of_opens_number hopens hd
  refine reads_scalar n hcons ⟨isGap_of_opens_number hopens, hne _ (by decide),
    hne _ (by decide), hne _ (by decide)⟩ fun rest hrest => ?_
  rw [scalar, if_neg (hne _ (by decide)), if_neg (hne _ (by decide)), if_neg (hne _ (by decide)),
    if_neg (hne _ (by decide)), if_pos hopens, Value.render, Number.render,
    bind_run (number_run fits hrest)]
  rfl

end Reader

/-- A key behind all others is put at the end. -/
theorem Entries.insert_eq_append {es : Entries} {key : String} (h : ∀ e ∈ es, e.1 < key)
    (v : Value) : es.insert key v = es ++ [(key, v)] := by
  induction es with
  | nil => rfl
  | cons first es ih =>
    obtain ⟨hfirst, hrest⟩ := List.forall_mem_cons.mp h
    rw [insert, if_neg (lt_asymm hfirst), if_neg (ne_of_gt hfirst), ih hrest, List.cons_append]

namespace Reader

/-- Entries whose keys ascend are gathered as they are, behind those that are there. -/
theorem gathers_insert_append {item : Reader Value} {done es : Entries}
    (h : ∀ e ∈ es, Reads item e.2 e.2) (sorted : Entries.Sorted (done ++ es)) :
    Gathers (fun key es => do colon; return Entries.insert key (← item) es) done es
      (done ++ es) := by
  induction es generalizing done with
  | nil =>
    rw [List.append_nil]
    exact .nil done
  | cons first es ih =>
    obtain ⟨key, v⟩ := first
    obtain ⟨hv, hes⟩ := List.forall_mem_cons.mp h
    have hinsert : done.insert key v = done ++ [(key, v)] :=
      Entries.insert_eq_append
        (fun e he => (List.pairwise_append.mp sorted).2.2 e he _ List.mem_cons_self) v
    have hassoc : done ++ (key, v) :: es = done ++ [(key, v)] ++ es := by
      rw [List.append_assoc, List.singleton_append]
    rw [hassoc] at sorted ⊢
    refine .cons (fun rest hrest => ?_) (ih hes sorted)
    rw [bind_run (colon_run _), bind_run (hv.takes rest hrest), hinsert]
    rfl

/-- Entries that are sorted by key are gathered as they are. -/
theorem gathers_insert {item : Reader Value} {es : Entries} (h : ∀ e ∈ es, Reads item e.2 e.2)
    (sorted : es.Sorted) :
    Gathers (fun key es => do colon; return Entries.insert key (← item) es) [] es es :=
  gathers_insert_append h sorted

/-- A value that was built is read back, unless it holds a double. -/
theorem reads_value {n : Nat} {v : Value} (built : v.Built n) (free : v.FloatFree) :
    Reads (value n) v v := by
  induction built with
  | null n => exact reads_literal n rfl (by decide) rfl
  | bool n b => cases b <;> exact reads_literal n rfl (by decide) rfl
  | number n fits =>
    cases free
    exact reads_integer n fits
  | string n s => exact reads_quoted n s
  | @array n vs _ ih =>
    cases free with | array hfree
    obtain ⟨cs, hcs⟩ := render_array vs
    have hitems : List.Forall₂ (Reads (value n)) vs vs :=
      List.forall₂_same.mpr fun v hv => ih v hv (hfree v hv)
    refine ⟨⟨'[', cs, hcs, by decide, by decide⟩, fun rest _ => ?_⟩
    have hlist := list_run hitems rest
    rw [hcs, List.cons_append] at hlist ⊢
    rw [value, bind_run (look_cons (by decide) _), if_pos rfl, bind_run hlist]
    rfl
  | @object n es sorted _ ih =>
    cases free with | object hfree
    obtain ⟨cs, hcs⟩ := render_object es
    have hvalues : ∀ e ∈ es, Reads (value n) e.2 e.2 := fun e he => ih e he (hfree e he)
    refine ⟨⟨'\x7b', cs, hcs, by decide, by decide⟩, fun rest _ => ?_⟩
    have hfold := fold_run quoted_run (gathers_insert hvalues sorted) rest
    rw [hcs, List.cons_append] at hfold ⊢
    rw [value, bind_run (look_cons (by decide) _), if_neg (by decide), if_pos rfl,
      bind_run hfold]
    rfl

end Reader

/-! ## Shapes -/

namespace Shape

open Reader

variable {α σ : Type} {n : Nat}

/-- An integer from 0 up that fits is read back. -/
theorem reads_natural {k : Nat} (h : k < 2 ^ 64) :
    Reads (natural n) (.number (.integer k)) k := by
  have fits : (Number.integer k).Fits := by
    simp only [Number.Fits]
    omega
  obtain ⟨c, cs, hcons, hopens⟩ := ofInt_eq_cons k
  have hgap := isGap_of_opens_number hopens
  refine ⟨⟨c, cs, hcons, hgap, ne_of_opens_number hopens (by decide)⟩, fun rest hrest => ?_⟩
  have hnumber := number_run fits hrest
  rw [Value.render, Number.render]
  rw [hcons, List.cons_append] at hnumber ⊢
  rw [natural, bind_run (look_cons hgap _), if_pos hopens, bind_run hnumber]
  rfl

/-- A string is read back as what it is parsed to. -/
theorem reads_parsed {parse : String → Option α} {s : String} {x : α} (h : parse s = some x) :
    Reads (parsed parse n) (.string s) x := by
  refine (reads_string s).andThen fun rest => ?_
  rw [h]
  rfl

/-- A name is read back as what it names. -/
theorem reads_choice {parse : String → Option α} {s : String} {x : α} (h : parse s = some x) :
    Reads (choice parse n) (.string s) x where
  opens := (reads_string (n := n) s).opens
  takes rest hrest := by
    have hparsed := (reads_parsed (n := n) h).takes rest hrest
    rw [Value.render, quote, List.cons_append] at hparsed ⊢
    rw [choice, bind_run (look_cons (by decide) _), if_pos rfl, hparsed]

/-- An object is read back when its entries fill the draft. -/
theorem reads_fold {entry : Nat → String → σ → Reader σ} {start draft : σ} {es : Entries}
    (h : Gathers (entry n) start es draft) :
    Reads (fold entry start (n + 1)) (.object es) draft := by
  obtain ⟨cs, hcs⟩ := render_object es
  refine ⟨⟨'\x7b', cs, hcs, by decide, by decide⟩, fun rest _ => ?_⟩
  have hfold := fold_run quoted_run h rest
  rw [hcs, List.cons_append] at hfold ⊢
  rw [fold, bind_run (look_cons (by decide) _), if_pos rfl, hfold]

/-- The entries of an object that was built are read back, unless they hold a double. -/
theorem reads_object {es : Entries} (built : es.Built n) (free : es.FloatFree) :
    Reads (object (n + 1)) (.object es) es :=
  reads_fold (gathers_insert (fun e he => reads_value (built.values e he) (free e he)) built.sorted)

end Shape

end AccessControl.Json
