import AccessControl.Policy.Remote
import AccessControl.Proofs.Json.Skip

/-!
# What the body of an answer says

The answer to a question is an object with one entry that says whether the tuple holds, among any
others, or an array of this one item (`Value.StatesAllowed`). A body with two such entries, with
none, or with one that is no truth value is no answer, whatever else stands in it
(`checkAnswer_ofText`).
-/

namespace AccessControl

open AccessControl.Json
open AccessControl.Json.Reader

/-- The value says whether a tuple is allowed. -/
inductive Json.Value.StatesAllowed : Value → Bool → Prop
  | object {before after : Entries} {b : Bool} (first : ∀ e ∈ before, e.1 ≠ "allowed")
      (last : ∀ e ∈ after, e.1 ≠ "allowed") :
      StatesAllowed (.object (before ++ ("allowed", .bool b) :: after)) b
  | array (b : Bool) : StatesAllowed (.array [.bool b]) b

/-- An object that says whether a tuple is allowed has the entry once. -/
theorem Json.Value.StatesAllowed.count {es : Entries} {b : Bool}
    (states : (Value.object es).StatesAllowed b) :
    es.countP (·.1 == "allowed") = 1 := by
  cases states with
  | @object before after _ first last =>
    have hbefore : before.countP (·.1 == "allowed") = 0 := by simpa using first
    have hafter : after.countP (·.1 == "allowed") = 0 := by simpa using last
    rw [List.countP_append, List.countP_cons, hbefore, hafter]
    rfl

/-! ## Entries that stop a reader -/

namespace Json.Reader

variable {α β σ : Type} {cs rest : List Char} {fault : Fault}

/-- A sequence fails where its first step does. -/
theorem bind_stop {r : Reader α} (h : r cs = .error fault) (next : α → Reader β) :
    (r >>= next) cs = .error fault := by
  change (r cs >>= fun p => next p.1 p.2) = _
  rw [h]
  rfl

variable {entry : String → σ → Reader σ} {s s' : σ} {key : String} {v : Value}
  {before after : Entries}

/-- The value under a key, with the colon before it, is none that a draft can take. -/
def Halts (entry : String → σ → Reader σ) (key : String) (v : Value) (s : σ) : Prop :=
  ∀ rest, Follows rest → ∃ fault, entry key s (':' :: (v.render ++ rest)) = .error fault

/-- An object is not read when the entry in front halts. -/
theorem entries_halt (h : Halts entry key v s) {first : Bool} {text : List Char}
    (hnext : another '\x7d' first text =
      .ok (true, quote key ++ ':' :: (v.render ++ (renderEntries after ++ rest)))) (n : Nat) :
    ∃ fault, entries quoted entry (n + 1) first s text = .error fault := by
  have hlook : look (quote key ++ ':' :: (v.render ++ (renderEntries after ++ rest))) =
      .ok ('"', quote key ++ ':' :: (v.render ++ (renderEntries after ++ rest))) :=
    look_cons (by decide) _
  obtain ⟨fault, hfault⟩ := h _ (follows_renderEntries after rest)
  refine ⟨fault, ?_⟩
  rw [entries, bind_run hnext, if_pos rfl, bind_run hlook, if_pos rfl,
    bind_run (quoted_run key _), bind_stop hfault]

/-- An object is not read when an entry halts behind others that are gathered. -/
theorem entries_halt_behind (taken : Gathers entry s before s') (h : Halts entry key v s')
    (n : Nat) (rest : List Char) :
    ∃ fault, entries quoted entry n false s
      (renderEntries (before ++ (key, v) :: after) ++ rest) = .error fault := by
  induction taken generalizing n with
  | nil s =>
    cases n with
    | zero => exact ⟨.truncated, rfl⟩
    | succ n =>
      rw [List.nil_append, renderEntries, List.cons_append, List.append_assoc, List.cons_append,
        List.append_assoc]
      exact entries_halt h (another_quote_comma _ _) n
  | cons first _ ih =>
    cases n with
    | zero => exact ⟨.truncated, rfl⟩
    | succ n =>
      rw [List.cons_append, renderEntries, List.cons_append, List.append_assoc, List.cons_append,
        List.append_assoc, entries_step quoted_run first (another_quote_comma _ _)]
      exact ih h n

/-- An object stops a reader at the first entry that the draft cannot take. -/
theorem fold_halts (taken : Gathers entry s before s') (h : Halts entry key v s')
    (after : Entries) (rest : List Char) :
    ∃ fault, fold quoted entry s
      ((Value.object (before ++ (key, v) :: after)).render ++ rest) = .error fault := by
  cases taken with
  | nil s =>
    rw [List.nil_append, fold, Value.render, List.cons_append, bind_run (take_cons _ _),
      bind_run rfl, List.append_assoc, List.cons_append, List.append_assoc]
    exact entries_halt h (another_quote_first _ _) _
  | cons first others =>
    rw [List.cons_append, fold, Value.render, List.cons_append, bind_run (take_cons _ _),
      bind_run rfl, List.append_assoc, List.cons_append, List.append_assoc,
      entries_step quoted_run first (another_quote_first _ _)]
    exact entries_halt_behind others h _ rest

/-- Entries that are gathered one after the other are gathered as one list. -/
theorem Gathers.append {s'' : σ} (first : Gathers entry s before s')
    (then_ : Gathers entry s' after s'') : Gathers entry s (before ++ after) s'' := by
  induction first with
  | nil => exact then_
  | cons fills _ ih => exact .cons fills (ih then_)

end Json.Reader

/-! ## The body of an answer -/

/-- The one field of the answer to a question. -/
def allowedField : Shape.Field (Option Bool) :=
  Shape.field "allowed" Shape.bool id fun _ b => some b

section Entries

variable {n : Nat} {key : String} {v : Value} {draft : Option Bool} {es before after : Entries}
  {b : Bool}

/-- An entry under another key is skipped. -/
theorem keyed_skips (hkey : key ≠ "allowed") (free : v.FloatFree) :
    Fills (Shape.keyed [allowedField] n) key v draft draft := by
  intro rest hrest
  have hfind : [allowedField].find? (·.name == key) = none := by
    simp [allowedField, Shape.field, hkey.symm]
  rw [Shape.keyed, hfind]
  dsimp only
  rw [bind_run (colon_run _), bind_run (skip_run free hrest)]
  rfl

/-- Entries under other keys are skipped, all of them. -/
theorem gathers_skipped (hkeys : ∀ e ∈ es, e.1 ≠ "allowed") (free : es.FloatFree) :
    Gathers (Shape.keyed [allowedField] n) draft es draft :=
  gathers_of_fills fun e he => keyed_skips (hkeys e he) (free e he)

/-- The first verdict is taken. -/
theorem keyed_takes (b : Bool) :
    Fills (Shape.keyed [allowedField] n) "allowed" (.bool b) none (some b) := by
  have hfind : [allowedField].find? (·.name == "allowed") =
      some (Shape.field "allowed" Shape.bool id fun _ b => some b) := rfl
  exact Shape.keyed_fills hfind rfl (Shape.reads_bool b)

/-- A second verdict halts, whatever its value. -/
theorem keyed_halts_present (b : Bool) :
    Halts (Shape.keyed [allowedField] n) "allowed" v (some b) := by
  intro rest hrest
  exact ⟨.shape, rfl⟩

/-- A value of another type is never read. -/
theorem mismatch_halts {α : Type} (cs : List Char) :
    ∃ fault, (mismatch : Reader α) cs = .error fault := by
  cases h : (mismatch : Reader α) cs with
  | error fault => exact ⟨fault, rfl⟩
  | ok p => exact (yields_mismatch (P := fun _ => False) cs p.1 p.2 h).elim

/-- What is no truth value does not start like one. -/
theorem opens_other (free : v.FloatFree) (hv : ∀ b, v ≠ .bool b) :
    ∃ c cs, v.render = c :: cs ∧ isGap c = false ∧ c ≠ 't' ∧ c ≠ 'f' := by
  cases free with
  | null => exact ⟨_, _, rfl, by decide, by decide, by decide⟩
  | bool b => exact absurd rfl (hv b)
  | integer i =>
    obtain ⟨c, cs, hcons, hopens⟩ := ofInt_eq_cons i
    exact ⟨c, cs, hcons, isGap_of_opens_number hopens, ne_of_opens_number hopens (by decide),
      ne_of_opens_number hopens (by decide)⟩
  | string s => exact ⟨'"', _, rfl, by decide, by decide, by decide⟩
  | array =>
    obtain ⟨cs, hcs⟩ := render_array _
    exact ⟨'[', cs, hcs, by decide, by decide, by decide⟩
  | object =>
    obtain ⟨cs, hcs⟩ := render_object _
    exact ⟨'\x7b', cs, hcs, by decide, by decide, by decide⟩

/-- What is no truth value is not read as one. -/
theorem bool_halts (free : v.FloatFree) (hv : ∀ b, v ≠ .bool b) (rest : List Char) :
    ∃ fault, Shape.bool n (v.render ++ rest) = .error fault := by
  obtain ⟨c, cs, hrender, hgap, ht, hf⟩ := opens_other free hv
  rw [hrender, List.cons_append, Shape.bool, bind_run (look_cons hgap _), if_neg ht, if_neg hf]
  exact mismatch_halts _

/-- A verdict that is no truth value halts. -/
theorem keyed_halts (free : v.FloatFree) (hv : ∀ b, v ≠ .bool b) :
    Halts (Shape.keyed [allowedField] n) "allowed" v none := by
  intro rest _
  obtain ⟨fault, hfault⟩ := bool_halts (n := n) free hv rest
  refine ⟨fault, ?_⟩
  have hkeyed : Shape.keyed [allowedField] n "allowed" none =
      (do colon; return some (← Shape.bool n)) := rfl
  rw [hkeyed, bind_run (colon_run _), bind_stop hfault]

/-- A draft without the field is no answer, and one with it is. -/
def drafted : Option Bool → Reader Bool
  | some b => pure b
  | none => fail .shape

/-- Steps that agree on every draft agree behind any reader. -/
theorem bind_drafted {next : Option Bool → Reader Bool} (h : ∀ draft, next draft = drafted draft)
    (r : Reader (Option Bool)) (cs : List Char) : (r >>= next) cs = (r >>= drafted) cs := by
  rw [funext h]

/-- An object is read as its entries, and its verdict is what they leave. -/
theorem checkAnswer_object (es : Entries) (rest : List Char) :
    checkAnswer (n + 1) ((Value.object es).render ++ rest) =
      (fold quoted (Shape.keyed [allowedField] n) none >>= drafted)
        ((Value.object es).render ++ rest) := by
  obtain ⟨cs, hcs⟩ := render_object es
  rw [hcs, List.cons_append, checkAnswer, Shape.record, bind_run (look_cons (by decide) _),
    if_neg (by decide), if_pos rfl, ← allowedField]
  exact bind_drafted (fun draft => by cases draft <;> rfl) _ _

/-- Entries of which the last one tells. -/
theorem gathers_told (hkeys : ∀ e ∈ es, e.1 ≠ "allowed") (free : es.FloatFree) (b : Bool) :
    Gathers (Shape.keyed [allowedField] n) none (es ++ [("allowed", .bool b)]) (some b) :=
  (gathers_skipped hkeys free).append (.cons (keyed_takes b) (.nil _))

end Entries

/-- The first entry under a key, if there is one. -/
theorem exists_first_entry (key : String) (es : Entries) :
    (∀ e ∈ es, e.1 ≠ key) ∨
      ∃ before v after, es = before ++ (key, v) :: after ∧ ∀ e ∈ before, e.1 ≠ key := by
  induction es with
  | nil => exact Or.inl (by simp)
  | cons e es ih =>
    obtain ⟨key', v⟩ := e
    by_cases hkey : key' = key
    · subst hkey
      exact Or.inr ⟨[], v, es, rfl, by simp⟩
    · obtain hnone | ⟨before, w, after, rfl, hbefore⟩ := ih
      · exact Or.inl (List.forall_mem_cons.mpr ⟨hkey, hnone⟩)
      · exact Or.inr ⟨(key', v) :: before, w, after, rfl,
          List.forall_mem_cons.mpr ⟨hkey, hbefore⟩⟩

section Bodies

variable {n : Nat} {v : Value} {b : Bool} {es : Entries} {rest rest' : List Char}

/-- An object that stops the reader is no answer. -/
theorem object_ne_ok {p : Bool × List Char}
    (h : ∃ fault, fold quoted (Shape.keyed [allowedField] n) none
      ((Value.object es).render ++ rest) = .error fault) :
    checkAnswer (n + 1) ((Value.object es).render ++ rest) ≠ .ok p := by
  obtain ⟨fault, hfault⟩ := h
  rw [checkAnswer_object, bind_stop hfault]
  intro h
  cases h

/-- An object with a truth value under the field is an answer only if the field does not come
again. -/
theorem statesAllowed_of_first {before after : Entries} {b' : Bool}
    (hbefore : ∀ e ∈ before, e.1 ≠ "allowed") (free : before.FloatFree) (hafter : after.FloatFree)
    (h : checkAnswer (n + 1)
      ((Value.object (before ++ ("allowed", .bool b') :: after)).render ++ rest) = .ok (b, rest')) :
    (Value.object (before ++ ("allowed", .bool b') :: after)).StatesAllowed b := by
  have told := gathers_told (n := n) hbefore free b'
  have hsplit : before ++ ("allowed", .bool b') :: after =
      before ++ [("allowed", .bool b')] ++ after := by simp
  obtain hlast | ⟨between, w, others, rfl, hbetween⟩ := exists_first_entry "allowed" after
  · rw [hsplit, checkAnswer_object,
      bind_run (fold_run quoted_run (told.append (gathers_skipped hlast hafter)) rest)] at h
    cases h
    exact .object hbefore hlast
  · have hskipped : Gathers (Shape.keyed [allowedField] n) (some b') between (some b') :=
      gathers_skipped hbetween (List.forall_mem_append.mp hafter).1
    rw [hsplit, ← List.append_assoc] at h
    exact absurd h (object_ne_ok
      (fold_halts (told.append hskipped) (keyed_halts_present (v := w) b') others rest))

/-- An object is an answer only if it has the field once, with a truth value. -/
theorem statesAllowed_of_object (free : es.FloatFree)
    (h : checkAnswer (n + 1) ((Value.object es).render ++ rest) = .ok (b, rest')) :
    (Value.object es).StatesAllowed b := by
  obtain hnone | ⟨before, v, after, rfl, hbefore⟩ := exists_first_entry "allowed" es
  · rw [checkAnswer_object, bind_run (fold_run quoted_run (gathers_skipped hnone free) rest)] at h
    cases h
  obtain ⟨hfree, hrest⟩ := List.forall_mem_append.mp free
  obtain ⟨hv, hafter⟩ := List.forall_mem_cons.mp hrest
  by_cases hbool : ∃ b', v = .bool b'
  · obtain ⟨b', rfl⟩ := hbool
    exact statesAllowed_of_first hbefore hfree hafter h
  · have taken : Gathers (Shape.keyed [allowedField] n) none before none :=
      gathers_skipped hbefore hfree
    exact absurd h (object_ne_ok
      (fold_halts taken (keyed_halts hv (not_exists.mp hbool)) after rest))

/-- An array is read by position, and its verdict is what it leaves. -/
theorem checkAnswer_array (text : List Char) :
    checkAnswer (n + 1) ('[' :: text) =
      (Shape.positional n [allowedField] true none >>= drafted) text := by
  rw [checkAnswer, Shape.record, bind_run (look_cons (by decide) _), if_pos rfl,
    bind_run (take_cons _ _), ← allowedField]
  exact bind_drafted (fun draft => by cases draft <;> rfl) _ _

/-- Behind the one field that is read by position, the array has to end. -/
theorem positional_bool (b : Bool) (vs : List Value) (rest : List Char) :
    Shape.positional n [allowedField] true none
        ((Value.bool b).render ++ (renderItems vs ++ rest)) =
      if vs = [] then .ok (some b, rest) else .error .malformed := by
  have hreads : Reads (Shape.bool n) (.bool b) b := Shape.reads_bool b
  have hread : allowedField.read n none ((Value.bool b).render ++ (renderItems vs ++ rest)) =
      .ok (some b, renderItems vs ++ rest) :=
    bind_run (hreads.takes _ (follows_renderItems vs rest)) _
  rw [Shape.positional, bind_run (hreads.another_first _), if_pos rfl, bind_run hread]
  cases vs <;> rfl

/-- By position, a verdict that is no truth value is not read. -/
theorem positional_halts (free : v.FloatFree) (hv : ∀ b, v ≠ .bool b) (rest : List Char) :
    ∃ fault, Shape.positional n [allowedField] true none (v.render ++ rest) = .error fault := by
  obtain ⟨fault, hfault⟩ := bool_halts (n := n) free hv rest
  have hread : allowedField.read n none (v.render ++ rest) = .error fault := bind_stop hfault _
  have hopens := reads_skipNested free (Nat.le_refl v.render.length) |>.another_first rest
  refine ⟨fault, ?_⟩
  rw [Shape.positional, bind_run hopens, if_pos rfl, bind_stop hread]

/-- An array is an answer only if a truth value is its one item. -/
theorem statesAllowed_of_array {vs : List Value} (free : ∀ v ∈ vs, v.FloatFree)
    (h : checkAnswer (n + 1) ((Value.array vs).render ++ rest) = .ok (b, rest')) :
    (Value.array vs).StatesAllowed b := by
  cases vs with
  | nil => cases h
  | cons v vs =>
    rw [Value.render, List.cons_append, List.append_assoc, checkAnswer_array] at h
    by_cases hbool : ∃ b', v = .bool b'
    · obtain ⟨b', rfl⟩ := hbool
      have hread := positional_bool (n := n) b' vs rest
      by_cases hvs : vs = []
      · rw [if_pos hvs] at hread
        rw [bind_run hread] at h
        cases h
        rw [hvs]
        exact .array b
      · rw [if_neg hvs] at hread
        rw [bind_stop hread] at h
        cases h
    · obtain ⟨fault, hfault⟩ := positional_halts (free v List.mem_cons_self)
        (not_exists.mp hbool) (renderItems vs ++ rest)
      rw [bind_stop hfault] at h
      cases h

/-- What starts like no container is no answer. -/
theorem scalar_ne_ok {c : Char} {cs : List Char} {p : Bool × List Char} (hgap : isGap c = false)
    (hlist : c ≠ '[') (hobject : c ≠ '\x7b') : checkAnswer (n + 1) (c :: cs) ≠ .ok p := by
  obtain ⟨fault, hfault⟩ := mismatch_halts (α := Option Bool) (c :: cs)
  rw [checkAnswer, Shape.record, bind_run (look_cons hgap _), if_neg hlist, if_neg hobject,
    bind_stop hfault]
  intro h
  cases h

/-- Only a value that says whether a tuple is allowed is an answer. -/
theorem statesAllowed_of_checkAnswer (free : v.FloatFree)
    (h : checkAnswer (n + 1) (v.render ++ rest) = .ok (b, rest')) : v.StatesAllowed b := by
  cases free with
  | null => exact absurd h (scalar_ne_ok (by decide) (by decide) (by decide))
  | bool b => cases b <;> exact absurd h (scalar_ne_ok (by decide) (by decide) (by decide))
  | integer i =>
    obtain ⟨c, cs, hcons, hopens⟩ := ofInt_eq_cons i
    rw [Value.render, Number.render, hcons] at h
    exact absurd h (scalar_ne_ok (isGap_of_opens_number hopens)
      (ne_of_opens_number hopens (by decide)) (ne_of_opens_number hopens (by decide)))
  | string s => exact absurd h (scalar_ne_ok (by decide) (by decide) (by decide))
  | array hfree => exact statesAllowed_of_array hfree h
  | object hfree => exact statesAllowed_of_object hfree h

/-- A value that says whether a tuple is allowed is an answer. -/
theorem reads_of_statesAllowed (free : v.FloatFree) (states : v.StatesAllowed b) :
    Reads (checkAnswer (n + 1)) v b := by
  cases states with
  | @object before after _ first last =>
    cases free with | object hfree
    obtain ⟨hbefore, hrest⟩ := List.forall_mem_append.mp hfree
    have hafter := (List.forall_mem_cons.mp hrest).2
    exact Shape.reads_record (some b) ((gathers_skipped first hbefore).append
      (.cons (keyed_takes b) (gathers_skipped last hafter))) rfl
  | array b =>
    refine ⟨⟨'[', _, rfl, by decide, by decide⟩, fun rest _ => ?_⟩
    rw [Value.render, List.cons_append, List.append_assoc, checkAnswer_array,
      bind_run (positional_bool b [] rest)]
    rfl

end Bodies

/-- The text of a value is an answer exactly if the value says whether a tuple is allowed. -/
theorem checkAnswer_ofText {v : Value} (free : v.FloatFree) (b : Bool) :
    checkAnswer.ofText v.text = .ok b ↔ v.StatesAllowed b := by
  constructor
  · intro h
    rw [Shape.ofText, run, Value.text, String.toList_ofList] at h
    cases hread : checkAnswer maxNesting v.render with
    | error fault =>
      rw [hread] at h
      cases h
    | ok p =>
      obtain ⟨b', rest⟩ := p
      rw [hread] at h
      dsimp only at h
      split_ifs at h
      cases h
      rw [← List.append_nil v.render] at hread
      exact statesAllowed_of_checkAnswer free hread
  · intro states
    exact Shape.ofText_text (reads_of_statesAllowed free states)

end AccessControl
