import AccessControl.Json.Shape
import AccessControl.Proofs.Decimal.Digits
import Mathlib.Algebra.Ring.Int.Defs
import Mathlib.Data.String.Basic

/-!
# What readers can answer

`Reader.Yields r P` says that `r` answers only what satisfies `P`, whatever the text. There is one
lemma for each way in which readers are put together, and one for each shape, so that what a shape
can answer is read off its parts (`Shape.yields_record`).

A value that is read is *built* in a certain way (`Value.Built`): its nesting is bounded, the keys
of its objects ascend, and its integers fit sixty-four bits (`Reader.yields_value`).
-/

namespace AccessControl.Json

open AccessControl.Decimal

namespace Reader

variable {α β σ κ : Type} {r : Reader α} {P : α → Prop} {Q : β → Prop}

/-- Whatever the text, the reader answers nothing but what satisfies the condition. -/
def Yields (r : Reader α) (P : α → Prop) : Prop :=
  ∀ cs x rest, r cs = .ok (x, rest) → P x

theorem yields_true (r : Reader α) : r.Yields fun _ => True := fun _ _ _ _ => trivial

/-- A reader that takes nothing yields the value it was given. -/
theorem yields_pure {x : α} (h : P x) : (pure x : Reader α).Yields P := by
  intro cs y rest hr
  cases hr
  exact h

/-- A reader that fails yields nothing, and so only what is asked for. -/
theorem yields_fail {fault : Fault} : (fail fault : Reader α).Yields P := by
  intro cs x rest hr
  cases hr

/-- What a sequence yields follows from what its second step yields behind the first. -/
theorem yields_bind {next : α → Reader β} (h : r.Yields P)
    (hnext : ∀ x, P x → (next x).Yields Q) : (r >>= next).Yields Q := by
  intro cs y rest hr
  change (r cs >>= fun p => next p.1 p.2) = _ at hr
  cases hfirst : r cs with
  | error fault =>
    rw [hfirst] at hr
    cases hr
  | ok p =>
    rw [hfirst] at hr
    exact hnext p.1 (h cs p.1 p.2 hfirst) p.2 y rest hr

/-- Behind a reader of which nothing is known. -/
theorem yields_behind {next : α → Reader β} (hnext : ∀ x, (next x).Yields Q) :
    (r >>= next).Yields Q :=
  yields_bind (yields_true r) fun x _ => hnext x

/-- A choice yields what both of its branches yield. -/
theorem yields_ite {p : Prop} [Decidable p] {r' : Reader α} (h : p → r.Yields P)
    (h' : ¬ p → r'.Yields P) : (if p then r else r').Yields P := by
  by_cases hp : p
  · rw [if_pos hp]
    exact h hp
  · rw [if_neg hp]
    exact h' hp

/-! ## Containers -/

/-- The further items of an array are what the reader of an item yields. -/
theorem yields_items {item : Reader α} (h : item.Yields P) (n : Nat) (first : Bool) :
    (items item n first).Yields fun xs => ∀ x ∈ xs, P x := by
  induction n generalizing first with
  | zero => exact yields_fail
  | succ n ih =>
    refine yields_behind fun more => yields_ite (fun _ => ?_) fun _ => yields_pure (by simp)
    refine yields_bind h fun x hx => yields_bind (ih false) fun xs hxs => yields_pure ?_
    exact List.forall_mem_cons.mpr ⟨hx, hxs⟩

/-- The items of an array are what the reader of an item yields. -/
theorem yields_list {item : Reader α} (h : item.Yields P) :
    (list item).Yields fun xs => ∀ x ∈ xs, P x :=
  yields_behind fun _ => yields_behind fun cs => yields_items h (cs.length + 1) true

/-- What every entry keeps of a draft holds at the end of an object. -/
theorem yields_fold {key : Reader κ} {entry : κ → σ → Reader σ} {inv : σ → Prop} {start : σ}
    (hstart : inv start) (h : ∀ k s, inv s → (entry k s).Yields inv) :
    (fold key entry start).Yields inv := by
  have hentries : ∀ n first s, inv s → (entries key entry n first s).Yields inv := by
    intro n
    induction n with
    | zero => exact fun _ _ _ => yields_fail
    | succ n ih =>
      intro first s hs
      refine yields_behind fun more => yields_ite (fun _ => ?_) fun _ => yields_pure hs
      refine yields_behind fun c => yields_ite (fun _ => ?_) fun _ => yields_fail
      exact yields_behind fun k => yields_bind (h k s hs) fun s' hs' => ih false s' hs'
  exact yields_behind fun _ => yields_behind fun cs => hentries _ _ _ hstart

/-- A value of another kind is never answered. -/
theorem yields_mismatch : (mismatch : Reader α).Yields P :=
  yields_behind fun _ => yields_ite (fun _ => yields_fail)
    fun _ => yields_behind fun _ => yields_fail

end Reader

/-! ## Numbers -/

/-- An integer fits sixty-four bits, with or without a sign. -/
def Number.Fits : Number → Prop
  | .integer i => -(2 ^ 63) ≤ i ∧ i < 2 ^ 64
  | .double _ => True

namespace Reader

/-- The gathered digits of a number fit sixty-four bits. -/
theorem gather_lt {significand : Nat} (h : significand < UInt64.size) (ds : List Char) :
    (gather significand ds).1 < UInt64.size := by
  induction ds generalizing significand with
  | nil => exact h
  | cons c ds ih =>
    rw [gather]
    split
    · next hfits => exact ih (by simpa only [fitsWith, decide_eq_true_eq] using hfits)
    · exact h

/-- A number with a sign fits, whether it is exact or a double. -/
theorem yields_finish (negative : Bool) (significand : Nat) (exponent : Int) :
    (finish negative significand exponent).Yields Number.Fits := by
  unfold finish
  split
  · exact yields_pure trivial
  · exact yields_fail

/-- A number with an exponent fits. -/
theorem yields_exponentPart (negative : Bool) (significand : Nat) (exponent : Int) :
    (exponentPart negative significand exponent).Yields Number.Fits := by
  refine yields_behind fun _ => yields_behind fun sign => ?_
  -- whether there is a sign or not, the number is a double
  refine yields_ite (fun _ => yields_behind fun _ => ?_) fun _ => ?_
  all_goals
    refine yields_behind fun c => yields_ite (fun _ => yields_behind fun rest => ?_)
      fun _ => yields_fail
    refine yields_ite (fun _ => ?_) fun _ => ?_
    · exact yields_ite (fun _ => yields_fail) fun _ => yields_pure trivial
    · exact yields_ite (fun _ => yields_finish _ _ _) fun _ => yields_finish _ _ _

/-- A number fits with an exponent and without one. -/
theorem yields_exponentIfAny (negative : Bool) (significand : Nat) (exponent : Int) :
    (exponentIfAny negative significand exponent).Yields Number.Fits :=
  yields_behind fun _ => yields_ite (fun _ => yields_exponentPart _ _ _)
    fun _ => yields_finish _ _ _

/-- A number with a fraction fits. -/
theorem yields_fractionPart (negative : Bool) (significand : Nat) (exponent : Int) :
    (fractionPart negative significand exponent).Yields Number.Fits := by
  refine yields_behind fun _ => yields_behind fun ds => yields_ite (fun _ => ?_) fun _ => ?_
  · refine yields_behind fun c => ?_
    cases c <;> exact yields_fail
  · exact yields_exponentIfAny _ _ _

/-- An integer is answered only if it fits. -/
theorem yields_wholeNumber (negative : Bool) {significand : Nat} (h : significand < UInt64.size) :
    (wholeNumber negative significand).Yields Number.Fits := by
  have hsize : UInt64.size = 2 ^ 64 := rfl
  refine yields_ite (fun _ => yields_ite (fun hfits => yields_pure ?_) fun _ => ?_)
    fun _ => yields_pure ?_
  · simp only [Number.Fits]
    omega
  · exact yields_finish _ _ _
  · simp only [Number.Fits]
    omega

/-- A number behind its sign fits. -/
theorem yields_unsignedNumber (negative : Bool) :
    (unsignedNumber negative).Yields Number.Fits := by
  refine yields_behind fun c => yields_ite (fun hdigit => ?_) fun _ => yields_fail
  refine yields_behind fun next => yields_ite (fun _ => yields_fail) fun _ => ?_
  refine yields_behind fun ds => ?_
  have hlt : (gather (digitValue c) ds).1 < UInt64.size :=
    gather_lt (Nat.lt_trans (digitValue_lt hdigit) (by decide)) ds
  refine yields_behind fun stop => ?_
  split
  · exact yields_fractionPart _ _ _
  · exact yields_exponentPart _ _ _
  · exact yields_exponentPart _ _ _
  · exact yields_ite (fun _ => yields_wholeNumber negative hlt) fun _ => yields_finish _ _ _

/-- Every number that is read fits. -/
theorem yields_number : number.Yields Number.Fits := by
  refine yields_behind fun sign => ?_
  split
  · exact yields_behind fun _ => yields_unsignedNumber true
  · exact yields_unsignedNumber false

end Reader

/-! ## Values -/

/-- The value is at most `n` containers deep, the keys of its objects ascend, and its integers
fit. -/
inductive Value.Built : Nat → Value → Prop
  | null (n : Nat) : Built n .null
  | bool (n : Nat) (b : Bool) : Built n (.bool b)
  | number (n : Nat) {m : Number} (fits : m.Fits) : Built n (.number m)
  | string (n : Nat) (s : String) : Built n (.string s)
  | array {n : Nat} {vs : List Value} (items : ∀ v ∈ vs, Built n v) : Built (n + 1) (.array vs)
  | object {n : Nat} {es : Entries} (sorted : es.Sorted) (values : ∀ e ∈ es, Built n e.2) :
      Built (n + 1) (.object es)

/-- The entries of an object that was built with values at most `n` containers deep. -/
structure Entries.Built (n : Nat) (es : Entries) : Prop where
  sorted : es.Sorted
  values : ∀ e ∈ es, e.2.Built n

namespace Entries

variable {es : Entries} {n : Nat} {key : String} {v : Value}

theorem built_nil (n : Nat) : Built n [] :=
  ⟨List.Pairwise.nil, nofun⟩

/-- An entry behind an insertion is the one that was put in, or was there before. -/
theorem mem_insert {e : String × Value} (h : e ∈ es.insert key v) : e = (key, v) ∨ e ∈ es := by
  induction es with
  | nil => exact Or.inl (List.mem_singleton.mp h)
  | cons first es ih =>
    rw [insert] at h
    split_ifs at h
    · exact List.mem_cons.mp h
    · exact (List.mem_cons.mp h).imp_right (List.mem_cons_of_mem _)
    · obtain rfl | h := List.mem_cons.mp h
      · exact Or.inr List.mem_cons_self
      · exact (ih h).imp_right (List.mem_cons_of_mem _)

/-- A key of the list, or one that comes before all of them, keeps it sorted. -/
theorem Sorted.insert (sorted : es.Sorted) (key : String) (v : Value) :
    Sorted (es.insert key v) := by
  induction es with
  | nil => exact List.pairwise_singleton _ _
  | cons first es ih =>
    obtain ⟨hfirst, hrest⟩ := List.pairwise_cons.mp sorted
    rw [Entries.insert]
    split_ifs with hlt heq
    · refine List.pairwise_cons.mpr ⟨fun e he => ?_, sorted⟩
      obtain rfl | he := List.mem_cons.mp he
      · exact hlt
      · exact lt_trans hlt (hfirst e he)
    · exact List.pairwise_cons.mpr ⟨heq ▸ hfirst, hrest⟩
    · refine List.pairwise_cons.mpr ⟨fun e he => ?_, ih hrest⟩
      obtain rfl | he := mem_insert he
      · exact lt_of_le_of_ne (not_lt.mp hlt) (Ne.symm heq)
      · exact hfirst e he

/-- Entries that are built stay so when a value that is built is put under a key. -/
theorem Built.insert (built : es.Built n) (hv : v.Built n) (key : String) :
    Built n (es.insert key v) where
  sorted := built.sorted.insert key v
  values e he := by
    obtain rfl | he := mem_insert he
    · exact hv
    · exact built.values e he

end Entries

namespace Reader

/-- A value that is no container is built at any depth. -/
theorem yields_scalar (n : Nat) (c : Char) : (scalar c).Yields (Value.Built n) := by
  refine yields_ite (fun _ => yields_behind fun s => yields_pure (.string n s)) fun _ => ?_
  refine yields_ite (fun _ => yields_behind fun _ => yields_pure (.null n)) fun _ => ?_
  refine yields_ite (fun _ => yields_behind fun _ => yields_pure (.bool n true)) fun _ => ?_
  refine yields_ite (fun _ => yields_behind fun _ => yields_pure (.bool n false)) fun _ => ?_
  exact yields_ite (fun _ => yields_bind yields_number fun m hm => yields_pure (.number n hm))
    fun _ => yields_fail

/-- A value that is read is built within the nesting that is left. -/
theorem yields_value (n : Nat) : (value n).Yields (Value.Built n) := by
  induction n with
  | zero => exact yields_behind fun c => yields_scalar 0 c
  | succ n ih =>
    refine yields_behind fun c => yields_ite (fun _ => ?_) fun _ => ?_
    · exact yields_bind (yields_list ih) fun vs hvs => yields_pure (.array hvs)
    refine yields_ite (fun _ => ?_) fun _ => yields_scalar (n + 1) c
    refine yields_bind (yields_fold (Entries.built_nil n) fun k es hes => ?_)
      fun es hes => yields_pure (.object hes.sorted hes.values)
    exact yields_behind fun _ => yields_bind ih fun v hv => yields_pure (hes.insert hv k)

end Reader

/-! ## Shapes -/

namespace Shape

open Reader

variable {α β σ : Type} {n : Nat} {P : α → Prop}

/-- A natural number that is read fits sixty-four bits. -/
theorem yields_natural (n : Nat) : (natural n).Yields (· < 2 ^ 64) := by
  refine yields_behind fun c => yields_ite (fun _ => yields_bind yields_number fun m hm => ?_)
    fun _ => yields_mismatch
  split
  · have hlt := hm.2
    simp only [Int.ofNat_eq_natCast] at hlt
    exact yields_pure (by omega)
  · exact yields_fail

/-- What is read from a string has the properties that its own reader gives. -/
theorem yields_parsed {parse : String → Option α} (h : ∀ text x, parse text = some x → P x)
    (n : Nat) : (parsed parse n).Yields P := by
  refine yields_behind fun text => ?_
  split
  · next x hx => exact yields_pure (h text x hx)
  · exact yields_fail

/-- A list that is read has items as the shape of an item yields them. -/
theorem yields_list {item : Shape α} (h : (item n).Yields P) :
    (list item (n + 1)).Yields fun xs => ∀ x ∈ xs, P x :=
  yields_behind fun _ => yields_ite (fun _ => Reader.yields_list h) fun _ => yields_mismatch

/-- What every entry keeps of a draft holds of what is folded from an object one level further down.
-/
theorem yields_fold {entry : Nat → String → σ → Reader σ} {start : σ} {inv : σ → Prop}
    (hstart : inv start) (h : ∀ key s, inv s → (entry n key s).Yields inv) :
    (fold entry start (n + 1)).Yields inv :=
  yields_behind fun _ => yields_ite (fun _ => Reader.yields_fold hstart h) fun _ => yields_mismatch

/-- The entries of an object that is read are built one level further down. -/
theorem yields_object (n : Nat) : (object (n + 1)).Yields (Entries.Built n) :=
  yields_fold (Entries.built_nil n) fun key _ hes =>
    yields_behind fun _ => yields_bind (yields_value n) fun _ hv => yields_pure (hes.insert hv key)

/-! ## Records -/

/-- Reading a field keeps what setting it keeps. -/
theorem yields_field {name : String} {shape : Shape α} {get : σ → Option α} {set : σ → α → σ}
    {inv : σ → Prop} (h : (shape n).Yields P) (hset : ∀ s x, inv s → P x → inv (set s x)) :
    ∀ s, inv s → ((field name shape get set).read n s).Yields inv :=
  fun s hs => yields_bind h fun x hx => yields_pure (hset s x hs hx)

/-- Fields by position keep of a draft whatever each field keeps. -/
theorem yields_positional {fields : List (Field σ)} {inv : σ → Prop}
    (h : ∀ f ∈ fields, ∀ s, inv s → (f.read n s).Yields inv) (first : Bool) (s : σ) (hs : inv s) :
    (positional n fields first s).Yields inv := by
  induction fields generalizing first s with
  | nil => exact yields_behind fun _ => yields_pure hs
  | cons f fs ih =>
    obtain ⟨hf, hfs⟩ := List.forall_mem_cons.mp h
    refine yields_behind fun more => yields_ite (fun _ => ?_) fun _ => yields_pure hs
    exact yields_bind (hf s hs) fun s' hs' => ih hfs false s' hs'

/-- Fields by name keep of a draft whatever each field keeps. -/
theorem yields_keyed {fields : List (Field σ)} {inv : σ → Prop}
    (h : ∀ f ∈ fields, ∀ s, inv s → (f.read n s).Yields inv) (key : String) (s : σ) (hs : inv s) :
    (keyed fields n key s).Yields inv := by
  unfold keyed
  split
  · next f hfind =>
    refine yields_ite (fun _ => yields_fail) fun _ => yields_behind fun _ => ?_
    exact h f (List.mem_of_find?_eq_some hfind) s hs
  · exact yields_behind fun _ => yields_behind fun _ => yields_pure hs

/-- What every field keeps of a draft is known when the record is complete. -/
theorem yields_record {fields : List (Field σ)} {start : σ} {complete : σ → Option α}
    (inv : σ → Prop) (hstart : inv start)
    (h : ∀ f ∈ fields, ∀ s, inv s → (f.read n s).Yields inv)
    (hcomplete : ∀ s x, inv s → complete s = some x → P x) :
    (record fields start complete (n + 1)).Yields P := by
  have hobject : (Reader.fold Reader.quoted (keyed fields n) start).Yields inv :=
    Reader.yields_fold hstart fun key s hs => yields_keyed h key s hs
  have harray : (positional n fields true start).Yields inv :=
    yields_positional h true start hstart
  refine yields_behind fun c => yields_ite
    (fun _ => yields_behind fun _ => yields_bind harray fun draft hdraft => ?_)
    fun _ => yields_ite (fun _ => yields_bind hobject fun draft hdraft => ?_)
      fun _ => yields_bind yields_mismatch fun draft (hdraft : inv draft) => ?_
  -- however the draft was gathered
  all_goals
    dsimp only
    split
    · next x hx => exact yields_pure (hcomplete draft x hdraft hx)
    · exact yields_fail

/-- What a whole text is read as, the reader can answer. -/
theorem of_ofText {shape : Shape α} {text : String} {x : α} (h : (shape maxNesting).Yields P)
    (hread : shape.ofText text = .ok x) : P x := by
  rw [ofText, run] at hread
  split at hread
  · cases hread
  · next y rest hy =>
    split_ifs at hread
    obtain rfl := Except.ok.inj hread
    exact h _ _ _ hy

end Shape

end AccessControl.Json
