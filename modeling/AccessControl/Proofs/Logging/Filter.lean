import AccessControl.Logging.Filter
import Mathlib.Data.Char
import Mathlib.Data.List.Induction
import Mathlib.Data.List.Lex
import Mathlib.Data.Prod.Lex

/-!
# Which directive decides

Directives are ordered by how specific they are: by the reach of their targets, then by the number
of fields they ask for, then by the names of these fields. Of the directives of a filter that cover
an event, the last one of the greatest specificity decides about it (`Filter.deciding?_iff`), and
an event is let through if this one has a threshold that its level does not exceed
(`Filter.admits_iff`).

So the order of the directives in a filter matters only among those that are equally specific
(`Filter.deciding?_eq_of_perm`).
-/

namespace AccessControl.Logging

/-! ## How specific a directive is -/

/-- The reach of the target, the number of fields, and their names, to be compared in this order. -/
def Directive.specificity (d : Directive) : Nat ×ₗ Nat ×ₗ List (List Char) :=
  toLex (d.reach, toLex (d.fields.length, d.fields.map (·.name)))

/-- A directive is less specific than another one in the order of their specificities. -/
theorem Directive.isLessSpecific_iff {d e : Directive} :
    d.isLessSpecific e = true ↔ d.specificity < e.specificity := by
  simp only [isLessSpecific, specificity, Prod.Lex.toLex_lt_toLex, Bool.or_eq_true,
    Bool.and_eq_true, decide_eq_true_eq, beq_iff_eq]

namespace Filter

variable {filter filter' before behind : Filter} {d e : Directive} {r : Record}

/-! ## The deciding directive -/

/-- The directive stands in the filter at this place and covers the event; those in front of it that
do are not more specific, and those behind it are less specific. -/
structure Decides (before : Filter) (d : Directive) (behind : Filter) (r : Record) : Prop where
  covers : d.covers r = true
  front : ∀ e ∈ before, e.covers r = true → e.specificity ≤ d.specificity
  back : ∀ e ∈ behind, e.covers r = true → e.specificity < d.specificity

/-- Nothing that covers the event is more specific than what decides. -/
theorem Decides.specificity_le (decides : Decides before d behind r)
    (he : e ∈ before ++ d :: behind) (hc : e.covers r = true) : e.specificity ≤ d.specificity := by
  obtain hfront | rfl | hback : e ∈ before ∨ e = d ∨ e ∈ behind := by simpa using he
  · exact decides.front e hfront hc
  · exact le_rfl
  · exact (decides.back e hback hc).le

theorem deciding?_nil (r : Record) : deciding? [] r = none := rfl

/-- A directive that does not cover the event changes nothing. -/
theorem deciding?_snoc_of_not_covers (filter : Filter) (h : e.covers r = false) :
    deciding? (filter ++ [e]) r = filter.deciding? r := by
  simp [deciding?, h]

/-- A directive at the end decides unless one in front of it is more specific. -/
theorem deciding?_snoc_of_covers (filter : Filter) (h : e.covers r = true) :
    deciding? (filter ++ [e]) r = some (match filter.deciding? r with
      | some d => if e.specificity < d.specificity then d else e
      | none => e) := by
  have hfilter : (filter ++ [e]).filter (·.covers r) = filter.filter (·.covers r) ++ [e] := by
    simp [h]
  rw [deciding?, hfilter, List.foldl_append, List.foldl_cons, List.foldl_nil, ← deciding?]
  cases filter.deciding? r with
  | none => rfl
  | some d =>
    simp only [Directive.isLessSpecific_iff]
    split_ifs <;> rfl

/-- No directive decides exactly if none covers the event. -/
theorem deciding?_eq_none_iff :
    filter.deciding? r = none ↔ ∀ e ∈ filter, e.covers r = false := by
  induction filter using List.reverseRecOn with
  | nil => simp [deciding?_nil]
  | append_singleton filter e ih =>
    rw [List.forall_mem_append, List.forall_mem_singleton, ← ih]
    cases h : e.covers r with
    | false => simp [deciding?_snoc_of_not_covers filter h]
    | true => simp [deciding?_snoc_of_covers filter h]

/-- What decides has its place in the filter. -/
theorem exists_decides (h : filter.deciding? r = some d) :
    ∃ before behind, filter = before ++ d :: behind ∧ Decides before d behind r := by
  induction filter using List.reverseRecOn generalizing d with
  | nil => cases h
  | append_singleton filter e ih =>
    cases hcovers : e.covers r with
    | false =>
      rw [deciding?_snoc_of_not_covers filter hcovers] at h
      obtain ⟨before, behind, rfl, decides⟩ := ih h
      refine ⟨before, behind ++ [e], by simp, decides.covers, decides.front, ?_⟩
      exact List.forall_mem_append.mpr ⟨decides.back, by simp [hcovers]⟩
    | true =>
      rw [deciding?_snoc_of_covers filter hcovers, Option.some.injEq] at h
      cases hfilter : deciding? filter r with
      | none =>
        rw [hfilter] at h
        subst h
        refine ⟨filter, [], rfl, hcovers, fun e' he' hc => ?_, by simp⟩
        cases hc.symm.trans (deciding?_eq_none_iff.mp hfilter e' he')
      | some b =>
        obtain ⟨before, behind, rfl, decides⟩ := ih hfilter
        rw [hfilter] at h
        dsimp only at h
        split_ifs at h with hless
        · subst h
          refine ⟨before, behind ++ [e], by simp, decides.covers, decides.front, ?_⟩
          exact List.forall_mem_append.mpr ⟨decides.back, by simpa using fun _ => hless⟩
        · -- the last directive takes over from one that is not more specific
          subst h
          have hle : b.specificity ≤ e.specificity := not_lt.mp hless
          exact ⟨before ++ b :: behind, [], rfl, hcovers,
            fun e' he' hc => (decides.specificity_le he' hc).trans hle, by simp⟩

/-- What has the place of the deciding directive decides. -/
theorem Decides.deciding? (decides : Decides before d behind r) :
    (before ++ d :: behind).deciding? r = some d := by
  induction behind using List.reverseRecOn with
  | nil =>
    rw [deciding?_snoc_of_covers before decides.covers]
    cases hbefore : before.deciding? r with
    | none => rfl
    | some b =>
      obtain ⟨front, back, rfl, hb⟩ := exists_decides hbefore
      have hle := decides.front b (by simp) hb.covers
      exact congrArg some (if_neg hle.not_gt)
  | append_singleton behind e ih =>
    obtain ⟨hback, hlast⟩ := List.forall_mem_append.mp decides.back
    have hbehind := ih ⟨decides.covers, decides.front, hback⟩
    rw [← List.cons_append, ← List.append_assoc]
    cases hcovers : e.covers r with
    | false => rw [deciding?_snoc_of_not_covers _ hcovers, hbehind]
    | true =>
      rw [deciding?_snoc_of_covers _ hcovers, hbehind]
      exact congrArg some (if_pos (hlast e (List.mem_singleton_self e) hcovers))

/-- The directive that decides about an event is the last one of the most specific ones among those
that cover it. -/
theorem deciding?_iff : filter.deciding? r = some d ↔
    ∃ before behind, filter = before ++ d :: behind ∧ Decides before d behind r := by
  constructor
  · exact exists_decides
  · rintro ⟨before, behind, rfl, decides⟩
    exact decides.deciding?

/-- An event is let through by the deciding directive, up to the level of its threshold. -/
theorem admits_iff : filter.admits r = true ↔
    ∃ before d behind most, filter = before ++ d :: behind ∧ Decides before d behind r ∧
      d.threshold = some most ∧ r.level.rank ≤ most.rank := by
  have hthreshold (d : Directive) : d.threshold.admits r.level = true ↔
      ∃ most, d.threshold = some most ∧ r.level.rank ≤ most.rank := by
    unfold Threshold.admits
    cases d.threshold <;> simp
  constructor
  · intro h
    rw [admits] at h
    cases hdecides : filter.deciding? r with
    | none =>
      rw [hdecides] at h
      cases h
    | some d =>
      rw [hdecides] at h
      obtain ⟨most, hmost, hle⟩ := (hthreshold d).mp h
      obtain ⟨before, behind, hfilter, decides⟩ := exists_decides hdecides
      exact ⟨before, d, behind, most, hfilter, decides, hmost, hle⟩
  · rintro ⟨before, d, behind, most, rfl, decides, hmost, hle⟩
    rw [admits, decides.deciding?]
    exact (hthreshold d).mpr ⟨most, hmost, hle⟩

/-- A level alone lets events of all targets through, up to itself. -/
theorem admits_bare_iff {most : Level} :
    admits [{ threshold := some most }] r = true ↔ r.level.rank ≤ most.rank := by
  simp [admits, deciding?, Directive.covers, Directive.isStatic, Threshold.admits]

/-- A text in which nothing can be read lets errors through. -/
theorem admits_ofTextLossy_of_unreadable {text : String}
    (h : ∀ cs ∈ directiveTexts text, Directive.ofChars? cs = none) :
    (ofTextLossy text).admits r = true ↔ r.level.rank ≤ Level.error.rank := by
  have hnone : (directiveTexts text).filterMap Directive.ofChars? = [] :=
    List.filterMap_eq_nil_iff.mpr h
  rw [ofTextLossy, hnone, admits_bare_iff]

/-- Directives in another order decide alike, if no two of those that cover the event are equally
specific. -/
theorem deciding?_eq_of_perm (perm : filter.Perm filter')
    (distinct : ∀ d ∈ filter, ∀ e ∈ filter, d.covers r = true → e.covers r = true →
      d.specificity = e.specificity → d = e) : filter.deciding? r = filter'.deciding? r := by
  -- whatever decides is as specific as anything that covers the event
  have hmost {fs : Filter} {d : Directive} (h : fs.deciding? r = some d) :
      d ∈ fs ∧ d.covers r = true ∧ ∀ e ∈ fs, e.covers r = true → e.specificity ≤ d.specificity := by
    obtain ⟨before, behind, rfl, decides⟩ := exists_decides h
    exact ⟨by simp, decides.covers, fun e he hc => decides.specificity_le he hc⟩
  cases hfilter : filter.deciding? r with
  | none =>
    rw [deciding?_eq_none_iff] at hfilter
    exact (deciding?_eq_none_iff.mpr fun e he => hfilter e (perm.mem_iff.mpr he)).symm
  | some d =>
    obtain ⟨hd, hdc, hdmost⟩ := hmost hfilter
    cases hfilter' : filter'.deciding? r with
    | none =>
      cases hdc.symm.trans (deciding?_eq_none_iff.mp hfilter' d (perm.mem_iff.mp hd))
    | some e =>
      obtain ⟨he, hec, hemost⟩ := hmost hfilter'
      have he' : e ∈ filter := perm.mem_iff.mpr he
      rw [distinct d hd e he' hdc hec
        (le_antisymm (hemost d (perm.mem_iff.mp hd) hdc) (hdmost e he' hec))]

end Filter

end AccessControl.Logging
