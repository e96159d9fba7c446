import AccessControl.Bearer
import AccessControl.Proofs.Identity.DeadTokens
import AccessControl.Proofs.Pattern.Classes
import AccessControl.Proofs.Text.Trim

/-!
# Tokens in authorization headers

A header carries a token if it is put together of the scheme, blanks, the token, and blanks, where
the token is not empty and neither starts nor ends with a blank. These are the headers a token is
taken out of, and it is the one that was put in (`bearerToken_reads_header`). Trimming takes a text
apart in one way only (`Text.trim_eq_iff`), so a header carries one token at most.
-/

namespace AccessControl

open AccessControl.Pattern
open AccessControl.Text

/-! ## Headers -/

section Headers

variable {header rest token : String}

/-- Nothing is left over of blanks. -/
theorem Text.trim_eq_nil_iff {cs : List Char} : trim cs = [] ↔ Blank cs := by
  rw [trim_eq_iff]
  constructor
  · rintro ⟨_, before, after, hbefore, hafter, rfl⟩ c hc
    rw [List.append_nil, List.mem_append] at hc
    exact hc.elim (hbefore c) (hafter c)
  · intro blank
    exact ⟨trimmed_of_forall (by simp), cs, [], blank, by simp [Blank], by simp⟩

/-- The text behind the scheme is what the scheme was put in front of. -/
theorem afterScheme?_eq_some_iff :
    afterScheme? header.toList = some rest.toList ↔ header = "Bearer " ++ rest := by
  have hscheme : ("Bearer " ++ rest).toList = bearerScheme ++ rest.toList := String.toList_append
  rw [← String.toList_inj, hscheme, afterScheme?]
  constructor
  · intro h
    split at h
    · next hprefix =>
      obtain ⟨behind, hbehind⟩ := List.isPrefixOf_iff_prefix.mp hprefix
      rw [← hbehind, List.drop_left] at h
      rw [← hbehind, Option.some.inj h]
    · cases h
  · intro h
    rw [h, if_pos (List.isPrefixOf_iff_prefix.mpr (List.prefix_append _ _)), List.drop_left]

/-- A header is the scheme with a text behind it, or it is refused. -/
theorem bearerToken_cases (header : String) : (∃ rest, header = "Bearer " ++ rest) ∨
    (∀ rest, header ≠ "Bearer " ++ rest) ∧ bearerToken header = .error .notBearer := by
  cases hscheme : afterScheme? header.toList with
  | some cs =>
    refine Or.inl ⟨String.ofList cs, afterScheme?_eq_some_iff.mp ?_⟩
    rw [hscheme, String.toList_ofList]
  | none =>
    refine Or.inr ⟨fun rest hrest => ?_, by rw [bearerToken, hscheme]⟩
    cases hscheme.symm.trans (afterScheme?_eq_some_iff.mpr hrest)

/-- A header with the scheme holds the token that is left over of what stands behind it, if anything
is left over. -/
theorem bearerToken_append (rest : String) : bearerToken ("Bearer " ++ rest) =
    if trim rest.toList = [] then .error .empty else .ok (String.ofList (trim rest.toList)) := by
  rw [bearerToken, afterScheme?_eq_some_iff.mpr rfl]
  cases htrim : trim rest.toList <;> simp [htrim]

/-- A token is what stands behind the scheme, without blanks around it, if anything does. -/
theorem bearerToken_eq_ok_iff : bearerToken header = .ok token ↔
    token ≠ "" ∧ ∃ rest : String, header = "Bearer " ++ rest ∧ trim rest.toList = token.toList := by
  have hnil : token = "" ↔ token.toList = [] := String.toList_eq_nil_iff.symm
  constructor
  · intro h
    obtain ⟨rest, rfl⟩ | ⟨_, hrefused⟩ := bearerToken_cases header
    · rw [bearerToken_append] at h
      split_ifs at h with hblank
      have htoken : trim rest.toList = token.toList := by
        rw [← Except.ok.inj h, String.toList_ofList]
      exact ⟨fun hempty => hblank (htoken.trans (hnil.mp hempty)), rest, rfl, htoken⟩
    · cases hrefused.symm.trans h
  · rintro ⟨hne, rest, rfl, htoken⟩
    rw [bearerToken_append, htoken, if_neg (mt hnil.mpr hne), String.ofList_toList]

/-- A header is refused as another scheme exactly when it lacks this one. -/
theorem bearerToken_eq_notBearer_iff :
    bearerToken header = .error .notBearer ↔ ∀ rest, header ≠ "Bearer " ++ rest := by
  obtain ⟨rest, rfl⟩ | ⟨hscheme, hrefused⟩ := bearerToken_cases header
  · refine iff_of_false ?_ fun h => h rest rfl
    rw [bearerToken_append]
    split_ifs <;> simp
  · exact iff_of_true hrefused hscheme

/-- A header is refused as empty exactly when only blanks follow the scheme. -/
theorem bearerToken_eq_empty_iff : bearerToken header = .error .empty ↔
    ∃ rest : String, Blank rest.toList ∧ header = "Bearer " ++ rest := by
  constructor
  · intro h
    obtain ⟨rest, rfl⟩ | ⟨_, hrefused⟩ := bearerToken_cases header
    · rw [bearerToken_append] at h
      split_ifs at h with hblank
      exact ⟨rest, trim_eq_nil_iff.mp hblank, rfl⟩
    · cases hrefused.symm.trans h
  · rintro ⟨rest, blank, rfl⟩
    rw [bearerToken_append, if_pos (trim_eq_nil_iff.mpr blank)]

/-- A text is trimmed to what stands in it between blanks and has none at its ends. -/
theorem Text.trim_toList_eq_iff : trim rest.toList = token.toList ↔ Trimmed token.toList ∧
    ∃ before after : String, Blank before.toList ∧ Blank after.toList ∧
      rest = before ++ token ++ after := by
  rw [trim_eq_iff]
  refine and_congr_right fun _ => ⟨?_, ?_⟩
  · rintro ⟨before, after, hbefore, hafter, hrest⟩
    refine ⟨String.ofList before, String.ofList after, ?_, ?_, ?_⟩
    · rwa [String.toList_ofList]
    · rwa [String.toList_ofList]
    · rw [← String.toList_inj, hrest, String.toList_append, String.toList_append,
        String.toList_ofList, String.toList_ofList]
  · rintro ⟨before, after, hbefore, hafter, rfl⟩
    exact ⟨before.toList, after.toList, hbefore, hafter, by simp only [String.toList_append]⟩

end Headers

/-- A token that is looked up under a name is unknown only if there is no key under it. -/
theorem KeyTable.resolve_eq_unauthorized_iff {table : KeyTable} {token : String}
    {now : Calendar.Timestamp} :
    (table.resolve token now).1 = .error .unauthorized ↔ table.Gone token := by
  unfold resolve Gone
  by_cases htoken : token = ""
  · simp only [htoken, if_true, true_or]
  rw [if_neg htoken]
  cases hget : table.get? token with
  | none => simp only [or_true]
  | some claims => cases hvalid : claims.validate now <;> simp [htoken, hvalid]

/-- A token is taken out of exactly those headers that are put together of the scheme, blanks, the
token and blanks, where the token is not empty and has no blanks at its ends. Blanks are the
characters with the Unicode property `White_Space`.

A header is refused for its scheme exactly if it does not start with it, and for want of a token
exactly if nothing but blanks stands behind the scheme. A token that was taken out is taken out
again from behind the scheme alone. The identity service knows nobody under the empty token; a token
that was taken out of a header is unknown to it only if there is no key under this token. -/
theorem bearerToken_reads_header (header : String) :
    (∀ c, isBlank c = CharClass.space.contains c.toNat) ∧
    (∀ token, bearerToken header = .ok token ↔ token ≠ "" ∧ Trimmed token.toList ∧
      ∃ before after : String, Blank before.toList ∧ Blank after.toList ∧
        header = "Bearer " ++ before ++ token ++ after) ∧
    (bearerToken header = .error .notBearer ↔ ∀ rest, header ≠ "Bearer " ++ rest) ∧
    (bearerToken header = .error .empty ↔
      ∃ rest : String, Blank rest.toList ∧ header = "Bearer " ++ rest) ∧
    ∀ token, bearerToken header = .ok token → bearerToken ("Bearer " ++ token) = .ok token ∧
      ∀ (α : Type) (s : IdentityState α),
        (LocalIdentity.identify "" s).result = .error .unauthorized ∧
        ((LocalIdentity.identify token s).result = .error .unauthorized ↔
          s.keys.get? token = none) := by
  refine ⟨isBlank_eq_contains_space, fun token => ?_, bearerToken_eq_notBearer_iff,
    bearerToken_eq_empty_iff, fun token h => ?_⟩
  · rw [bearerToken_eq_ok_iff]
    simp only [trim_toList_eq_iff, String.append_assoc]
    constructor
    · rintro ⟨hne, _, rfl, trimmed, before, after, hbefore, hafter, rfl⟩
      exact ⟨hne, trimmed, before, after, hbefore, hafter, rfl⟩
    · rintro ⟨hne, trimmed, before, after, hbefore, hafter, rfl⟩
      exact ⟨hne, _, rfl, trimmed, before, after, hbefore, hafter, rfl⟩
  · obtain ⟨hne, rest, _, htoken⟩ := bearerToken_eq_ok_iff.mp h
    have trimmed : Trimmed token.toList := (trim_eq_iff.mp htoken).1
    have hagain : trim token.toList = token.toList :=
      trim_eq_iff.mpr ⟨trimmed, [], [], by simp [Blank], by simp [Blank], by simp⟩
    refine ⟨bearerToken_eq_ok_iff.mpr ⟨hne, token, rfl, hagain⟩, fun α s => ?_⟩
    rw [LocalIdentity.identify_run, LocalIdentity.identify_run,
      KeyTable.resolve_eq_unauthorized_iff, KeyTable.resolve_eq_unauthorized_iff]
    exact ⟨Or.inl rfl, or_iff_right hne⟩

/-- Blanks inside a token belong to it, and those around it do not, whatever blanks they are. -/
theorem bearerToken_of_spaced_header :
    bearerToken "Bearer \t\u3000 abc def\u00a0" = .ok "abc def" ∧
      bearerToken ("Bearer " ++ "abc def") = .ok "abc def" := by
  have h : bearerToken "Bearer \t\u3000 abc def\u00a0" = .ok "abc def" := by decide +kernel
  exact ⟨h, ((bearerToken_reads_header _).2.2.2.2 _ h).1⟩

end AccessControl
