import AccessControl.Password.HashString
import AccessControl.Proofs.Decimal.Digits
import AccessControl.Proofs.Text.Pieces

/-!
# Reading hash strings back

A well-formed hash string is read as it was written (`HashString.ofChars_toChars`). Its fields hold
no `$`, so they are found again where they stood; each of them is told from the others by its form:
the parameters and the version have an `=` in them, the salt and the tag have none.

The version is written like a parameter by the name of `v`. Only a list that holds nothing but such
a parameter would be taken for it, and it would be so only where no version is given.
-/

namespace AccessControl.HashString

open AccessControl.Decimal
open AccessControl.Text

variable {h : HashString} {c : Char} {cs : List Char} {fields : List (List Char)}
  {params : List (List Char × List Char)} {n : Nat}

/-! ## Well-formed hash strings -/

/-- One to 32 characters of names. -/
def IsName (cs : List Char) : Prop :=
  cs ≠ [] ∧ cs.length ≤ 32 ∧ cs.all isNameChar = true

/-- At most 64 characters of values. -/
def IsValue (cs : List Char) : Prop :=
  cs.length ≤ 64 ∧ cs.all isValueChar = true

instance : DecidablePred IsName :=
  fun cs => inferInstanceAs (Decidable (cs ≠ [] ∧ cs.length ≤ 32 ∧ cs.all isNameChar = true))

/-- The fields are what the reader takes, and none is taken for another. -/
structure WellFormed (h : HashString) : Prop where
  algorithm : IsName h.algorithm
  version : ∀ n ∈ h.version, n < UInt32.size
  params : ∀ param ∈ h.params, IsName param.1 ∧ IsValue param.2
  params_fit : ([','].intercalate (h.params.map paramText)).length ≤ 127
  /-- A lone parameter that looks like a version would be read as one. -/
  no_version : h.version = none → ∀ text, h.params ≠ [(['v'], text)]
  salt : ∀ salt ∈ h.salt, 4 ≤ salt.length ∧ IsValue salt
  tag : ∀ tag ∈ h.tag, h.salt ≠ none ∧ 10 ≤ tag.length ∧ tag.length ≤ 64

/-! ## Characters -/

/-- A digit may stand in a value. -/
theorem isValueChar_of_isDigit (hc : c.isDigit = true) : isValueChar c = true := by
  simp only [isValueChar, Char.isAlphanum, hc, Bool.or_true, Bool.true_or]

/-- Whatever may stand in a name may stand in a value. -/
theorem isValueChar_of_isNameChar (hc : isNameChar c = true) : isValueChar c = true := by
  have halphanum : c.isAlphanum = (c.isUpper || c.isLower || c.isDigit) := rfl
  simp only [isNameChar, Bool.or_eq_true, beq_iff_eq] at hc
  rcases hc with (hlower | hdigit) | rfl
  · simp only [isValueChar, halphanum, hlower, Bool.or_true, Bool.true_or]
  · exact isValueChar_of_isDigit hdigit
  · rfl

/-- The letters of base 64 may stand in a value. -/
theorem isValueChar_of_mem_encode {bytes : List UInt8} (hc : c ∈ Base64.encode bytes) :
    isValueChar c = true :=
  Base64.of_mem_encode (P := fun c => isValueChar c = true) (by decide) hc

/-- No character of a value divides hash strings. -/
theorem ne_of_isValueChar (hc : isValueChar c = true) : c ≠ '$' ∧ c ≠ '=' ∧ c ≠ ',' := by
  refine ⟨?_, ?_, ?_⟩ <;>
  · rintro rfl
    exact absurd hc (by decide)

/-- A value holds none of the three separators. -/
theorem IsValue.ne_of_mem (hvalue : IsValue cs) (hc : c ∈ cs) : c ≠ '$' ∧ c ≠ '=' ∧ c ≠ ',' :=
  ne_of_isValueChar (List.all_eq_true.mp hvalue.2 c hc)

/-- A name holds none of the three separators. -/
theorem IsName.ne_of_mem (hname : IsName cs) (hc : c ∈ cs) : c ≠ '$' ∧ c ≠ '=' ∧ c ≠ ',' :=
  ne_of_isValueChar (isValueChar_of_isNameChar (List.all_eq_true.mp hname.2.2 c hc))

/-! ## Names, values and numbers -/

/-- A well-formed name is taken as it stands. -/
theorem name_of_isName (hname : IsName cs) : name cs = .ok cs := by
  obtain ⟨hne, hlength, hchars⟩ := hname
  rw [name, if_neg]
  rintro (hempty | hlong | hother)
  · exact hne (List.isEmpty_iff.mp hempty)
  · omega
  · exact hother hchars

/-- A well-formed value is taken as it stands. -/
theorem value_of_isValue (hvalue : IsValue cs) : value cs = .ok cs := by
  obtain ⟨hlength, hchars⟩ := hvalue
  have hnone : cs.find? (!isValueChar ·) = none :=
    List.find?_eq_none.mpr fun c hc => by simp [List.all_eq_true.mp hchars c hc]
  rw [value, if_neg (by omega), hnone]

/-- A number of 32 bits has ten digits at most. -/
theorem length_ofNat_le (hn : n < UInt32.size) : (ofNat n).length ≤ 10 :=
  (Nat.length_toDigits_le_iff (by decide) (by decide)).mpr (Nat.lt_trans hn (by decide))

/-- The digits of a number of 32 bits are a value. -/
theorem isValue_ofNat (hn : n < UInt32.size) : IsValue (ofNat n) :=
  ⟨Nat.le_trans (length_ofNat_le hn) (by decide),
    List.all_eq_true.mpr fun _ hc => isValueChar_of_isDigit (isDigit_of_mem_ofNat hc)⟩

/-- A number of 32 bits is read back from its digits. -/
theorem number_ofNat (hn : n < UInt32.size) : number (ofNat n) = .ok (UInt32.ofNat n) := by
  obtain ⟨first, rest, hcons, hdigits, hzero⟩ := ofNat_eq_cons n
  have hnone : (ofNat n).find? (!Char.isDigit ·) = none := by
    rw [List.find?_eq_none, hcons]
    exact fun c hc => by simp [hdigits c hc]
  have hleading : ¬ ((ofNat n).head? = some '0' ∧ 1 < (ofNat n).length) := by
    rintro ⟨hfirst, hlong⟩
    rw [hcons, List.head?_cons, Option.some.injEq] at hfirst
    rw [hcons, hzero hfirst] at hlong
    exact absurd hlong (Nat.lt_irrefl 1)
  rw [number, if_neg (by simp [hcons]), hnone]
  simp only [if_neg hleading, value_ofNat, if_pos hn]

/-! ## Parameters -/

/-- The text of a parameter is divided by an equals sign only. -/
theorem ne_of_mem_paramText {param : List Char × List Char} (hname : IsName param.1)
    (hvalue : IsValue param.2) (hc : c ∈ paramText param) : c ≠ '$' ∧ c ≠ ',' := by
  rw [paramText, List.mem_append, List.mem_cons] at hc
  rcases hc with hc | rfl | hc
  · exact ⟨(hname.ne_of_mem hc).1, (hname.ne_of_mem hc).2.2⟩
  · decide
  · exact ⟨(hvalue.ne_of_mem hc).1, (hvalue.ne_of_mem hc).2.2⟩

/-- A parameter is read back from its text. -/
theorem param_paramText {param : List Char × List Char} (hname : IsName param.1)
    (hvalue : IsValue param.2) : HashString.param (paramText param) = .ok param := by
  have hkey : ∀ c ∈ param.1, (c == '=') = false := fun c hc =>
    beq_eq_false_iff_ne.mpr (hname.ne_of_mem hc).2.1
  have htext : ∀ c ∈ param.2, (c == '=') = false := fun c hc =>
    beq_eq_false_iff_ne.mpr (hvalue.ne_of_mem hc).2.1
  have hpieces : (paramText param).splitOn '=' = [param.1, param.2] := by
    rw [List.splitOn_eq_splitOnP, paramText,
      List.splitOnP_append_cons_of_forall_mem hkey '=' rfl, List.splitOnP_eq_singleton htext]
  simp only [HashString.param, hpieces, name_of_isName hname, value_of_isValue hvalue]
  rfl

/-- Parameters are read back from their texts. -/
theorem mapM_param (hparams : ∀ param ∈ params, IsName param.1 ∧ IsValue param.2) :
    (params.map paramText).mapM HashString.param = .ok params := by
  induction params with
  | nil => rfl
  | cons param params ih =>
    obtain ⟨hname, hvalue⟩ := hparams param List.mem_cons_self
    rw [List.map_cons, List.mapM_cons, param_paramText hname hvalue,
      ih fun param hmem => hparams param (List.mem_cons_of_mem _ hmem)]
    rfl

/-- Parameters are read back from the list that they were joined to, if it is short enough. -/
theorem paramList_intercalate (hparams : ∀ param ∈ params, IsName param.1 ∧ IsValue param.2)
    (hfit : ([','].intercalate (params.map paramText)).length ≤ 127) (hne : params ≠ []) :
    paramList ([','].intercalate (params.map paramText)) = .ok params := by
  rw [paramList, if_neg (by omega), List.splitOn_intercalate, mapM_param hparams]
  · intro text htext hcomma
    obtain ⟨param, hparam, rfl⟩ := List.mem_map.mp htext
    obtain ⟨hname, hvalue⟩ := hparams param hparam
    exact (ne_of_mem_paramText hname hvalue hcomma).2 rfl
  · exact fun hnil => hne (List.map_eq_nil_iff.mp hnil)

/-! ## Taking fields -/

/-- A version field in front is taken off. -/
theorem takeVersion_version (hn : n < UInt32.size) :
    takeVersion (('v' :: '=' :: ofNat n) :: fields) = .ok (some n, fields) := by
  have hcomma : (ofNat n).contains ',' = false := by
    rw [← Bool.not_eq_true, List.contains_iff_mem]
    exact fun hmem => absurd (isDigit_of_mem_ofNat hmem) (by decide)
  rw [takeVersion, if_neg (by rw [hcomma]; exact Bool.false_ne_true),
    value_of_isValue (isValue_ofNat hn)]
  show (Except.mapError _ (number (ofNat n))).bind _ = _
  rw [number_ofNat hn]
  show Except.ok (some (UInt32.ofNat n).toNat, fields) = _
  rw [UInt32.toNat_ofNat_of_lt' hn]

/-- What does not look like a version, or is a list, is left. -/
theorem takeVersion_other
    (hother : ∀ text rest, fields = ('v' :: '=' :: text) :: rest → ',' ∈ text) :
    takeVersion fields = .ok (none, fields) := by
  unfold takeVersion
  split
  next text rest => rw [if_pos (List.contains_iff_mem.mpr (hother text rest rfl))]
  next => rfl

/-- A parameter whose text starts like a version has the name of one. -/
theorem eq_version_of_append_eq {key rest text : List Char} (hname : IsName key)
    (heq : key ++ '=' :: rest = 'v' :: '=' :: text) : key = ['v'] ∧ rest = text := by
  obtain ⟨first, letters, rfl⟩ := List.exists_cons_of_ne_nil hname.1
  obtain ⟨rfl, hletters⟩ := List.cons.inj heq
  cases letters with
  | nil => exact ⟨rfl, (List.cons.inj hletters).2⟩
  | cons c letters =>
    have hc : c = '=' := (List.cons.inj hletters).1
    exact absurd hc (hname.ne_of_mem (by simp)).2.1

/-- A field of parameters in front is taken off. -/
theorem takeParams_params (hparams : ∀ param ∈ params, IsName param.1 ∧ IsValue param.2)
    (hfit : ([','].intercalate (params.map paramText)).length ≤ 127) (hne : params ≠ []) :
    takeParams ([','].intercalate (params.map paramText) :: fields) = .ok (params, fields) := by
  have hequals : '=' ∈ [','].intercalate (params.map paramText) := by
    obtain ⟨param, others, rfl⟩ := List.exists_cons_of_ne_nil hne
    rw [List.map_cons, intercalate_cons, paramText]
    simp
  rw [takeParams, if_pos (List.contains_iff_mem.mpr hequals),
    paramList_intercalate hparams hfit hne]
  rfl

/-- Where the field in front has no equals sign, there are no parameters. -/
theorem takeParams_other (hother : ∀ field ∈ fields.head?, '=' ∉ field) :
    takeParams fields = .ok ([], fields) := by
  cases fields with
  | nil => rfl
  | cons field fields =>
    rw [takeParams, if_neg]
    rw [List.contains_iff_mem]
    exact hother field rfl

/-! ## Salts and tags -/

/-- A value of four characters or more is taken as the salt. -/
theorem saltField_of_isValue (hlength : 4 ≤ cs.length) (hvalue : IsValue cs) :
    saltField cs = .ok cs := by
  rw [saltField, if_neg (by omega), value_of_isValue hvalue]
  rfl

/-- A tag of ten to sixty-four bytes is read back from its letters. -/
theorem tagField_encode {tag : List UInt8} (hlong : 10 ≤ tag.length) (hshort : tag.length ≤ 64) :
    tagField (Base64.encode tag) = .ok tag := by
  rw [tagField, Base64.decode?_encode]
  simp only [if_neg (Nat.not_lt.mpr hlong), if_neg (Nat.not_lt.mpr hshort)]

/-! ## Whole hash strings -/

/-- The fields behind the parameters. -/
def fieldsBehindParams (h : HashString) : List (List Char) :=
  h.salt.toList ++ (h.tag.map Base64.encode).toList

/-- The fields behind the version. -/
def fieldsBehindVersion (h : HashString) : List (List Char) :=
  (if h.params.isEmpty then [] else [[','].intercalate (h.params.map paramText)]) ++
    h.fieldsBehindParams

/-- The fields of a hash are its algorithm, its version if it has one, and what follows. -/
theorem fields_eq (h : HashString) : h.fields =
    h.algorithm :: ((h.version.map fun n => 'v' :: '=' :: ofNat n).toList ++
      h.fieldsBehindVersion) := by
  simp only [fields, fieldsBehindVersion, fieldsBehindParams, List.cons_append, List.append_assoc]

namespace WellFormed

/-- Neither the salt nor the tag holds any of the characters that divide hash strings. -/
theorem ne_of_mem_behindParams (wf : h.WellFormed) {field : List Char}
    (hfield : field ∈ h.fieldsBehindParams) (hc : c ∈ field) : c ≠ '$' ∧ c ≠ '=' ∧ c ≠ ',' := by
  rcases List.mem_append.mp hfield with hsalt | htag
  · exact (wf.salt field (Option.mem_toList.mp hsalt)).2.ne_of_mem hc
  · obtain ⟨tag, _, rfl⟩ := Option.map_eq_some_iff.mp (Option.mem_toList.mp htag)
    exact ne_of_isValueChar (isValueChar_of_mem_encode hc)

/-- No field holds what divides the fields. -/
theorem ne_of_mem_fields (wf : h.WellFormed) {field : List Char} (hfield : field ∈ h.fields)
    (hc : c ∈ field) : c ≠ '$' := by
  rw [fields_eq, List.mem_cons, fieldsBehindVersion, List.mem_append, List.mem_append] at hfield
  rcases hfield with rfl | hversion | hparams | hbehind
  · exact (wf.algorithm.ne_of_mem hc).1
  · obtain ⟨n, _, rfl⟩ := Option.map_eq_some_iff.mp (Option.mem_toList.mp hversion)
    simp only [List.mem_cons] at hc
    rcases hc with rfl | rfl | hc
    · decide
    · decide
    · exact (ne_of_isValueChar (isValueChar_of_isDigit (isDigit_of_mem_ofNat hc))).1
  · split at hparams
    next => cases hparams
    next =>
      rw [List.mem_singleton.mp hparams] at hc
      rcases mem_intercalate hc with rfl | ⟨text, htext, hc⟩
      · decide
      · obtain ⟨param, hparam, rfl⟩ := List.mem_map.mp htext
        obtain ⟨hname, hvalue⟩ := wf.params param hparam
        exact (ne_of_mem_paramText hname hvalue hc).1
  · exact (wf.ne_of_mem_behindParams hbehind hc).1

/-- The salt and the tag are not taken for parameters. -/
theorem takeParams_fieldsBehindParams (wf : h.WellFormed) :
    takeParams h.fieldsBehindParams = .ok ([], h.fieldsBehindParams) :=
  takeParams_other fun _ hfield hequals =>
    (wf.ne_of_mem_behindParams (List.mem_of_mem_head? hfield) hequals).2.1 rfl

/-- Behind the version, the parameters of a well-formed hash are taken off. -/
theorem takeParams_eq (wf : h.WellFormed) :
    takeParams h.fieldsBehindVersion = .ok (h.params, h.fieldsBehindParams) := by
  rw [fieldsBehindVersion]
  split
  next hempty =>
    rw [List.nil_append, wf.takeParams_fieldsBehindParams, List.isEmpty_iff.mp hempty]
  next hparams =>
    exact takeParams_params wf.params wf.params_fit fun hnil => hparams (List.isEmpty_iff.mpr hnil)

/-- Without a version, what follows the algorithm is not taken for one. -/
theorem takeVersion_none (wf : h.WellFormed) (hversion : h.version = none) :
    takeVersion h.fieldsBehindVersion = .ok (none, h.fieldsBehindVersion) := by
  refine takeVersion_other fun text rest hfields => ?_
  rw [fieldsBehindVersion] at hfields
  split at hfields
  next =>
    -- a salt has no equals sign
    have hmem : 'v' :: '=' :: text ∈ h.fieldsBehindParams := by
      rw [List.nil_append] at hfields
      rw [hfields]
      exact List.mem_cons_self
    exact absurd rfl (wf.ne_of_mem_behindParams hmem (c := '=') (by simp)).2.1
  next hparams =>
    obtain ⟨⟨key, value⟩, others, hcons⟩ :=
      List.exists_cons_of_ne_nil fun hnil => hparams (List.isEmpty_iff.mpr hnil)
    obtain ⟨hname, _⟩ := wf.params (key, value) (by rw [hcons]; exact List.mem_cons_self)
    rw [hcons, List.map_cons, intercalate_cons, paramText, List.singleton_append,
      List.cons.injEq, List.append_assoc] at hfields
    obtain ⟨rfl, htext⟩ := eq_version_of_append_eq hname hfields.1
    -- the first parameter is named like the version, so there is another one behind a comma
    cases others with
    | nil => exact absurd hcons (wf.no_version hversion value)
    | cons other others =>
      rw [← htext]
      simp

/-- Behind the algorithm, the version of a well-formed hash is taken off. -/
theorem takeVersion_eq (wf : h.WellFormed) :
    takeVersion ((h.version.map fun n => 'v' :: '=' :: ofNat n).toList ++ h.fieldsBehindVersion) =
      .ok (h.version, h.fieldsBehindVersion) := by
  cases hversion : h.version with
  | none => exact wf.takeVersion_none hversion
  | some n => exact takeVersion_version (wf.version n hversion)

/-- A well-formed hash is read back from its fields. -/
theorem ofFields_fields (wf : h.WellFormed) : ofFields h.fields = .ok h := by
  rw [fields_eq, ofFields]
  simp only [name_of_isName wf.algorithm, wf.takeVersion_eq, wf.takeParams_eq, bind, Except.bind]
  obtain ⟨algorithm, version, params, salt, tag⟩ := h
  cases salt with
  | none =>
    cases tag with
    | none => rfl
    | some tag => exact absurd rfl (wf.tag tag rfl).1
  | some salt =>
    obtain ⟨hlength, hvalue⟩ := wf.salt salt rfl
    cases tag with
    | none =>
      simp only [fieldsBehindParams, Option.map_none, Option.toList, List.append_nil,
        saltField_of_isValue hlength hvalue]
      rfl
    | some tag =>
      obtain ⟨_, hlong, hshort⟩ := wf.tag tag rfl
      simp only [fieldsBehindParams, Option.map_some, Option.toList, List.cons_append,
        List.nil_append, saltField_of_isValue hlength hvalue, tagField_encode hlong hshort]
      rfl

end WellFormed

/-- A well-formed hash string is read as it was written. -/
theorem ofChars_toChars (wf : h.WellFormed) : ofChars h.toChars = .ok h := by
  have hdollar : ∀ field ∈ h.fields, ∀ c ∈ field, (c == '$') = false := fun field hfield c hc =>
    beq_eq_false_iff_ne.mpr (wf.ne_of_mem_fields hfield hc)
  have hpieces : h.toChars.splitOn '$' = [] :: h.fields := by
    rw [List.splitOn_eq_splitOnP, toChars, ← List.nil_append (h.fields.flatMap _)]
    exact splitOnP_flatMap rfl (fun _ hc => nomatch hc) hdollar
  rw [ofChars, hpieces]
  exact wf.ofFields_fields

end AccessControl.HashString
