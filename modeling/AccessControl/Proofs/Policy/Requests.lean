import AccessControl.Proofs.Http.Url
import AccessControl.Proofs.Json.Values
import AccessControl.Proofs.Policy.Acknowledgement

/-!
# Policy requests on the wire

What a request says is what its receiver reads: the path up to the first question mark, the pairs of
the query by the rules of forms, and the body as JSON. A question about a tuple (`Request.Asks`) and
the grant of it (`Request.Inserts`) say the same four pairs, one in its query and the other in its
body, whatever characters the tuple holds. Since they are read back exactly, no field can add or
alter another, and a request determines its tuple.

The remote agent asks and grants so below the addresses of its settings, if these are normal
addresses with any number of slashes behind (`RemoteAgent.requests_on_wire`).
-/

namespace AccessControl

open AccessControl.Http
open AccessControl.Json
open AccessControl.Text

/-! ## What a receiver reads -/

namespace Http

/-- The path that is asked for. -/
def Request.path (r : Request) : List Char :=
  (Url.cut '?' r.url.target).1

/-- The query behind the path. -/
def Request.query? (r : Request) : Option (List Char) :=
  (Url.cut '?' r.url.target).2

/-- A character that ends neither what a request asks for nor the line it stands in. -/
def Visible (c : Char) : Prop :=
  32 < c.toNat ∧ c.toNat < 127 ∧ c ≠ '#'

instance : DecidablePred Visible :=
  fun _ => inferInstanceAs (Decidable (_ ∧ _))

/-- The request goes to where an address leads. -/
def Request.GoesTo (r : Request) (base : Url) : Prop :=
  r.url.scheme = base.scheme ∧ r.url.host = base.host ∧ r.url.number = base.number

/-- The request asks whether a tuple holds. -/
structure Request.Asks (r : Request) (base : Url) (t : RelationTuple) : Prop where
  goes : r.GoesTo base
  method : r.method = .get
  path : r.path = withoutSlashes base.target ++ "/relation-tuples/check".toList
  pairs : r.query?.bind Form.decode? = some [("namespace", "members"), ("object", t.object),
    ("relation", t.relation), ("subject_id", t.subject)]
  visible : ∀ c ∈ r.url.target, Visible c

/-- The request inserts a tuple. -/
structure Request.Inserts (r : Request) (base : Url) (t : RelationTuple) : Prop where
  goes : r.GoesTo base
  method : r.method = .patch
  path : r.path = withoutSlashes base.target ++ "/admin/relation-tuples".toList
  query : r.query? = none
  contentType : r.contentType = some "application/json"
  body : Value.ofText r.body = .ok (.array [.object [("action", .string "insert"),
    ("relation_tuple", .object [("namespace", .string "members"), ("object", .string t.object),
      ("relation", .string t.relation), ("subject_id", .string t.subject)])]])
  visible : ∀ c ∈ r.url.target, Visible c

variable {r r' : Request} {base base' : Url} {t t' : RelationTuple}

/-- The target of a question determines its tuple. -/
theorem Request.Asks.tuple_eq (h : r.Asks base t) (h' : r'.Asks base' t')
    (htarget : r.url.target = r'.url.target) : t = t' := by
  have hquery : r.query? = r'.query? := by rw [query?, htarget, ← query?]
  have hpairs := h.pairs
  rw [hquery, h'.pairs] at hpairs
  cases t
  cases t'
  cases hpairs
  rfl

/-- The body of a grant determines its tuple. -/
theorem Request.Inserts.tuple_eq (h : r.Inserts base t) (h' : r'.Inserts base' t')
    (hbody : r.body = r'.body) : t = t' := by
  have hvalue := h.body
  rw [hbody, h'.body] at hvalue
  cases t
  cases t'
  cases hvalue
  rfl

end Http

/-! ## What is written -/

/-- A character that a form leaves plain is visible. -/
theorem Http.Form.visible_of_isPlain {c : Char} (h : Form.isPlain c = true) : Visible c := by
  have hhash : c ≠ '#' := by
    rintro rfl
    exact absurd h (by decide)
  simp only [isPlain, Bool.or_eq_true, beq_iff_eq] at h
  obtain (((h | rfl) | rfl) | rfl) | rfl := h
  · have halnum : c.isAlphanum = (decide (c.val ≥ 65 ∧ c.val ≤ 90) ||
        (c.val ≥ 97 && c.val ≤ 122) || (c.val ≥ 48 && c.val ≤ 57)) := rfl
    simp only [halnum, Bool.or_eq_true, Bool.and_eq_true, decide_eq_true_eq, ge_iff_le,
      UInt32.le_iff_toNat_le, UInt32.reduceToNat] at h
    have hcode : c.toNat = c.val.toNat := rfl
    exact ⟨by omega, by omega, hhash⟩
  all_goals decide

/-- What is encoded in a form is visible, and holds no number sign. -/
theorem Http.Form.visible_of_mem_encodePart {cs : List Char} {c : Char}
    (h : c ∈ Form.encodePart cs) : Visible c := by
  obtain ⟨d, _, hc⟩ := List.mem_flatMap.mp h
  by_cases hspace : d = ' '
  · rw [if_pos hspace, List.mem_singleton] at hc
    rw [hc]
    decide
  · rw [if_neg hspace, percentChar] at hc
    split at hc
    case isTrue hplain =>
      rw [List.mem_singleton.mp hc]
      exact visible_of_isPlain hplain
    case isFalse =>
      obtain ⟨b, _, hb⟩ := List.mem_flatMap.mp hc
      exact of_mem_percentByte (by decide) (by decide) hb

/-- A form is visible throughout. -/
theorem Http.Form.visible_of_mem_encode {pairs : List (List Char × List Char)} {c : Char}
    (h : c ∈ Form.encode pairs) : Visible c := by
  obtain rfl | ⟨piece, hpiece, hc⟩ := mem_intercalate h
  · decide
  · obtain ⟨pair, _, rfl⟩ := List.mem_map.mp hpiece
    obtain hc | hc := List.mem_append.mp hc
    · exact visible_of_mem_encodePart hc
    · obtain rfl | hc := List.mem_cons.mp hc
      · decide
      · exact visible_of_mem_encodePart hc

/-- An object of strings under ascending keys is built. -/
theorem Json.Value.built_strings (pairs : List (String × String))
    (hkeys : (pairs.map (·.1)).Pairwise (· < ·)) (n : Nat) :
    (Value.object (pairs.map fun (k, v) => (k, .string v))).Built (n + 1) := by
  refine .object ?_ fun e he => ?_
  · rw [Entries.Sorted, List.pairwise_map]
    exact List.pairwise_map.mp hkeys
  · obtain ⟨pair, _, rfl⟩ := List.mem_map.mp he
    exact .string _ _

/-- An object of strings holds no floating-point number. -/
theorem Json.Value.floatFree_strings (pairs : List (String × String)) :
    (Value.object (pairs.map fun (k, v) => (k, .string v))).FloatFree := by
  refine .object fun e he => ?_
  obtain ⟨pair, _, rfl⟩ := List.mem_map.mp he
  exact .string _

theorem withoutSlashes_eq (cs : List Char) : withoutSlashes cs = cs.rdropWhile (· == '/') := rfl

/-- What is asked for is visible, if the query is. -/
theorem Http.visible_of_mem_target {u : Url} (hpath : ∀ part ∈ u.path, Url.IsPart part)
    (hquery : ∀ query ∈ u.query, ∀ c ∈ query, Visible c) : ∀ c ∈ u.target, Visible c := by
  intro c hc
  obtain hc | hc := List.mem_append.mp hc
  · have hkept := Url.keepsInPath_of_mem_path hpath hc
    obtain ⟨hleast, hmost⟩ := Url.visible_of_keepsInPath hkept
    refine ⟨hleast, hmost, ?_⟩
    rintro rfl
    exact absurd hkept (by decide)
  · cases hu : u.query with
    | none => simp [hu] at hc
    | some query =>
      rw [hu] at hc
      obtain rfl | hc := List.mem_cons.mp hc
      · decide
      · exact hquery query hu c hc

/-- The path below an address is that of the address, without the slashes at its end, and more. -/
theorem Http.Url.path_below {base : Url} (hpath : ∀ part ∈ base.path, Url.IsPart part)
    (hquery : base.query = none) (parts : List (List Char)) :
    (base.below parts).path.flatMap ('/' :: ·) =
      withoutSlashes base.target ++ parts.flatMap ('/' :: ·) := by
  rw [← Url.target_eq (u := base.below parts) hquery, Url.target_below hpath hquery,
    ← withoutSlashes_eq]

/-- The body of a grant is read as the value it was written from. -/
theorem RelationTuple.ofText_insertion (t : RelationTuple) :
    Value.ofText t.insertion.text = .ok t.insertion := by
  have hbuilt : t.insertion.Built (126 + 1) := by
    have hkeys : List.Pairwise (· < ·) ["action", "relation_tuple"] := by decide
    have hpairs : List.Pairwise (· < ·) ["namespace", "object", "relation", "subject_id"] := by
      decide
    refine .array fun v hv => ?_
    rw [List.mem_singleton.mp hv]
    refine .object (n := 125) (List.pairwise_map.mp hkeys) fun e he => ?_
    simp only [List.mem_cons, List.not_mem_nil, or_false] at he
    obtain rfl | rfl := he
    · exact .string _ _
    · exact Value.built_strings t.wirePairs hpairs _
  have hfree : t.insertion.FloatFree := by
    refine .array fun v hv => ?_
    rw [List.mem_singleton.mp hv]
    refine .object fun e he => ?_
    simp only [List.mem_cons, List.not_mem_nil, or_false] at he
    obtain rfl | rfl := he
    · exact .string _
    · exact Value.floatFree_strings _
  have hread : Reader.Reads (Reader.value maxNesting) t.insertion t.insertion :=
    Reader.reads_value hbuilt hfree
  exact Shape.ofText_text hread

/-! ## Settings -/

/-- Slashes at the end come off, however many they are. -/
theorem withoutSlashes_append_replicate (cs : List Char) (k : Nat) :
    withoutSlashes (withoutSlashes cs ++ List.replicate k '/') = withoutSlashes cs := by
  induction k with
  | zero => rw [List.replicate_zero, List.append_nil, withoutSlashes_eq, withoutSlashes_eq,
      List.rdropWhile_idempotent]
  | succ k ih =>
    rw [List.replicate_succ', ← List.append_assoc, withoutSlashes_eq,
      List.rdropWhile_concat_pos _ _ _ rfl, ← withoutSlashes_eq, ih]

/-- A setting names an address: it is the text of a normal address without query and fragment, but
for the slashes at its end. -/
structure Http.Url.Names (text : String) (base : Url) : Prop where
  normal : base.IsNormal
  query : base.query = none
  fragment : base.fragment = none
  slashes : ∃ k, text.toList = withoutSlashes base.toChars ++ List.replicate k '/'

/-- Behind what a setting names, a path leads below the address. -/
theorem Http.Url.Names.ofChars?_below {text : String} {base : Url} (h : Url.Names text base)
    {parts : List (List Char)} (hne : parts ≠ []) (hparts : ∀ part ∈ parts, Url.IsPart part) :
    Url.ofChars? (withoutSlashes text.toList ++ parts.flatMap ('/' :: ·)) =
      some (base.below parts) := by
  obtain ⟨k, hk⟩ := h.slashes
  rw [hk, withoutSlashes_append_replicate]
  exact h.normal.ofChars?_below h.query h.fragment hne hparts

namespace RemoteAgent

open TupleServer

variable {base : Url}

theorem isPart_of_mem_asking : ∀ part ∈ asking, Url.IsPart part := by decide

theorem isPart_of_mem_granting : ∀ part ∈ granting, Url.IsPart part := by decide

/-- The question below an address asks for the tuple, whatever characters it holds. -/
theorem questionAt_below (hpath : ∀ part ∈ base.path, Url.IsPart part) (hquery : base.query = none)
    (t : RelationTuple) : (questionAt (base.below asking) t).Asks base t := by
  have hall := Url.isPart_below hpath isPart_of_mem_asking
  have hencoded : (questionAt (base.below asking) t).url.query =
      some (Form.encode (t.wirePairs.map fun (k, v) => (k.toList, v.toList))) := by
    simp only [questionAt, Url.withPairs, Url.below, hquery]
  have hread := Url.cut_target (u := (questionAt (base.below asking) t).url) hall
  refine ⟨⟨rfl, rfl, rfl⟩, rfl, ?_, ?_, ?_⟩
  · rw [Request.path, hread]
    exact Url.path_below hpath hquery asking
  · rw [Request.query?, hread, hencoded, Option.bind_some, Form.decode?_encode]
    rfl
  · refine visible_of_mem_target hall ?_
    rw [hencoded]
    rintro _ ⟨⟩ c
    exact Form.visible_of_mem_encode

/-- The grant below an address inserts the tuple, whatever characters it holds. -/
theorem grantAt_below (hpath : ∀ part ∈ base.path, Url.IsPart part) (hquery : base.query = none)
    (t : RelationTuple) : (grantAt (base.below granting) t).Inserts base t := by
  have hall := Url.isPart_below hpath isPart_of_mem_granting
  have hread := Url.cut_target (u := (grantAt (base.below granting) t).url) hall
  have hnone : (grantAt (base.below granting) t).url.query = none := hquery
  refine ⟨⟨rfl, rfl, rfl⟩, rfl, ?_, ?_, rfl, t.ofText_insertion, ?_⟩
  · rw [Request.path, hread]
    exact Url.path_below hpath hquery granting
  · rw [Request.query?, hread, hnone]
  · refine visible_of_mem_target hall ?_
    rw [hnone]
    rintro _ ⟨⟩

variable {settings : Settings.RemoteSettings}

/-- An agent that is set up asks its checks below the address for reading. -/
theorem checkRequest?_ofSettings (h : Url.Names settings.readUrl base) (t : RelationTuple) :
    (ofSettings settings).checkRequest? t = some (questionAt (base.below asking) t) := by
  have hurl := h.ofChars?_below (by decide) isPart_of_mem_asking
  have hpath : "/relation-tuples/check".toList = asking.flatMap ('/' :: ·) := by decide
  rw [checkRequest?, ofSettings, hpath, hurl]
  rfl

/-- An agent that is set up sends its grants below the address for writing. -/
theorem grantRequest?_ofSettings (h : Url.Names settings.writeUrl base) (t : RelationTuple) :
    (ofSettings settings).grantRequest? t = some (grantAt (base.below granting) t) := by
  have hurl := h.ofChars?_below (by decide) isPart_of_mem_granting
  have hpath : "/admin/relation-tuples".toList = granting.flatMap ('/' :: ·) := by decide
  rw [grantRequest?, ofSettings, hpath, hurl]
  rfl

/-- Whatever characters a tuple holds, the agent of settings that name addresses asks for it and
inserts it below these addresses, with one request each time if its address is short enough; and no
other tuple is asked for with the same target, or inserted with the same body. -/
theorem requests_on_wire {reading writing : Url} (hread : Url.Names settings.readUrl reading)
    (hwrite : Url.Names settings.writeUrl writing) :
    let a := ofSettings settings
    let question := questionAt (reading.below asking)
    let grant := grantAt (writing.below granting)
    (∀ t, (question t).Asks reading t ∧ (grant t).Inserts writing t) ∧
    (Function.Injective fun t => (question t).url.target) ∧
    (Function.Injective fun t => (grant t).body) ∧
    ∀ {σ : Type} (server : Server σ) t s,
      ((question t).url.isUsable = true → ((a.agent server.recorded).check t s).state.2 =
        s.2 ++ [(question t, (server (question t) s.1).result)]) ∧
      ((grant t).url.isUsable = true → ((a.agent server.recorded).add t s).state.2 =
        s.2 ++ [(grant t, (server (grant t) s.1).result)]) := by
  intro a question grant
  have hasks : ∀ t, (question t).Asks reading t :=
    questionAt_below (Url.parts_of_ofChars? hread.normal).2.2 hread.query
  have hinserts : ∀ t, (grant t).Inserts writing t :=
    grantAt_below (Url.parts_of_ofChars? hwrite.normal).2.2 hwrite.query
  refine ⟨fun t => ⟨hasks t, hinserts t⟩, fun t t' => (hasks t).tuple_eq (hasks t'),
    fun t t' => (hinserts t).tuple_eq (hinserts t'), fun server t s => ⟨?_, ?_⟩⟩
  · intro husable
    rw [check_state, checkRequest?_ofSettings hread, exchange_state_of_isUsable _ husable]
    rfl
  · intro husable
    rw [(add_run a _ t s).2, grantRequest?_ofSettings hwrite,
      exchange_state_of_isUsable _ husable]
    rfl

/-- A tuple with marks of addresses, forms and JSON, and settings with slashes behind. -/
theorem marked_names_on_wire :
    let settings : Settings.RemoteSettings :=
      { readUrl := "http://acl:4466//", writeUrl := "http://[::1]/keto/" }
    let reading : Url := { scheme := .http, host := .domain "acl".toList, number := some 4466 }
    let writing : Url :=
      { scheme := .http, host := .ipv6 [0, 0, 0, 0, 0, 0, 0, 1], path := ["keto".toList, []] }
    let t : RelationTuple := ⟨"a+b&c=%20#?/\"\\\n", "é\u0000", "member"⟩
    let question := questionAt (reading.below asking) t
    let grant := grantAt (writing.below granting) t
    let agent := (ofSettings settings).agent (Server.recorded serve)
    Url.Names settings.readUrl reading ∧ Url.Names settings.writeUrl writing ∧
      (agent.check t (∅, [])).state.2 = [(question, (serve question ∅).result)] ∧
      (agent.add t (∅, [])).state.2 = [(grant, (serve grant ∅).result)] ∧
      String.ofList question.url.target =
        "/relation-tuples/check?namespace=members&object=%C3%A9%00&relation=member" ++
          "&subject_id=a%2Bb%26c%3D%2520%23%3F%2F%22%5C%0A" ∧
      String.ofList grant.url.target = "/keto/admin/relation-tuples" := by
  intro settings reading writing t question grant agent
  have hread : Url.Names settings.readUrl reading :=
    ⟨by decide +kernel, rfl, rfl, 2, by decide +kernel⟩
  have hwrite : Url.Names settings.writeUrl writing :=
    ⟨by decide +kernel, rfl, rfl, 1, by decide +kernel⟩
  obtain ⟨_, _, _, hsent⟩ := requests_on_wire hread hwrite
  obtain ⟨hcheck, hadd⟩ := hsent serve t (∅, [])
  exact ⟨hread, hwrite, hcheck (by decide +kernel), hadd (by decide +kernel), by decide +kernel,
    by decide +kernel⟩

end RemoteAgent

end AccessControl
