import AccessControl.Proofs.Calendar.Rfc3339
import AccessControl.Proofs.Json.Values
import AccessControl.Wire.Account
import AccessControl.Wire.Identity
import AccessControl.Wire.Relation

/-!
# What the JSON forms keep

A text may spell a value in many ways: as an object or an array, with its fields in any order, among
others, or missing where they have a default. What is read from it is written in one way, and that
is read as the same value again (`Shape.Survives`). Only the password of a user is lost.

For each form there is what a text can be read as (`yields_shape`), where that is not every value,
and that such a value is read back from its JSON form (`reads_toJson`).
-/

namespace AccessControl

open AccessControl.Calendar
open AccessControl.Json
open AccessControl.Json.Reader

namespace Json.Shape

/-- What holds of a value holds of the field that keeps it. -/
theorem forall_mem_some {α : Type} {P : α → Prop} {x : α} (h : P x) : ∀ y ∈ some x, P y := by
  rintro _ ⟨⟩
  exact h

variable {α : Type} [ToJson α]

/-- What a text is read as, if it passes the condition, is read back from its JSON form as what
`again` makes of it, and that is written as the same text. -/
def Survives (shape : Shape α) (free : α → Prop) (again : α → α) : Prop :=
  ∀ text v, shape.ofText text = .ok v → free v →
    shape.ofText (toJson v).text = .ok (again v) ∧ (toJson (again v)).text = (toJson v).text

/-- Values survive when all that the shape yields is read back from its text, and reading changes
nothing that is written. -/
theorem survives_of_reads {shape : Shape α} {P free : α → Prop} {again : α → α}
    (hyields : (shape maxNesting).Yields P)
    (hreads : ∀ v, P v → free v → Reads (shape maxNesting) (toJson v) (again v))
    (hwritten : ∀ v, toJson (again v) = toJson v) : shape.Survives free again := by
  intro text v htext hfree
  have hv : P v := of_ofText hyields htext
  exact ⟨ofText_text (hreads v hv hfree), by rw [hwritten]⟩

end Json.Shape

/-! ## Users -/

namespace User

/-- The metadata of a user is one container inside it. -/
theorem yields_shape (n : Nat) : (shape (n + 2)).Yields fun u => u.metadata.Built n := by
  refine Shape.yields_record (fun d => ∀ es ∈ d.metadata, es.Built n) nofun ?_ ?_
  · simp only [fields, List.forall_mem_cons]
    exact ⟨Shape.yields_field (yields_true _) fun _ _ hs _ => hs,
      Shape.yields_field (yields_true _) fun _ _ hs _ => hs,
      Shape.yields_field (yields_true _) fun _ _ hs _ => hs,
      Shape.yields_field (Shape.yields_object n) fun _ _ _ hes => Shape.forall_mem_some hes, nofun⟩
  · intro d u hd hcomplete
    obtain ⟨email, _, hu⟩ := Option.bind_eq_some_iff.mp hcomplete
    obtain rfl := Option.some.inj hu
    cases hmetadata : d.metadata with
    | none => exact Entries.built_nil n
    | some es => exact hd es hmetadata

/-- A user is read back without its password. -/
theorem reads_toJson {n : Nat} {u : User} (built : u.metadata.Built n)
    (free : u.metadata.FloatFree) : Reads (shape (n + 2)) (toJson u) u.redacted := by
  refine Shape.reads_record ⟨some u.id, some u.email, none, some u.metadata⟩ ?_ rfl
  refine .cons (Shape.keyed_fills rfl rfl (Shape.reads_string _)) ?_
  refine .cons (Shape.keyed_fills rfl rfl (Shape.reads_string _)) ?_
  exact .cons (Shape.keyed_fills rfl rfl (Shape.reads_object built free)) (.nil _)

/-- The text of a user leaves the password out. -/
theorem toJson_redacted (u : User) : toJson u.redacted = toJson u := rfl

end User

/-! ## Pages -/

namespace PageInfo

/-- The numbers of a window fit sixty-four bits. -/
structure Fits (info : PageInfo) : Prop where
  total : info.total < 2 ^ 64
  offset : info.offset < 2 ^ 64
  limit : info.limit < 2 ^ 64

/-- The numbers of a page that are read fit sixty-four bits. -/
theorem yields_shape (n : Nat) : (shape (n + 1)).Yields Fits := by
  refine Shape.yields_record (fun d => (∀ k ∈ d.total, k < 2 ^ 64) ∧
    (∀ k ∈ d.offset, k < 2 ^ 64) ∧ ∀ k ∈ d.limit, k < 2 ^ 64) ⟨nofun, nofun, nofun⟩ ?_ ?_
  · have hnatural := Shape.yields_natural n
    simp only [fields, List.forall_mem_cons]
    exact ⟨Shape.yields_field hnatural fun _ _ hs hk => ⟨Shape.forall_mem_some hk, hs.2⟩,
      Shape.yields_field hnatural fun _ _ hs hk => ⟨hs.1, Shape.forall_mem_some hk, hs.2.2⟩,
      Shape.yields_field hnatural fun _ _ hs hk => ⟨hs.1, hs.2.1, Shape.forall_mem_some hk⟩,
      nofun⟩
  · intro d info hd hcomplete
    obtain ⟨total, htotal, hrest⟩ := Option.bind_eq_some_iff.mp hcomplete
    obtain ⟨offset, hoffset, hrest⟩ := Option.bind_eq_some_iff.mp hrest
    obtain ⟨limit, hlimit, hinfo⟩ := Option.bind_eq_some_iff.mp hrest
    obtain rfl := Option.some.inj hinfo
    exact ⟨hd.1 total htotal, hd.2.1 offset hoffset, hd.2.2 limit hlimit⟩

/-- Page numbers that fit are read back from their text. -/
theorem reads_toJson {n : Nat} {info : PageInfo} (fits : info.Fits) :
    Reads (shape (n + 1)) (toJson info) info := by
  refine Shape.reads_record ⟨some info.total, some info.offset, some info.limit⟩ ?_ rfl
  refine .cons (Shape.keyed_fills rfl rfl (Shape.reads_natural fits.total)) ?_
  refine .cons (Shape.keyed_fills rfl rfl (Shape.reads_natural fits.offset)) ?_
  exact .cons (Shape.keyed_fills rfl rfl (Shape.reads_natural fits.limit)) (.nil _)

variable {m : Nat} {es : Entries}

/-- A number among the gathered entries fits sixty-four bits. -/
theorem gathered?_lt (h : ∀ e ∈ es, e.2.Built m) {key : String} {k : Nat}
    (hgathered : gathered? es key = some k) : k < 2 ^ 64 := by
  unfold gathered? at hgathered
  split at hgathered
  · next name k' hfilter =>
    obtain rfl := Option.some.inj hgathered
    have hmem : (name, Value.number (.integer (.ofNat k'))) ∈ es :=
      List.mem_of_mem_filter (hfilter ▸ List.mem_singleton_self _)
    cases h _ hmem with | number _ fits
    have hlt : (k' : Int) < 2 ^ 64 := fits.2
    omega
  · cases hgathered

/-- Page numbers that are found among entries that were read fit. -/
theorem fits_of_ofEntries? (h : ∀ e ∈ es, e.2.Built m) {info : PageInfo}
    (hinfo : ofEntries? es = some info) : info.Fits := by
  obtain ⟨total, htotal, hrest⟩ := Option.bind_eq_some_iff.mp hinfo
  obtain ⟨offset, hoffset, hrest⟩ := Option.bind_eq_some_iff.mp hrest
  obtain ⟨limit, hlimit, hinfo⟩ := Option.bind_eq_some_iff.mp hrest
  obtain rfl := Option.some.inj hinfo
  exact ⟨gathered?_lt h htotal, gathered?_lt h hoffset, gathered?_lt h hlimit⟩

end PageInfo

namespace Page

variable {α : Type} {item : Shape α} {n : Nat} {P : α → Prop}

/-- What is known of the draft of a page whose items satisfy a condition. -/
structure Draft.Built (n : Nat) (P : α → Prop) (d : Draft α) : Prop where
  items : ∀ xs ∈ d.items, ∀ x ∈ xs, P x
  others : ∀ e ∈ d.others, e.2.Built n

/-- A draft of a page stays built when one more entry is read into it. -/
theorem yields_entry (h : (item n).Yields P) (key : String) (d : Draft α)
    (hd : d.Built (n + 1) P) : (entry item (n + 1) key d).Yields (Draft.Built (n + 1) P) := by
  refine yields_ite (fun _ => ?_) fun _ => ?_
  · refine yields_ite (fun _ => yields_fail) fun _ => yields_behind fun _ => ?_
    exact yields_bind (Shape.yields_list h) fun xs hxs =>
      yields_pure ⟨Shape.forall_mem_some hxs, hd.others⟩
  · refine yields_behind fun _ => yields_bind (yields_value (n + 1)) fun v hv => yields_pure ?_
    refine ⟨hd.items, fun e he => ?_⟩
    rcases List.mem_append.mp he with he | he
    · exact hd.others e he
    · rw [List.mem_singleton.mp he]
      exact hv

/-- The items of a page are two containers inside it. -/
theorem yields_shape (h : (item n).Yields P) :
    (shape item (n + 2)).Yields fun p => p.info.Fits ∧ ∀ x ∈ p.items, P x := by
  have hstart : Draft.Built (n + 1) P {} := ⟨nofun, nofun⟩
  refine yields_bind (Shape.yields_fold hstart (yields_entry h)) fun d hd => ?_
  split
  · next xs info hitems hinfo =>
    exact yields_pure ⟨PageInfo.fits_of_ofEntries? hd.others hinfo, hd.items xs hitems⟩
  · exact yields_fail

/-- The entry for the items fills in the items of the draft. -/
theorem entry_items {d : Draft α} {vs : List Value} {xs : List α} (hd : d.items = none)
    (h : List.Forall₂ (Reads (item n)) vs xs) :
    Fills (entry item (n + 1)) "items" (.array vs) d { d with items := some xs } := by
  intro rest hrest
  have habsent : ¬ d.items.isSome = true := by simp [hd]
  rw [entry, if_pos rfl, if_neg habsent, bind_run (colon_run _),
    bind_run ((Shape.reads_list h).takes rest hrest)]
  rfl

/-- An entry under any other key is kept among the others. -/
theorem entry_other {d : Draft α} {key : String} {v : Value} (hkey : key ≠ "items")
    (h : Reads (value n) v v) :
    Fills (entry item n) key v d { d with others := d.others ++ [(key, v)] } := by
  intro rest hrest
  rw [entry, if_neg hkey, bind_run (colon_run _), bind_run (h.takes rest hrest)]
  rfl

/-- A number under any other key is kept among the others. -/
theorem entry_natural {d : Draft α} {key : String} {k : Nat} (hkey : key ≠ "items")
    (h : k < 2 ^ 64) :
    Fills (entry item n) key (toJson k) d { d with others := d.others ++ [(key, toJson k)] } := by
  refine entry_other hkey (reads_integer n ?_)
  simp only [Number.Fits]
  omega

/-- A page is read back when its items are, and as what they are read back as. -/
theorem reads_toJson [ToJson α] {again : α → α} {p : Page α} (fits : p.info.Fits)
    (h : ∀ x ∈ p.items, Reads (item n) (toJson x) (again x)) :
    Reads (shape item (n + 2)) (toJson p) (p.map again) := by
  have hitems : List.Forall₂ (Reads (item n)) (p.items.map toJson) (p.items.map again) := by
    rw [List.forall₂_map_left_iff, List.forall₂_map_right_iff]
    exact List.forall₂_same.mpr h
  let window : Entries := [("total", toJson p.info.total), ("offset", toJson p.info.offset),
    ("limit", toJson p.info.limit)]
  have hgathers : Gathers (entry item (n + 1)) {} (window ++ [("items", toJson p.items)])
      ⟨some (p.items.map again), window⟩ := by
    refine .cons (entry_natural (by decide) fits.total) ?_
    refine .cons (entry_natural (by decide) fits.offset) ?_
    refine .cons (entry_natural (by decide) fits.limit) ?_
    exact .cons (entry_items rfl hitems) (.nil _)
  exact (Shape.reads_fold hgathers).andThen fun _ => rfl

end Page

/-! ## Identities and keys -/

/-- An identity is read back from its text. -/
theorem Identity.reads_toJson {n : Nat} (i : Identity) :
    Reads (Identity.shape (n + 1)) (toJson i) i := by
  refine Shape.reads_record ⟨some i.id, some i.email⟩ ?_ rfl
  refine .cons (Shape.keyed_fills rfl rfl (Shape.reads_string _)) ?_
  exact .cons (Shape.keyed_fills rfl rfl (Shape.reads_string _)) (.nil _)

/-- A kind of key is found again by its name. -/
theorem KeyKind.ofName?_name (kind : KeyKind) : KeyKind.ofName? kind.name = some kind := by
  cases kind <;> rfl

namespace KeyClaims

/-- The times of key claims can be written as texts. -/
structure Expressible (claims : KeyClaims) : Prop where
  issuedAt : claims.issuedAt.Expressible
  expiresAt : claims.expiresAt.Expressible

/-- The claims of a key that are read have instants that can be written. -/
theorem yields_shape (n : Nat) : (shape (n + 1)).Yields Expressible := by
  refine Shape.yields_record (fun d => (∀ t ∈ d.issuedAt, t.Expressible) ∧
    ∀ t ∈ d.expiresAt, t.Expressible) ⟨nofun, nofun⟩ ?_ ?_
  · have htimestamp : (Timestamp.shape n).Yields Timestamp.Expressible :=
      Shape.yields_parsed (fun _ _ => Timestamp.expressible_of_ofText?) n
    simp only [fields, List.forall_mem_cons]
    exact ⟨Shape.yields_field (yields_true _) fun _ _ hs _ => hs,
      Shape.yields_field (yields_true _) fun _ _ hs _ => hs,
      Shape.yields_field (yields_true _) fun _ _ hs _ => hs,
      Shape.yields_field htimestamp fun _ _ hs ht => ⟨Shape.forall_mem_some ht, hs.2⟩,
      Shape.yields_field htimestamp fun _ _ hs ht => ⟨hs.1, Shape.forall_mem_some ht⟩,
      nofun⟩
  · intro d claims hd hcomplete
    obtain ⟨id, _, hrest⟩ := Option.bind_eq_some_iff.mp hcomplete
    obtain ⟨email, _, hrest⟩ := Option.bind_eq_some_iff.mp hrest
    obtain ⟨kind, _, hrest⟩ := Option.bind_eq_some_iff.mp hrest
    obtain ⟨issuedAt, hissued, hrest⟩ := Option.bind_eq_some_iff.mp hrest
    obtain ⟨expiresAt, hexpires, hclaims⟩ := Option.bind_eq_some_iff.mp hrest
    obtain rfl := Option.some.inj hclaims
    exact ⟨hd.1 issuedAt hissued, hd.2 expiresAt hexpires⟩

/-- Claims whose instants can be written are read back from their text. -/
theorem reads_toJson {n : Nat} {claims : KeyClaims} (h : claims.Expressible) :
    Reads (shape (n + 1)) (toJson claims) claims := by
  refine Shape.reads_record ⟨some claims.id, some claims.email, some claims.kind,
    some claims.issuedAt, some claims.expiresAt⟩ ?_ rfl
  refine .cons (Shape.keyed_fills rfl rfl (Shape.reads_string _)) ?_
  refine .cons (Shape.keyed_fills rfl rfl (Shape.reads_string _)) ?_
  refine .cons (Shape.keyed_fills rfl rfl (Shape.reads_choice claims.kind.ofName?_name)) ?_
  refine .cons (Shape.keyed_fills rfl rfl
    (Shape.reads_parsed (Timestamp.ofText?_text h.issuedAt))) ?_
  exact .cons (Shape.keyed_fills rfl rfl
    (Shape.reads_parsed (Timestamp.ofText?_text h.expiresAt))) (.nil _)

end KeyClaims

/-! ## Tuples and batches -/

/-- A relation tuple is read back from its text. -/
theorem RelationTuple.reads_toJson {n : Nat} (t : RelationTuple) :
    Reads (RelationTuple.shape (n + 1)) (toJson t) t := by
  refine Shape.reads_record ⟨some t.subject, some t.object, some t.relation⟩ ?_ rfl
  refine .cons (Shape.keyed_fills rfl rfl (Shape.reads_string _)) ?_
  refine .cons (Shape.keyed_fills rfl rfl (Shape.reads_string _)) ?_
  exact .cons (Shape.keyed_fills rfl rfl (Shape.reads_string _)) (.nil _)

/-- A batch of grants is read back from its text. -/
theorem GrantBatch.reads_toJson {n : Nat} (b : GrantBatch) :
    Reads (GrantBatch.shape (n + 2)) (toJson b) b := by
  have hstrings (xs : List String) :
      Reads (Shape.list Shape.string (n + 1)) (toJson xs) xs := by
    refine Shape.reads_list ?_
    rw [List.forall₂_map_left_iff]
    exact List.forall₂_same.mpr fun x _ => Shape.reads_string x
  refine Shape.reads_record ⟨some b.subjects, some b.policies, some b.object⟩ ?_ rfl
  refine .cons (Shape.keyed_fills rfl rfl (hstrings _)) ?_
  refine .cons (Shape.keyed_fills rfl rfl (hstrings _)) ?_
  exact .cons (Shape.keyed_fills rfl rfl (Shape.reads_string _)) (.nil _)

/-! ## Every form -/

/-- A user survives but for the password, which the text leaves out. -/
theorem user_survives : User.shape.Survives (fun u => u.metadata.FloatFree) User.redacted :=
  Shape.survives_of_reads (User.yields_shape 125) (fun _ => User.reads_toJson) User.toJson_redacted

/-- An identity survives. -/
theorem identity_survives : Identity.shape.Survives (fun _ => True) id :=
  Shape.survives_of_reads (yields_true _) (fun i _ _ => i.reads_toJson) fun _ => rfl

/-- The claims of a key survive. -/
theorem keyClaims_survives : KeyClaims.shape.Survives (fun _ => True) id :=
  Shape.survives_of_reads (KeyClaims.yields_shape 126) (fun _ h _ => KeyClaims.reads_toJson h)
    fun _ => rfl

/-- A relation tuple survives. -/
theorem relationTuple_survives : RelationTuple.shape.Survives (fun _ => True) id :=
  Shape.survives_of_reads (yields_true _) (fun t _ _ => t.reads_toJson) fun _ => rfl

/-- A batch of grants survives. -/
theorem grantBatch_survives : GrantBatch.shape.Survives (fun _ => True) id :=
  Shape.survives_of_reads (yields_true _) (fun b _ _ => b.reads_toJson) fun _ => rfl

/-- The numbers of a page survive. -/
theorem pageInfo_survives : PageInfo.shape.Survives (fun _ => True) id :=
  Shape.survives_of_reads (PageInfo.yields_shape 126) (fun _ h _ => PageInfo.reads_toJson h)
    fun _ => rfl

/-- A page survives when its items do. -/
theorem page_survives {α : Type} [ToJson α] {item : Shape α} {P free : α → Prop} {again : α → α}
    (hyields : (item 125).Yields P)
    (hreads : ∀ x, P x → free x → Reads (item 125) (toJson x) (again x))
    (hwritten : ∀ x, toJson (again x) = toJson x) :
    (Page.shape item).Survives (fun p => ∀ x ∈ p.items, free x) (Page.map again) := by
  refine Shape.survives_of_reads (Page.yields_shape hyields) (fun p hp hfree => ?_) fun p => ?_
  · exact Page.reads_toJson hp.1 fun x hx => hreads x (hp.2 x hx) (hfree x hx)
  · have hitems : (p.items.map again).map toJson = p.items.map toJson := by
      rw [List.map_map]
      exact List.map_congr_left fun x _ => hwritten x
    exact congrArg (fun vs => Value.object [("total", toJson p.info.total),
      ("offset", toJson p.info.offset), ("limit", toJson p.info.limit),
      ("items", .array vs)]) hitems

/-- A page of strings survives. -/
theorem stringPage_survives : (Page.shape Shape.string).Survives (fun _ => True) id := by
  have hpage : (Page.shape Shape.string).Survives (fun p => ∀ s ∈ p.items, True) (Page.map id) :=
    page_survives (yields_true _) (fun s _ _ => Shape.reads_string s) fun _ => rfl
  have hmap : (Page.map id : Page String → Page String) = id := by
    funext p
    rw [Page.map, List.map_id, id]
  rw [hmap] at hpage
  exact fun text p htext _ => hpage text p htext fun _ _ => trivial

/-- A page of users survives but for the passwords. -/
theorem userPage_survives :
    (Page.shape User.shape).Survives (fun p => ∀ u ∈ p.items, u.metadata.FloatFree)
      (Page.map User.redacted) :=
  page_survives (User.yields_shape 123) (fun _ => User.reads_toJson) User.toJson_redacted

/-- What is written of a user does not depend on its password. -/
theorem text_eq_of_redacted_eq {u u' : User} (h : u.redacted = u'.redacted) :
    (toJson u).text = (toJson u').text := by
  rw [← u.toJson_redacted, h, u'.toJson_redacted]

/-- Key claims that are read back are alive at the same times, and dead for the same reasons. -/
theorem validate_eq_of_reread {text : String} {claims again : KeyClaims}
    (hread : KeyClaims.shape.ofText text = .ok claims)
    (hagain : KeyClaims.shape.ofText (toJson claims).text = .ok again) (now : Timestamp) :
    again.validate now = claims.validate now := by
  obtain rfl : claims = again :=
    Except.ok.inj ((keyClaims_survives text claims hread trivial).1.symm.trans hagain)
  rfl

/-- Whatever is read is read back from what is written of it, without the password of a user, and is
then written as before. What is written of a user does not depend on its password, and key claims
that are read back are valid when they were. -/
theorem wire_values_survive :
    User.shape.Survives (fun u => u.metadata.FloatFree) User.redacted ∧
    Identity.shape.Survives (fun _ => True) id ∧
    KeyClaims.shape.Survives (fun _ => True) id ∧
    RelationTuple.shape.Survives (fun _ => True) id ∧
    GrantBatch.shape.Survives (fun _ => True) id ∧
    PageInfo.shape.Survives (fun _ => True) id ∧
    (Page.shape Shape.string).Survives (fun _ => True) id ∧
    (Page.shape User.shape).Survives (fun p => ∀ u ∈ p.items, u.metadata.FloatFree)
      (Page.map User.redacted) ∧
    (∀ u u' : User, u.redacted = u'.redacted → (toJson u).text = (toJson u').text) ∧
    ∀ text claims again, KeyClaims.shape.ofText text = .ok claims →
      KeyClaims.shape.ofText (toJson claims).text = .ok again →
      ∀ now, again.validate now = claims.validate now :=
  ⟨user_survives, identity_survives, keyClaims_survives, relationTuple_survives,
    grantBatch_survives, pageInfo_survives, stringPage_survives, userPage_survives,
    fun _ _ => text_eq_of_redacted_eq, fun _ _ _ => validate_eq_of_reread⟩

/-- Claims in an array, with a leap second, an offset and a year before the common era; and a page
of one user, with escapes, an entry that is passed over, and a password, which is left out of what
is written. -/
theorem claims_and_page_survive :
    (∃ claims, KeyClaims.shape.ofText
      "[\"7\",\"\",\x7b\"api\":null\x7d,\"-1-1-2 3:04:05.12+01:30\",\"2016-12-31T23:59:60.5z\"]" =
        .ok claims ∧
      KeyClaims.shape.ofText (toJson claims).text = .ok claims) ∧
    let user : User :=
      { id := "7", email := "a/b@x.com", password := "s\"ecret",
        metadata := [("a", .array [.bool true, .number (.integer (-1))]), ("b", .string "é😀")] }
    let page (u : User) : Page User := ⟨⟨1, 0, 10⟩, [u]⟩
    let text := "\x7b\"items\":[\x7b\"metadata\":\x7b\"b\":\"\\u00e9\\ud83d\\ude00\"," ++
      "\"a\":[true,-1]\x7d,\"email\":\"a\\/b@x.com\",\"age\":0,\"password\":\"s\\\"ecret\"," ++
        "\"id\":\"7\"\x7d],\"limit\":10,\"offset\":0,\"total\":1\x7d"
    (Page.shape User.shape).ofText text = .ok (page user) ∧
      (Page.shape User.shape).ofText (toJson (page user)).text =
        .ok (page { user with password := "" }) := by
  have hclaims : KeyClaims.shape.ofText
      "[\"7\",\"\",\x7b\"api\":null\x7d,\"-1-1-2 3:04:05.12+01:30\",\"2016-12-31T23:59:60.5z\"]" =
        .ok ⟨"7", "", .api, ⟨-62198663155, 120000000, by decide⟩,
          ⟨1483228799, 1500000000, by decide⟩⟩ := by
    decide +kernel
  refine ⟨⟨_, hclaims, (wire_values_survive.2.2.1 _ _ hclaims trivial).1⟩, ?_⟩
  intro user page text
  have hread : (Page.shape User.shape).ofText text = .ok (page user) := by decide +kernel
  have free : user.metadata.FloatFree := by
    have hflags : ∀ v ∈ [Value.bool true, .number (.integer (-1))], v.FloatFree := by
      simp [Value.FloatFree.bool, Value.FloatFree.integer]
    simp [user, Entries.FloatFree, Value.FloatFree.array hflags, Value.FloatFree.string]
  have hfree : ∀ u ∈ (page user).items, u.metadata.FloatFree := List.forall_mem_singleton.mpr free
  obtain ⟨_, _, _, _, _, _, _, hpages, _⟩ := wire_values_survive
  exact ⟨hread, (hpages _ _ hread hfree).1⟩

end AccessControl
