import AccessControl.Http.Url
import AccessControl.Proofs.Decimal.Digits
import AccessControl.Proofs.Http.Form
import AccessControl.Proofs.Text.Pieces

/-!
# Addresses below a base

An address is normal if it is read back from its own text (`Url.IsNormal`). The text of a normal
address without query and fragment, less the slashes at its end, can be followed by more parts of a
path, and what is read then is the same address with these parts below its path
(`Url.IsNormal.ofChars?_below`).

Nothing about a host has to be known for this but the characters it is written with: where these end
is where the path begins, whatever follows.
-/

namespace AccessControl.Http

open AccessControl.Decimal
open AccessControl.Text

/-! ## Percent encoding -/

variable {keeps : Char → Bool} {c : Char} {cs : List Char}

/-- What stands for itself is not encoded. -/
theorem percentEncode_of_keeps (h : ∀ c ∈ cs, keeps c = true) : percentEncode keeps cs = cs := by
  induction cs with
  | nil => rfl
  | cons c cs ih =>
    rw [percentEncode, List.flatMap_cons, ← percentEncode, percentChar,
      if_pos (h c List.mem_cons_self), ih fun d hd => h d (List.mem_cons_of_mem c hd)]
    rfl

/-- What is written stands for itself, if percent signs and digits do, and is no other mark than the
text held. -/
theorem keeps_of_mem_percentEncode {isMark : Char → Bool}
    (hbytes : ∀ b, ∀ c ∈ percentByte b, keeps c = true ∧ isMark c = false)
    (hmarks : ∀ c ∈ cs, isMark c = false) (h : c ∈ percentEncode keeps cs) :
    keeps c = true ∧ isMark c = false := by
  obtain ⟨d, hd, hc⟩ := List.mem_flatMap.mp h
  rw [percentChar] at hc
  split at hc
  case isTrue hkept =>
    rw [List.mem_singleton.mp hc]
    exact ⟨hkept, hmarks d hd⟩
  case isFalse =>
    obtain ⟨b, _, hb⟩ := List.mem_flatMap.mp hc
    exact hbytes b c hb

namespace Url

variable {u base : Url} {parts : List (List Char)} {part : List Char}

/-! ## Hosts -/

/-- A character that can stand between the scheme and the path. -/
def IsInner (c : Char) : Prop :=
  32 < c.toNat ∧ endsHost c = false

instance : DecidablePred IsInner :=
  fun _ => inferInstanceAs (Decidable (_ ∧ _))

/-- No character of an authority is a slash. -/
theorem isSlash_of_isInner (h : IsInner c) : isSlash c = false := by
  have hends := h.2
  rw [endsHost, Bool.or_eq_false_iff, Bool.or_eq_false_iff] at hends
  exact hends.1.1

/-- A character that a host may hold may stand in an authority. -/
theorem isInner_of_not_isForbidden (h : Host.isForbidden c = false) : IsInner c := by
  simp only [Host.isForbidden, Bool.or_eq_false_iff, decide_eq_false_iff_not, not_le,
    List.contains_eq_mem] at h
  obtain ⟨⟨hvisible, _⟩, hmarks⟩ := h
  refine ⟨hvisible, ?_⟩
  rw [Bool.eq_false_iff]
  intro hends
  simp only [endsHost, isSlash, Bool.or_eq_true, beq_iff_eq] at hends
  obtain ((rfl | rfl) | rfl) | rfl := hends <;> exact absurd hmarks (by decide)

/-- Digits up to base sixteen may stand in an authority. -/
theorem isInner_digitChar : ∀ d < 16, IsInner d.digitChar := by decide

/-- A number is written with digits. -/
theorem isInner_of_mem_toDigits {n radix : Nat} (hleast : 1 < radix) (hmost : radix ≤ 16)
    (h : c ∈ Nat.toDigits radix n) : IsInner c := by
  induction n using Nat.strongRecOn with
  | _ n ih =>
    by_cases hn : n < radix
    · rw [Nat.toDigits_of_lt_base hn, List.mem_singleton] at h
      rw [h]
      exact isInner_digitChar n (by omega)
    · rw [Nat.toDigits_of_base_le hleast (not_lt.mp hn), List.mem_append, List.mem_singleton] at h
      obtain h | rfl := h
      · exact ih _ (Nat.div_lt_self (by omega) hleast) h
      · exact isInner_digitChar _ ((Nat.mod_lt n (by omega)).trans_le hmost)

/-- Numbers that are joined by a mark hold only what may stand in an authority. -/
theorem isInner_of_mem_intercalate {mark : Char} (hmark : IsInner mark) {ns : List Nat}
    {radix : Nat} (hleast : 1 < radix) (hmost : radix ≤ 16)
    (h : c ∈ [mark].intercalate (ns.map (Nat.toDigits radix))) : IsInner c := by
  obtain rfl | ⟨piece, hpiece, hc⟩ := mem_intercalate h
  · exact hmark
  · obtain ⟨n, _, rfl⟩ := List.mem_map.mp hpiece
    exact isInner_of_mem_toDigits hleast hmost hc

/-- The text of an address of eight pieces holds only what may stand in an authority. -/
theorem isInner_of_mem_ipv6Text {pieces : List Nat} (h : c ∈ Host.ipv6Text pieces) :
    IsInner c := by
  have hcolon : IsInner ':' := by decide
  have hjoin {ps : List Nat} (h : c ∈ [':'].intercalate (ps.map Host.pieceText)) : IsInner c :=
    isInner_of_mem_intercalate hcolon (by decide) (by decide) h
  simp only [Host.ipv6Text] at h
  split at h
  · exact hjoin h
  · simp only [List.mem_append, List.mem_cons, List.not_mem_nil, or_false, or_self] at h
    obtain (h | rfl) | h := h
    · exact hjoin h
    · exact hcolon
    · exact hjoin h

/-- A host that was read is written with something, and with nothing that ends a host. -/
theorem isInner_of_host {host : Host} (h : Host.ofChars? cs = some host) :
    host.toChars ≠ [] ∧ ∀ c ∈ host.toChars, IsInner c := by
  cases host with
  | domain name =>
    unfold Host.ofChars? at h
    split at h
    · split_ifs at h
      simp at h
    · simp only [Option.bind_eq_bind, Option.bind_eq_some_iff] at h
      obtain ⟨text, _, h⟩ := h
      split_ifs at h with hbad
      · simp at h
      · cases h
        obtain ⟨hne, hmarks⟩ := not_or.mp hbad
        refine ⟨fun hnil => hne (List.isEmpty_iff.mpr hnil), fun c hc => ?_⟩
        refine isInner_of_not_isForbidden (Bool.eq_false_iff.mpr fun hforbidden => ?_)
        exact hmarks (List.any_eq_true.mpr ⟨c, hc, hforbidden⟩)
  | ipv4 address =>
    have hdot : IsInner '.' := by decide
    have htext : Host.toChars (.ipv4 address) = ['.'].intercalate
      (([16777216, 65536, 256, 1].map (address / · % 256)).map (Nat.toDigits 10)) := rfl
    rw [htext]
    refine ⟨?_, fun c => isInner_of_mem_intercalate hdot (by decide) (by decide)⟩
    simp only [List.map_cons, List.intercalate_cons_cons, Ne, List.append_eq_nil_iff,
      Nat.toDigits_ne_nil, false_and, not_false_eq_true]
  | ipv6 pieces =>
    refine ⟨List.cons_ne_nil _ _, fun c hc => ?_⟩
    simp only [Host.toChars, List.mem_cons, List.mem_append, List.not_mem_nil, or_false] at hc
    obtain rfl | hc | rfl := hc
    · decide
    · exact isInner_of_mem_ipv6Text hc
    · decide

/-! ## Paths -/

/-- A part of a path in normal form. -/
structure IsPart (part : List Char) : Prop where
  kept : ∀ c ∈ part, keepsInPath c = true ∧ isSlash c = false
  single : isSingleDot part = false
  double : isDoubleDot part = false

instance : DecidablePred IsPart := fun part =>
  decidable_of_iff ((part.all fun c => keepsInPath c && !isSlash c) = true ∧
      isSingleDot part = false ∧ isDoubleDot part = false)
    ⟨fun ⟨kept, single, double⟩ =>
        ⟨fun c hc => by simpa using List.all_eq_true.mp kept c hc, single, double⟩,
      fun h => ⟨List.all_eq_true.mpr fun c hc => by simpa using h.kept c hc, h.single, h.double⟩⟩

theorem isPart_nil : IsPart [] := by decide

/-- Parts in normal form are all kept. -/
theorem resolve_of_isPart (hparts : ∀ part ∈ parts, IsPart part) (before : List (List Char)) :
    resolve before parts = parts.reverse ++ before := by
  induction parts generalizing before with
  | nil => rfl
  | cons part parts ih =>
    have hpart := hparts part List.mem_cons_self
    rw [resolve, hpart.single, hpart.double]
    simp [ih fun p hp => hparts p (List.mem_cons_of_mem part hp)]

/-- What is left of a path is in normal form, if its characters are. -/
theorem isPart_of_mem_resolve {before : List (List Char)} (hbefore : ∀ part ∈ before, IsPart part)
    (hkept : ∀ part ∈ parts, ∀ c ∈ part, keepsInPath c = true ∧ isSlash c = false) :
    ∀ part ∈ resolve before parts, IsPart part := by
  induction parts generalizing before with
  | nil => exact hbefore
  | cons part parts ih =>
    have hrest := fun p hp => hkept p (List.mem_cons_of_mem part hp)
    have hsome : ∀ p ∈ (if isDoubleDot part = true then before.tail
        else if isSingleDot part = true then before else part :: before), IsPart p := by
      split_ifs with hdouble hsingle
      · exact fun p hp => hbefore p (List.mem_of_mem_tail hp)
      · exact hbefore
      · intro p hp
        obtain rfl | hp := List.mem_cons.mp hp
        · exact ⟨hkept p List.mem_cons_self, by simpa using hsingle, by simpa using hdouble⟩
        · exact hbefore p hp
    rw [resolve]
    refine ih ?_ hrest
    intro p hp
    split at hp
    · obtain rfl | hp := List.mem_cons.mp hp
      · exact isPart_nil
      · exact hsome p hp
    · exact hsome p hp

/-- Something is left of every path, if only an empty part behind dots. -/
theorem resolve_ne_nil (hparts : parts ≠ []) (before : List (List Char)) :
    resolve before parts ≠ [] := by
  induction parts generalizing before with
  | nil => exact absurd rfl hparts
  | cons part parts ih =>
    cases parts with
    | cons next parts => exact ih (List.cons_ne_nil _ _) _
    | nil =>
      rw [resolve, resolve]
      cases hdouble : isDoubleDot part <;> cases hsingle : isSingleDot part <;> simp

/-- What stands for itself in a path is visible ASCII. -/
theorem visible_of_keepsInPath (h : keepsInPath c = true) : 32 < c.toNat ∧ c.toNat < 127 := by
  simp only [keepsInPath, keepsInFragment, Bool.and_eq_true, decide_eq_true_eq] at h
  exact h.1.1

/-- A path of parts holds only what a path keeps. -/
theorem keepsInPath_of_mem_path (hparts : ∀ part ∈ parts, IsPart part)
    (h : c ∈ parts.flatMap ('/' :: ·)) : keepsInPath c = true := by
  obtain ⟨part, hpart, hc⟩ := List.mem_flatMap.mp h
  obtain rfl | hc := List.mem_cons.mp hc
  · decide
  · exact ((hparts part hpart).kept c hc).1

/-- An escaped byte stands in a path as it is, and holds no slash. -/
theorem keepsInPath_of_mem_percentByte {b : UInt8} (h : c ∈ percentByte b) :
    keepsInPath c = true ∧ isSlash c = false :=
  Form.of_mem_percentByte (P := fun c => keepsInPath c = true ∧ isSlash c = false) (by decide)
    (by decide) h

/-- The pieces of a path that is read are parts. -/
theorem isPart_of_mem_pathOf (h : part ∈ pathOf cs) : IsPart part := by
  rw [pathOf, List.mem_reverse] at h
  refine isPart_of_mem_resolve (by simp) (fun p hp c hc => ?_) part h
  obtain ⟨piece, hpiece, rfl⟩ := List.mem_map.mp hp
  exact keeps_of_mem_percentEncode (fun b c => keepsInPath_of_mem_percentByte)
    (fun d hd => (mem_splitOnP_iff.mp ⟨piece, hpiece, hd⟩).2) hc

theorem pathOf_ne_nil (cs : List Char) : pathOf cs ≠ [] := by
  rw [pathOf, Ne, List.reverse_eq_nil_iff]
  exact resolve_ne_nil (by simp [List.splitOnP_ne_nil]) []

/-- A path in normal form is read back. -/
theorem pathOf_flatMap (hne : parts ≠ []) (hparts : ∀ part ∈ parts, IsPart part) :
    pathOf (parts.flatMap ('/' :: ·)) = parts := by
  obtain ⟨first, rest, rfl⟩ := List.exists_cons_of_ne_nil hne
  have hslash : ∀ part ∈ first :: rest, ∀ c ∈ part, isSlash c = false :=
    fun part hpart c hc => ((hparts part hpart).kept c hc).2
  have hsplit : (first ++ rest.flatMap ('/' :: ·)).splitOnP isSlash = first :: rest :=
    splitOnP_flatMap (by decide) (hslash first List.mem_cons_self)
      fun part hpart => hslash part (List.mem_cons_of_mem first hpart)
  have hencode : (first :: rest).map (percentEncode keepsInPath) = first :: rest := by
    conv_rhs => rw [← List.map_id (first :: rest)]
    exact List.map_congr_left fun part hpart =>
      percentEncode_of_keeps fun c hc => ((hparts part hpart).kept c hc).1
  have hhead : ((first :: rest).flatMap ('/' :: ·)).head?.any isSlash = true := rfl
  rw [pathOf, if_pos hhead, List.flatMap_cons, List.cons_append, List.tail_cons, hsplit, hencode,
    resolve_of_isPart hparts, List.append_nil, List.reverse_reverse]

/-! ## Addresses -/

/-- What stands between the slashes behind the scheme and the path. -/
def authority (u : Url) : List Char :=
  u.host.toChars ++ ((u.number.map fun n => ':' :: ofNat n).getD [])

/-- Reads what stands there. -/
def readAuthority? (scheme : Scheme) (cs : List Char) : Option (Host × Option Nat) := do
  let (hostText, numberText) := splitNumber false (withoutUser cs)
  return (← Host.ofChars? hostText, ← number? scheme (numberText.getD []))

/-- A text of visible characters is clean. -/
theorem cleaned_of_visible (h : ∀ c ∈ cs, 32 < c.toNat) : cleaned cs = cs := by
  have hstays : ∀ ds : List Char, (∀ c ∈ ds, c ∈ cs) →
      ds.dropWhile (fun c => decide (c.toNat ≤ 32)) = ds := by
    intro ds hds
    cases ds with
    | nil => rfl
    | cons d ds =>
      have hd : 32 < d.toNat := h d (hds d List.mem_cons_self)
      exact List.dropWhile_cons_of_neg (by simpa using hd)
  rw [cleaned, hstays cs fun c hc => hc, hstays cs.reverse fun c => List.mem_reverse.mp,
    List.reverse_reverse, List.filter_eq_self]
  intro c hc
  have hblank : ∀ d : Char, d.toNat ≤ 32 → (c != d) = true := by
    rintro d hd
    exact bne_iff_ne.mpr fun heq => absurd (h c hc) (by rw [heq]; omega)
  rw [hblank '\t' (by decide), hblank '\n' (by decide), hblank '\r' (by decide)]
  rfl

/-- A scheme in front of a colon is taken off. -/
theorem takeScheme?_name (scheme : Scheme) (rest : List Char) :
    takeScheme? (scheme.name ++ ':' :: rest) = some (scheme, rest) := by
  have hcolon : ':' ∉ scheme.name := by cases scheme <;> decide
  rw [takeScheme?, Form.cut_append hcolon]
  cases scheme <;> rfl

/-- A text without the mark is not cut. -/
theorem cut_of_notMem {mark : Char} (h : mark ∉ cs) : cut mark cs = (cs, none) := by
  have hall : cs.dropWhile (· != mark) = [] := by
    rw [List.dropWhile_eq_nil_iff]
    exact fun c hc => bne_iff_ne.mpr fun heq => h (heq ▸ hc)
  rw [cut, hall]

/-- A scheme, an authority and a path of parts are visible throughout. -/
theorem visible_of_parts (scheme : Scheme) {inner : List Char} (hinner : ∀ c ∈ inner, IsInner c)
    (hparts : ∀ part ∈ parts, IsPart part) :
    ∀ c ∈ scheme.name ++ ':' :: '/' :: '/' :: (inner ++ parts.flatMap ('/' :: ·)),
      32 < c.toNat := by
  have hname : ∀ c ∈ scheme.name, 32 < c.toNat := by cases scheme <;> simp [Scheme.name]
  simp only [List.mem_append, List.mem_cons]
  rintro c (hc | rfl | rfl | rfl | hc | hc)
  · exact hname c hc
  · decide
  · decide
  · decide
  · exact (hinner c hc).1
  · exact (visible_of_keepsInPath (keepsInPath_of_mem_path hparts hc)).1

/-- The slashes behind the scheme end where the host begins. -/
theorem dropWhile_isSlash {inner : List Char} (hne : inner ≠ []) (hinner : ∀ c ∈ inner, IsInner c)
    (rest : List Char) :
    ('/' :: '/' :: (inner ++ rest)).dropWhile isSlash = inner ++ rest := by
  obtain ⟨first, inner, rfl⟩ := List.exists_cons_of_ne_nil hne
  have hfirst : isSlash first = false := isSlash_of_isInner (hinner first List.mem_cons_self)
  rw [List.dropWhile_cons_of_pos rfl, List.dropWhile_cons_of_pos rfl, List.cons_append,
    List.dropWhile_cons_of_neg (by simp [hfirst])]

/-- An address without query and fragment is read part by part. -/
theorem ofChars?_of_parts (scheme : Scheme) {inner : List Char} (hne : inner ≠ [])
    (hinner : ∀ c ∈ inner, IsInner c) (hparts : ∀ part ∈ parts, IsPart part) :
    ofChars? (scheme.name ++ ':' :: '/' :: '/' :: (inner ++ parts.flatMap ('/' :: ·))) =
      (readAuthority? scheme inner).map fun (host, number) =>
        { scheme, host, number, path := pathOf (parts.flatMap ('/' :: ·)) } := by
  have hkept : ∀ c ∈ parts.flatMap ('/' :: ·), keepsInPath c = true :=
    fun c hc => keepsInPath_of_mem_path hparts hc
  -- the host ends where the path begins
  have hends : ∀ c ∈ inner, (!endsHost c) = true := fun c hc => by rw [(hinner c hc).2]; rfl
  have hpath : (parts.flatMap ('/' :: ·)).takeWhile (!endsHost ·) = [] ∧
      (parts.flatMap ('/' :: ·)).dropWhile (!endsHost ·) = parts.flatMap ('/' :: ·) := by
    cases parts <;> exact ⟨rfl, rfl⟩
  have hfragment : cut '#' (parts.flatMap ('/' :: ·)) = (parts.flatMap ('/' :: ·), none) :=
    cut_of_notMem fun hc => absurd (hkept '#' hc) (by decide)
  have hquery : cut '?' (parts.flatMap ('/' :: ·)) = (parts.flatMap ('/' :: ·), none) :=
    cut_of_notMem fun hc => absurd (hkept '?' hc) (by decide)
  rw [ofChars?, cleaned_of_visible (visible_of_parts scheme hinner hparts), takeScheme?_name]
  simp only [Option.bind_eq_bind, Option.bind_some, dropWhile_isSlash hne hinner,
    List.takeWhile_append_of_pos hends, List.dropWhile_append_of_pos hends, hpath,
    List.append_nil, hfragment, hquery, readAuthority?, Option.map_bind, Function.comp_def,
    Option.pure_def, Option.map_some, Option.map_none]

/-- An address is normal if it is read back from its own text. -/
def IsNormal (u : Url) : Prop :=
  ofChars? u.toChars = some u

instance : DecidablePred IsNormal :=
  fun u => inferInstanceAs (Decidable (ofChars? u.toChars = some u))

/-- The address with more parts of a path below its own, whose empty parts at the end are left
out. -/
def below (base : Url) (parts : List (List Char)) : Url :=
  { base with path := base.path.rdropWhile (·.isEmpty) ++ parts }

/-- Without a fragment, the text of a URL is its scheme, its authority and its target. -/
theorem toChars_eq (hfragment : u.fragment = none) :
    u.toChars = u.scheme.name ++ ':' :: '/' :: '/' :: (u.authority ++ u.target) := by
  rw [toChars, hfragment, authority]
  simp

/-- Without a query, the target is the path. -/
theorem target_eq (hquery : u.query = none) : u.target = u.path.flatMap ('/' :: ·) := by
  rw [target, hquery]
  exact List.append_nil _

/-- What was read has a host that was read, and a path in normal form. -/
theorem parts_of_ofChars? (h : ofChars? cs = some u) :
    (u.authority ≠ [] ∧ ∀ c ∈ u.authority, IsInner c) ∧
      u.path ≠ [] ∧ ∀ part ∈ u.path, IsPart part := by
  simp only [ofChars?, Option.bind_eq_bind, Option.bind_eq_some_iff, Option.pure_def] at h
  obtain ⟨_, _, host, hhost, number, _, h⟩ := h
  cases h
  obtain ⟨hne, hinner⟩ := isInner_of_host hhost
  refine ⟨⟨by simp [authority, hne], fun c hc => ?_⟩, pathOf_ne_nil _,
    fun part => isPart_of_mem_pathOf⟩
  obtain hc | hc := List.mem_append.mp hc
  · exact hinner c hc
  · cases number with
    | none => cases hc
    | some n =>
      obtain rfl | hc := List.mem_cons.mp hc
      · decide
      · exact isInner_of_mem_toDigits (by decide) (by decide) hc

/-- The path ends where the query begins. -/
theorem cut_target (hpath : ∀ part ∈ u.path, IsPart part) :
    cut '?' u.target = (u.path.flatMap ('/' :: ·), u.query) := by
  have hmark : '?' ∉ u.path.flatMap ('/' :: ·) := fun hc =>
    absurd (keepsInPath_of_mem_path hpath hc) (by decide)
  rw [target]
  cases u.query with
  | none => exact (congrArg (cut '?') (List.append_nil _)).trans (cut_of_notMem hmark)
  | some query => exact Form.cut_append hmark

/-- The path below a base is made of parts when both of its halves are. -/
theorem isPart_below (hpath : ∀ part ∈ base.path, IsPart part)
    (hparts : ∀ part ∈ parts, IsPart part) : ∀ part ∈ (base.below parts).path, IsPart part := by
  intro part hpart
  obtain hpart | hpart := List.mem_append.mp hpart
  · exact hpath part ((List.rdropWhile_prefix _ _).subset hpart)
  · exact hparts part hpart

/-- The path of an address is followed by more parts. -/
theorem target_below (hpath : ∀ part ∈ base.path, IsPart part) (hquery : base.query = none)
    (parts : List (List Char)) : (base.below parts).target =
      base.target.rdropWhile (· == '/') ++ parts.flatMap ('/' :: ·) := by
  have hslash : ∀ part ∈ base.path, ∀ c ∈ part, (c == '/') = false := fun part hpart c hc =>
    (Bool.or_eq_false_iff.mp ((hpath part hpart).kept c hc).2).1
  rw [target_eq hquery, target_eq (u := base.below parts) hquery, rdropWhile_flatMap rfl hslash,
    below, List.flatMap_append]

/-- The slashes at the end of an address are those at the end of its path. -/
theorem rdropWhile_toChars (hfragment : u.fragment = none) (hne : u.authority ≠ [])
    (hinner : ∀ c ∈ u.authority, IsInner c) :
    u.toChars.rdropWhile (· == '/') = u.scheme.name ++ ':' :: '/' :: '/' ::
      (u.authority ++ u.target.rdropWhile (· == '/')) := by
  obtain ⟨front, last, hlast⟩ := (List.eq_nil_or_concat' u.authority).resolve_left hne
  have hstays : (last == '/') = false :=
    (Bool.or_eq_false_iff.mp (isSlash_of_isInner (hinner last (by simp [hlast])))).1
  have hcut := rdropWhile_append (· == '/') hstays
    (u.scheme.name ++ ':' :: '/' :: '/' :: front) u.target
  simpa only [toChars_eq hfragment, hlast, List.append_assoc, List.cons_append,
    List.nil_append] using hcut

/-- The authority of a normal base is read back as its host and its port. -/
theorem IsNormal.readAuthority?_eq (h : base.IsNormal) (hquery : base.query = none)
    (hfragment : base.fragment = none) :
    readAuthority? base.scheme base.authority = some (base.host, base.number) := by
  obtain ⟨⟨hne, hinner⟩, _, hpath⟩ := parts_of_ofChars? h
  rw [IsNormal, toChars_eq hfragment, target_eq hquery,
    ofChars?_of_parts base.scheme hne hinner hpath, Option.map_eq_some_iff] at h
  obtain ⟨⟨host, number⟩, hauthority, hbase⟩ := h
  rw [hauthority, ← hbase]

/-- Behind a normal address without the slashes at its end, more parts of a path are read below
it. -/
theorem IsNormal.ofChars?_below (h : base.IsNormal) (hquery : base.query = none)
    (hfragment : base.fragment = none) (hne : parts ≠ []) (hparts : ∀ part ∈ parts, IsPart part) :
    ofChars? (base.toChars.rdropWhile (· == '/') ++ parts.flatMap ('/' :: ·)) =
      some (base.below parts) := by
  obtain ⟨⟨hinnerne, hinner⟩, _, hpath⟩ := parts_of_ofChars? h
  have hall := isPart_below hpath hparts
  have htext : base.toChars.rdropWhile (· == '/') ++ parts.flatMap ('/' :: ·) =
      base.scheme.name ++ ':' :: '/' :: '/' ::
        (base.authority ++ (base.below parts).path.flatMap ('/' :: ·)) := by
    rw [← target_eq (u := base.below parts) hquery, target_below hpath hquery,
      rdropWhile_toChars hfragment hinnerne hinner]
    simp only [List.append_assoc, List.cons_append]
  rw [htext, ofChars?_of_parts base.scheme hinnerne hinner hall,
    h.readAuthority?_eq hquery hfragment, pathOf_flatMap (by simp [below, hne]) hall]
  simp only [Option.map_some, below, hquery, hfragment]

end Url

end AccessControl.Http
