import AccessControl.Proofs.Account.Store
import AccessControl.Proofs.Text.ByteOrder
import Mathlib.Data.List.Pairwise
import Mathlib.Data.List.Perm.Basic

/-!
# Listings of user records

Records with different emails have one order by email (`sortedByEmail_eq_of_perm`), the strict order
of the bytes of their emails (`AccountStore.WellFormed.pairwise_selected`). What a query selects is
said by `AccountStore.mem_selected_iff`, and a page shows a slice of it (`AccountStore.list_run`).
Slices one behind the other make up the whole (`flatMap_extract`).
-/

namespace AccessControl

open AccessControl.Text

variable {α : Type}

/-! ## Slices -/

/-- A window is the stretch from its offset, of at most its limit. -/
theorem window_eq_extract (offset limit : Nat) (xs : List α) :
    window offset limit xs = xs.extract offset (offset + limit) := by
  rw [window, List.extract_eq_take_drop, Nat.add_sub_cancel_left]

/-- The first `k` slices of `n` items. -/
theorem flatMap_extract (xs : List α) (n k : Nat) :
    ((List.range k).flatMap fun i => xs.extract (i * n) (i * n + n)) = xs.take (k * n) := by
  induction k with
  | zero => simp
  | succ k ih =>
    rw [List.range_succ, List.flatMap_append, ih, List.flatMap_singleton, Nat.succ_mul,
      List.take_add, ← window_eq_extract, window]

/-- A page of a listing: the slice from `offset` on of `limit` records, without passwords. -/
def pageOf (listing : List User) (offset limit : Nat) : Page User :=
  ⟨⟨listing.length, offset, limit⟩,
    (listing.extract offset (offset + limit)).map User.redacted⟩

/-- Pages one behind the other show the whole listing. -/
theorem flatMap_pageOf {listing : List User} {n k : Nat} (h : listing.length ≤ k * n) :
    ((List.range k).flatMap fun i => (pageOf listing (i * n) n).items) =
      listing.map User.redacted := by
  simp only [pageOf]
  rw [← List.map_flatMap, flatMap_extract, List.take_of_length_le h]

/-! ## The order of emails -/

/-- Records in the order of their emails. -/
def sortedByEmail (users : List User) : List User :=
  users.mergeSort fun a b => decide (a.email ≤ b.email)

/-- Sorted users stand in the order of their addresses. -/
theorem pairwise_sortedByEmail (users : List User) :
    (sortedByEmail users).Pairwise fun a b => a.email ≤ b.email := by
  refine (List.pairwise_mergeSort ?_ ?_ users).imp of_decide_eq_true
  · intro a b c hab hbc
    exact decide_eq_true (String.le_trans (of_decide_eq_true hab) (of_decide_eq_true hbc))
  · intro a b
    rw [Bool.or_eq_true, decide_eq_true_iff, decide_eq_true_iff]
    exact String.le_total a.email b.email

/-- Records with different emails have one order by email. -/
theorem sortedByEmail_eq_of_perm {users users' : List User} (perm : users.Perm users')
    (nodup : (users'.map (·.email)).Nodup) : sortedByEmail users = sortedByEmail users' := by
  have hperm : (sortedByEmail users).Perm (sortedByEmail users') :=
    ((List.mergeSort_perm users _).trans perm).trans (List.mergeSort_perm users' _).symm
  refine hperm.eq_of_pairwise ?_ (pairwise_sortedByEmail users) (pairwise_sortedByEmail users')
  intro a b ha hb hab hba
  have ha' : a ∈ users' := perm.mem_iff.mp (List.mem_mergeSort.mp ha)
  have hb' : b ∈ users' := List.mem_mergeSort.mp hb
  exact List.inj_on_of_nodup_map nodup ha' hb' (String.le_antisymm hab hba)

/-! ## What a query selects -/

/-- Every entry of a filter is present with an equal value. -/
def Json.Entries.Holds (entries filter : Json.Entries) : Prop :=
  ∀ entry ∈ filter, ∃ value, entries.get? entry.1 = some value ∧ value.same entry.2 = true

/-- Entries include a filter exactly when they hold each of its entries. -/
theorem Json.Entries.includes_iff (entries filter : Json.Entries) :
    entries.includes filter = true ↔ entries.Holds filter := by
  rw [includes, List.all_eq_true, Holds]
  refine forall₂_congr fun entry _ => ?_
  obtain ⟨key, value⟩ := entry
  cases h : entries.get? key <;> simp [h]

/-- Metadata sorted by key holds the entries that it lists with an equal value. -/
theorem Json.Entries.holds_iff_of_sorted {entries : Json.Entries} (sorted : entries.Sorted)
    (filter : Json.Entries) : entries.Holds filter ↔
      ∀ entry ∈ filter, ∃ value, (entry.1, value) ∈ entries ∧ value.same entry.2 = true := by
  simp only [Holds, get?_eq_some_iff sorted]

namespace AccountStore

variable {store : AccountStore} {query : UserQuery} {u : User}

/-- A query selects the users among its ids whose address has its part and whose metadata hold its
filter. -/
theorem selects_iff : selects query u = true ↔
    (∀ ids, query.ids = some ids → u.id ∈ ids) ∧
      (query.email.getD "").toList <:+: u.email.toList ∧ u.metadata.Holds query.metadata := by
  rw [selects, Bool.and_eq_true, Bool.and_eq_true, Json.Entries.includes_iff, and_assoc]
  refine and_congr ?_ (and_congr_left fun _ => ?_)
  · cases query.ids <;> simp
  · cases query.email with
    | none => simp
    | some text => exact occursIn_iff text.toList u.email.toList

/-- Selected are the stored users whom the query selects. -/
theorem mem_selected_iff : u ∈ store.selected query ↔
    u ∈ store.users ∧ (∀ ids, query.ids = some ids → u.id ∈ ids) ∧
      (query.email.getD "").toList <:+: u.email.toList ∧ u.metadata.Holds query.metadata := by
  rw [selected, List.mem_mergeSort, List.mem_filter, selects_iff]

/-- What is selected ascends strictly in the bytes of its emails. -/
theorem WellFormed.pairwise_selected (wf : store.WellFormed) (query : UserQuery) :
    (store.selected query).Pairwise fun a b => utf8 a.email < utf8 b.email := by
  have hne : (store.selected query).Pairwise fun a b => a.email ≠ b.email := by
    have hnodup : ((store.users.filter (selects query)).map (·.email)).Nodup :=
      wf.emails_nodup.sublist (List.filter_sublist.map _)
    exact List.pairwise_map.mp (((List.mergeSort_perm _ _).map _).nodup_iff.mpr hnodup)
  have hle : (store.selected query).Pairwise fun a b => a.email ≤ b.email :=
    pairwise_sortedByEmail _
  refine (hle.and hne).imp fun ⟨hle, hne⟩ => lt_iff_utf8_lt.mp ?_
  exact String.not_le.mp fun hge => hne (String.le_antisymm hle hge)

/-- No user is selected twice. -/
theorem WellFormed.nodup_selected (wf : store.WellFormed) (query : UserQuery) :
    (store.selected query).Nodup := by
  refine (wf.pairwise_selected query).imp fun hlt heq => ?_
  exact List.lt_irrefl _ (heq ▸ hlt)

/-- A query is answered with a page of what it selects. -/
theorem list_run (query : UserQuery) (store : AccountStore) : list query store =
    ⟨.ok (pageOf (store.selected query) query.offset query.limit), [], store⟩ := by
  rw [pageOf, ← window_eq_extract]
  rfl

end AccountStore

end AccessControl
