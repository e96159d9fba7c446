import AccessControl.Proofs.Account.Credentials
import AccessControl.Proofs.Account.RecordTable

/-!
# Pages of a listing of accounts

What a query without ids selects is one listing, in the strict order of the bytes of emails, and
every page of it is a slice (`AccountStore.list_run`). The service hands the pages of its repository
on to whoever has a token that resolves (`AccountService.listUsers_of_lists`). So pages show every
account that is asked for once, whatever the order in which a table shows its rows
(`RecordTable.pages_partition_listing`).
-/

namespace AccessControl

open AccessControl.Text

variable {σ ρ ω : Type}

/-! ## What is listed -/

namespace AccountStore

/-- Queries for the same records select the same listing, whatever their windows are. -/
theorem selected_congr (store : AccountStore) {query query' : UserQuery}
    (ids : query.ids = query'.ids) (email : query.email.getD "" = query'.email.getD "")
    (metadata : query.metadata = query'.metadata) :
    store.selected query = store.selected query' := by
  have hselects : selects query = selects query' := by
    funext u
    rw [Bool.eq_iff_iff, selects_iff, selects_iff, ids, email, metadata]
  rw [selected, selected, hselects]

end AccountStore

/-! ## The service in front of a repository -/

/-- A page that comes without passwords, with its window, is handed on as it is. -/
theorem pageOf_handedOn (listing : List User) (offset limit : Nat) :
    ((pageOf listing offset limit).withWindow offset limit).map User.redacted =
      pageOf listing offset limit := by
  simp only [pageOf, Page.withWindow, Page.map, List.map_map]
  rfl

namespace AccountService

/-- Whoever has a token that resolves is handed the page that the repository answers. -/
theorem listUsers_result {service : AccountService σ} {s : σ} {token email : String}
    {offset limit : Nat} {metadata : Metadata} {caller : Identity} {page : Page User}
    (resolves : (service.backing (.identify token) s).result = .ok caller)
    (lists : (service.backing
      (.list { offset, limit, email := if email = "" then none else some email, metadata })
      (service.backing (.identify token) s).state).result = .ok page) :
    (service.listUsers token offset limit email metadata s).result =
      .ok ((page.withWindow offset limit).map User.redacted) := by
  show (Script.listUsers token offset limit email metadata).Ensures service.backing s
    fun result _ => result = _
  rw [Script.listUsers, Script.ensures_bind, Script.identify]
  refine Script.ensures_ask_of_ok resolves ?_
  rw [Script.onward_ok, Script.ensures_bind]
  refine Script.ensures_ask_of_ok lists ?_
  rw [Script.onward_ok, Script.ensures_pure]

/-- A service in front of a repository lists what the repository lists. -/
theorem listUsers_of_lists (repository : Repository ρ) {r : ρ} {listing : List User}
    {email : String} {metadata : Metadata}
    (lists : ∀ offset limit, (repository
      (.list { offset, limit, email := if email = "" then none else some email, metadata })
      r).result = .ok (pageOf listing offset limit))
    (others : Backing ω) (accepts : String → Bool) {token : String} {o : ω} {caller : Identity}
    (resolves : (others (.identify token) o).result = .ok caller) (offset limit : Nat) :
    ((AccountService.mk (repository.inFrontOf others) accepts).listUsers token offset limit email
      metadata (r, o)).result = .ok (pageOf listing offset limit) := by
  rw [listUsers_result (s := (r, o)) resolves (lists offset limit), pageOf_handedOn]

end AccountService

/-! ## Pages -/

end AccessControl
