import AccessControl.Proofs.Account.Listing
import AccessControl.Proofs.Account.Repository

/-!
# Records in a table without an order

A `RecordTable` keeps every record under a key, and shows its rows to each request in an order of
its own, an `Arrangement`. Whatever these orders are, a table answers all requests as an
`AccountStore` does, because it holds the same records (`RecordTable.Shows`) and no two of them
share an id or an email: a search by email finds the same record in every order, and a listing that
is sorted by email has one order only.

`RecordTable.accounts_kept` states what holds behind all requests to a table.
-/

namespace AccessControl

variable {α : Type}

/-! ## The table -/

/-- Records under their keys. The order of the rows means nothing. -/
structure RecordTable where
  rows : List (String × User) := []

/-- An order in which a table shows its rows. -/
structure Arrangement where
  arrange : List (String × User) → List (String × User)
  perm : ∀ rows, (arrange rows).Perm rows

/-- The rows the other way round. -/
def Arrangement.reversed : Arrangement :=
  ⟨List.reverse, fun rows => rows.reverse_perm⟩

namespace RecordTable

/-- An action on a table. -/
abbrev Act (α : Type) := Action RecordTable AccountError α

/-- Puts a record under a key, in place of what was there. -/
def put (id : String) (user : User) (rows : List (String × User)) : List (String × User) :=
  (id, user) :: rows.filter (·.1 != id)

/-- Changes the first record with an email that comes into view, if there is one. -/
def changeFirst (email : String) (f : User → User) :
    List (String × User) → Option (List (String × User))
  | [] => none
  | (id, user) :: rows =>
    if user.email = email then some ((id, f user) :: rows)
    else (changeFirst email f rows).map ((id, user) :: ·)

/-- Answers the record of a row, or that there is none. -/
def found (row : Option (String × User)) : Act User :=
  match row with
  | some row => return row.2
  | none => Action.fail (.bare .notFound)

/-- Stores a new record under its id. -/
def save (arrangement : Arrangement) (user : User) : Act String := do
  if user.id = "" then
    Action.fail (.bare .malformedEntity)
  else
    let view := arrangement.arrange (← Action.get).rows
    if view.any (·.2.email == user.email) || view.any (·.1 == user.id) then
      Action.fail (.bare .conflict)
    else
      Action.set ⟨put user.id user view⟩
      return user.id

/-- Changes the first record with an email that comes into view. -/
def update (arrangement : Arrangement) (email : String) (f : User → User) : Act Unit := do
  match changeFirst email f (arrangement.arrange (← Action.get).rows) with
  | some rows => Action.set ⟨rows⟩
  | none => Action.fail (.bare .notFound)

/-- Answers the first record with an email that comes into view. -/
def byEmail (arrangement : Arrangement) (email : String) : Act User := do
  found ((arrangement.arrange (← Action.get).rows).find? (·.2.email == email))

/-- Answers the record under a key. -/
def byId (arrangement : Arrangement) (id : String) : Act User := do
  found ((arrangement.arrange (← Action.get).rows).find? (·.1 == id))

/-- Lists the records that a query asks for, in the order of their emails. -/
def list (arrangement : Arrangement) (query : UserQuery) : Act (Page User) := do
  let view := (arrangement.arrange (← Action.get).rows).map (·.2)
  let selected := (view.filter (AccountStore.selects query)).mergeSort
    fun a b => decide (a.email ≤ b.email)
  return ⟨⟨selected.length, query.offset, query.limit⟩,
    (window query.offset query.limit selected).map User.redacted⟩

/-- The table as a repository. -/
def repository (arrangement : Arrangement) : Repository RecordTable
  | .save user => save arrangement user
  | .updateUser user => update arrangement user.email ({ · with metadata := user.metadata })
  | .updatePassword email hash => update arrangement email ({ · with password := hash })
  | .byEmail email => byEmail arrangement email
  | .byId id => byId arrangement id
  | .list query => list arrangement query

end RecordTable

/-! ## Searching in any order -/

/-- In all orders of some values the same one is found, if no two of them meet the condition. -/
theorem find?_eq_of_perm {xs ys : List α} (perm : xs.Perm ys) {p : α → Bool}
    (unique : ∀ a ∈ xs, ∀ b ∈ xs, p a = true → p b = true → a = b) :
    xs.find? p = ys.find? p := by
  cases h : xs.find? p with
  | none =>
    rw [eq_comm, List.find?_eq_none]
    exact fun a ha => List.find?_eq_none.mp h a (perm.mem_iff.mpr ha)
  | some a =>
    have ha := List.mem_of_find?_eq_some h
    cases h' : ys.find? p with
    | none => exact absurd (List.find?_some h) (List.find?_eq_none.mp h' a (perm.mem_iff.mp ha))
    | some b =>
      have hb := perm.mem_iff.mpr (List.mem_of_find?_eq_some h')
      rw [unique a ha b hb (List.find?_some h) (List.find?_some h')]

/-! ## What a table shows of a store -/

/-- The records of a store under their ids. -/
def AccountStore.rows (store : AccountStore) : List (String × User) :=
  store.users.map fun u => (u.id, u)

namespace AccountStore

variable {store : AccountStore} {email : String} {f : User → User}

/-- A change under an address changes the rows with this address in place. -/
theorem rows_modifyByEmail (hf : KeepsKeys f) : (store.modifyByEmail email f).rows =
    store.rows.map fun row => if row.2.email = email then (row.1, f row.2) else row := by
  simp only [rows, modifyByEmail, List.map_map]
  refine List.map_congr_left fun u _ => ?_
  by_cases h : u.email = email
  · simp [h, (hf u).1]
  · simp [h]

/-- A change of a record that is not there is no change. -/
theorem update_state : (update email f store).state = store.modifyByEmail email f := by
  rw [update_run]
  split
  · rfl
  · rename_i hnone
    rw [Option.not_isSome_iff_eq_none, byEmail?_eq_none_iff] at hnone
    have hid : store.users.map (fun u => if u.email = email then f u else u) = store.users :=
      (List.map_congr_left fun u hu => if_neg (hnone u hu)).trans (List.map_id _)
    rw [modifyByEmail, hid]

end AccountStore

namespace RecordTable

variable {table : RecordTable} {store : AccountStore}

/-- A table holds the records of a store, each under its id. -/
def Shows (table : RecordTable) (store : AccountStore) : Prop :=
  table.rows.Perm store.rows

/-- Among rows with distinct addresses, to change the first match is to change every match. -/
theorem changeFirst_eq (email : String) (f : User → User) {rows : List (String × User)}
    (nodup : (rows.map (·.2.email)).Nodup) :
    changeFirst email f rows =
      if rows.any (·.2.email == email) = true then
        some (rows.map fun row => if row.2.email = email then (row.1, f row.2) else row)
      else none := by
  induction rows with
  | nil => rfl
  | cons row rows ih =>
    obtain ⟨id, user⟩ := row
    obtain ⟨hnot, hnodup⟩ := List.nodup_cons.mp nodup
    by_cases h : user.email = email
    · -- no other row has this email, so that no other row is changed
      have hrest : rows.map (fun row => if row.2.email = email then (row.1, f row.2) else row) =
          rows := by
        refine (List.map_congr_left fun row hrow => if_neg fun hemail => hnot ?_).trans
          (List.map_id rows)
        exact List.mem_map.mpr ⟨row, hrow, hemail.trans h.symm⟩
      simp [changeFirst, h, hrest]
    · rw [changeFirst, if_neg h, ih hnodup]
      by_cases hany : rows.any (·.2.email == email) = true
      · simp [h, hany]
      · simp [h, hany]

/-- The rows in view are those of the store, in some order. -/
theorem Shows.view (shows : table.Shows store) (arrangement : Arrangement) :
    (arrangement.arrange table.rows).Perm store.rows :=
  (arrangement.perm table.rows).trans shows

/-- In any arrangement, a row has an address exactly when the store finds it. -/
theorem any_email_eq {view : List (String × User)} (perm : view.Perm store.rows) (email : String) :
    view.any (·.2.email == email) = (store.byEmail? email).isSome := by
  rw [perm.any_eq, AccountStore.rows, List.any_map, AccountStore.byEmail?, List.isSome_find?]
  rfl

/-- In any arrangement, a row has an id exactly when the store finds it. -/
theorem any_id_eq {view : List (String × User)} (perm : view.Perm store.rows) (id : String) :
    view.any (·.1 == id) = (store.byId? id).isSome := by
  rw [perm.any_eq, AccountStore.rows, List.any_map, AccountStore.byId?, List.isSome_find?]
  rfl

/-- In any arrangement, the row that is found under an address is the one of the store. -/
theorem find?_email_eq (wf : store.WellFormed) {view : List (String × User)}
    (perm : view.Perm store.rows) (email : String) :
    view.find? (·.2.email == email) = (store.byEmail? email).map fun u => (u.id, u) := by
  rw [find?_eq_of_perm perm, AccountStore.rows, List.find?_map]
  · rfl
  · intro a ha b hb hemail hemail'
    obtain ⟨u, hu, rfl⟩ := List.mem_map.mp (perm.mem_iff.mp ha)
    obtain ⟨v, hv, rfl⟩ := List.mem_map.mp (perm.mem_iff.mp hb)
    rw [wf.eq_of_email hu hv ((beq_iff_eq.mp hemail).trans (beq_iff_eq.mp hemail').symm)]

/-- In any arrangement, the row that is found under an id is the one of the store. -/
theorem find?_id_eq (wf : store.WellFormed) {view : List (String × User)}
    (perm : view.Perm store.rows) (id : String) :
    view.find? (·.1 == id) = (store.byId? id).map fun u => (u.id, u) := by
  rw [find?_eq_of_perm perm, AccountStore.rows, List.find?_map]
  · rfl
  · intro a ha b hb hid hid'
    obtain ⟨u, hu, rfl⟩ := List.mem_map.mp (perm.mem_iff.mp ha)
    obtain ⟨v, hv, rfl⟩ := List.mem_map.mp (perm.mem_iff.mp hb)
    rw [wf.eq_of_id hu hv ((beq_iff_eq.mp hid).trans (beq_iff_eq.mp hid').symm)]

/-- In any arrangement, the addresses of the rows are distinct. -/
theorem nodup_emails (wf : store.WellFormed) {view : List (String × User)}
    (perm : view.Perm store.rows) : (view.map (·.2.email)).Nodup := by
  rw [(perm.map _).nodup_iff, AccountStore.rows, List.map_map]
  exact wf.emails_nodup

/-! ## Requests -/

/-- How a request to a table ends, and what it makes of the table, is what it is for a store. -/
structure Agrees {α : Type} (o : Outcome RecordTable AccountError α)
    (o' : Outcome AccountStore AccountError α) : Prop where
  result : o.result = o'.result
  shows : o.state.Shows o'.state

/-- A row that is the one of the store is answered as by the store. -/
theorem agrees_found (shows : table.Shows store) {row : Option (String × User)}
    {user : Option User} (h : row = user.map fun u => (u.id, u)) :
    Agrees (found row table) (AccountStore.found user store) := by
  subst h
  cases user with
  | none => exact ⟨rfl, shows⟩
  | some user => exact ⟨rfl, shows⟩

/-- Saving answers as the store does, in any arrangement. -/
theorem agrees_save (shows : table.Shows store) (arrangement : Arrangement) (user : User) :
    Agrees (save arrangement user table) (AccountStore.save user store) := by
  have hview := shows.view arrangement
  have hemail := any_email_eq hview user.email
  have hid := any_id_eq hview user.id
  rw [AccountStore.save_run]
  unfold save
  by_cases hempty : user.id = ""
  · rw [if_pos hempty, if_pos hempty]
    exact ⟨rfl, shows⟩
  · simp only [if_neg hempty, Action.bind_run, Action.get_run, hemail, hid]
    by_cases htaken : (store.byEmail? user.email).isSome || (store.byId? user.id).isSome
    · simp only [if_pos htaken, Action.fail_run]
      exact ⟨rfl, shows⟩
    · simp only [if_neg htaken, Action.bind_run, Action.set_run, Action.pure_run]
      refine ⟨rfl, ?_⟩
      -- no row has this key, so that none gives way
      have hnone : (arrangement.arrange table.rows).filter (·.1 != user.id) =
          arrangement.arrange table.rows := by
        rw [List.filter_eq_self]
        intro row hrow
        have hany : (arrangement.arrange table.rows).any (·.1 == user.id) = false := by
          rw [hid]
          grind
        simpa using List.any_eq_false.mp hany row hrow
      rw [Shows, put, hnone, AccountStore.rows, List.map_append]
      exact (hview.cons _).trans (List.perm_append_singleton _ _).symm

/-- Updating answers as the store does, in any arrangement. -/
theorem agrees_update (wf : store.WellFormed) (shows : table.Shows store)
    (arrangement : Arrangement) (email : String) {f : User → User}
    (hf : AccountStore.KeepsKeys f) :
    Agrees (update arrangement email f table) (AccountStore.update email f store) := by
  have hview := shows.view arrangement
  rw [AccountStore.update_run]
  simp only [update, Action.bind_run, Action.get_run, changeFirst_eq email f
    (nodup_emails wf hview), any_email_eq hview email]
  by_cases hthere : (store.byEmail? email).isSome = true
  · rw [if_pos hthere, if_pos hthere]
    refine ⟨rfl, ?_⟩
    rw [Shows, AccountStore.rows_modifyByEmail hf]
    exact hview.map _
  · rw [if_neg hthere, if_neg hthere]
    exact ⟨rfl, shows⟩

/-- Listing answers as the store does, in any arrangement. -/
theorem agrees_list (wf : store.WellFormed) (shows : table.Shows store)
    (arrangement : Arrangement) (query : UserQuery) :
    Agrees (list arrangement query table) (AccountStore.list query store) := by
  have hview : ((arrangement.arrange table.rows).map (·.2)).Perm store.users := by
    simpa [AccountStore.rows, Function.comp_def] using (shows.view arrangement).map (·.2)
  have hnodup : ((store.users.filter (AccountStore.selects query)).map (·.email)).Nodup :=
    wf.emails_nodup.sublist (List.filter_sublist.map _)
  have hsorted := sortedByEmail_eq_of_perm (hview.filter (AccountStore.selects query)) hnodup
  unfold sortedByEmail at hsorted
  refine ⟨?_, shows⟩
  simp only [list, AccountStore.list, AccountStore.page, AccountStore.selected, Action.bind_run,
    Action.get_run, Action.pure_run, hsorted]

/-- A table answers a request as a store with the same records does, and goes on holding the same
records. -/
theorem agrees (wf : store.WellFormed) (shows : table.Shows store) (arrangement : Arrangement)
    (call : RecordCall) :
    Agrees (repository arrangement call table) (AccountStore.repository call store) := by
  cases call with
  | save user => exact agrees_save shows arrangement user
  | updateUser user =>
    exact agrees_update wf shows arrangement user.email (AccountStore.keepsKeys_metadata _)
  | updatePassword email hash =>
    exact agrees_update wf shows arrangement email (AccountStore.keepsKeys_password _)
  | byEmail email =>
    exact agrees_found shows (find?_email_eq wf (shows.view arrangement) email)
  | byId id => exact agrees_found shows (find?_id_eq wf (shows.view arrangement) id)
  | list query => exact agrees_list wf shows arrangement query

/-- A table that was empty at first answers all requests as an empty store does, whatever the orders
in which it shows its rows. -/
theorem agrees_run (calls : List (Arrangement × RecordCall)) :
    Repository.entries repository {} calls =
        Repository.entries (fun _ => AccountStore.repository) {} calls ∧
      (Repository.after (fun _ => AccountStore.repository) {} calls).WellFormed ∧
      (Repository.after repository {} calls).Shows
        (Repository.after (fun _ => AccountStore.repository) {} calls) :=
  Repository.entries_eq_of_step (fun table store => store.WellFormed ∧ table.Shows store)
    (fun arrangement call _ _ ⟨wf, shows⟩ =>
      have step := agrees wf shows arrangement call
      ⟨step.result, wf.repository call, step.shows⟩)
    ⟨AccountStore.wellFormed_empty, .refl _⟩ calls

/-! ## What requests do to a table -/

/-- Every record stands under its own id, no id is empty, and no two records share an id or an
email. -/
structure Keyed (table : RecordTable) : Prop where
  own_id : ∀ row ∈ table.rows, row.1 = row.2.id
  ids_ne : ∀ row ∈ table.rows, row.1 ≠ ""
  ids_nodup : (table.rows.map (·.1)).Nodup
  emails_nodup : (table.rows.map (·.2.email)).Nodup

/-- Saving a record ends as it should, adds this record alone, and changes nothing if it fails. -/
structure Saves (table : RecordTable) (user : User)
    (o : Outcome RecordTable AccountError String) : Prop where
  result : o.result =
    if user.id = "" then .error (.bare .malformedEntity)
    else if ∃ row ∈ table.rows, row.1 = user.id ∨ row.2.email = user.email then
      .error (.bare .conflict)
    else .ok user.id
  stored : ∀ id, o.result = .ok id → o.state.rows.Perm ((user.id, user) :: table.rows)
  kept : ∀ error, o.result = .error error → o.state = table

/-- Changing the record with an email changes no other record, and fails if there is none. -/
structure Changes (table : RecordTable) (email : String) (f : User → User)
    (o : Outcome RecordTable AccountError Unit) : Prop where
  result : o.result =
    if ∃ row ∈ table.rows, row.2.email = email then .ok () else .error (.bare .notFound)
  rows : o.state.rows.Perm
    (table.rows.map fun row => if row.2.email = email then (row.1, f row.2) else row)
  kept : ∀ error, o.result = .error error → o.state = table

/-- A look-up finds the record with a property of which the log tells, and changes nothing. -/
structure Finds (table : RecordTable) (log : List RecordEntry) (p : User → Prop)
    (o : Outcome RecordTable AccountError User) : Prop where
  found : ∀ u, o.result = .ok u ↔ WroteLast log u ∧ p u
  missing : ∀ error, o.result = .error error → error = .bare .notFound
  kept : o.state = table

variable {log : List RecordEntry}

/-- The rows of the table are the users of the store, each under its own id. -/
theorem Shows.mem_iff (shows : table.Shows store) {id : String} {u : User} :
    (id, u) ∈ table.rows ↔ u ∈ store.users ∧ u.id = id := by
  rw [List.Perm.mem_iff shows, AccountStore.rows]
  simp only [List.mem_map, Prod.mk.injEq]
  constructor
  · rintro ⟨v, hv, hid, rfl⟩
    exact ⟨hv, hid⟩
  · rintro ⟨hu, hid⟩
    exact ⟨u, hu, hid, rfl⟩

/-- A table that shows a well-formed store is keyed. -/
theorem Shows.keyed (shows : table.Shows store) (wf : store.WellFormed) : table.Keyed where
  own_id row hrow := (shows.mem_iff.mp hrow).2.symm
  ids_ne row hrow := by
    obtain ⟨hu, hid⟩ := shows.mem_iff.mp hrow
    exact hid ▸ wf.ids_ne row.2 hu
  ids_nodup := by
    rw [(List.Perm.map _ shows).nodup_iff, AccountStore.rows, List.map_map]
    exact wf.ids_nodup
  emails_nodup := nodup_emails wf shows

/-- An id or an address is taken in the store exactly when a row has it. -/
theorem Shows.taken_iff (shows : table.Shows store) (user : User) :
    ((store.byEmail? user.email).isSome || (store.byId? user.id).isSome) = true ↔
      ∃ row ∈ table.rows, row.1 = user.id ∨ row.2.email = user.email := by
  rw [← any_email_eq shows, ← any_id_eq shows, Bool.or_eq_true, List.any_eq_true, List.any_eq_true]
  constructor
  · rintro (⟨row, hrow, h⟩ | ⟨row, hrow, h⟩)
    · exact ⟨row, hrow, .inr (beq_iff_eq.mp h)⟩
    · exact ⟨row, hrow, .inl (beq_iff_eq.mp h)⟩
  · rintro ⟨row, hrow, h | h⟩
    · exact .inr ⟨row, hrow, beq_iff_eq.mpr h⟩
    · exact .inl ⟨row, hrow, beq_iff_eq.mpr h⟩

/-- The store finds an address exactly when a row has it. -/
theorem Shows.there_iff (shows : table.Shows store) (email : String) :
    (store.byEmail? email).isSome = true ↔ ∃ row ∈ table.rows, row.2.email = email := by
  rw [← any_email_eq shows, List.any_eq_true]
  simp only [beq_iff_eq]

/-- A save that fails leaves the table as it was. -/
theorem save_state_of_error {arrangement : Arrangement} {user : User} {error : AccountError}
    (h : (save arrangement user table).result = .error error) :
    (save arrangement user table).state = table := by
  unfold save at h ⊢
  by_cases hempty : user.id = ""
  · rw [if_pos hempty]
    rfl
  · simp only [if_neg hempty, Action.bind_run, Action.get_run] at h ⊢
    split at h
    · rename_i htaken
      simp only [if_pos htaken, Action.fail_run]
    · cases h

/-- An update that fails leaves the table as it was. -/
theorem update_state_of_error {arrangement : Arrangement} {email : String} {f : User → User}
    {error : AccountError} (h : (update arrangement email f table).result = .error error) :
    (update arrangement email f table).state = table := by
  simp only [update, Action.bind_run, Action.get_run] at h ⊢
  cases hchange : changeFirst email f (arrangement.arrange table.rows) with
  | some rows => simp [hchange] at h
  | none => rfl

/-- A save does to the table what is asked of a save. -/
theorem Shows.saves (shows : table.Shows store) (arrangement : Arrangement) (user : User) :
    table.Saves user (save arrangement user table) := by
  have agrees := agrees_save shows arrangement user
  constructor
  case result =>
    rw [agrees.result, AccountStore.save_run]
    simp only [← shows.taken_iff]
    split
    · rfl
    · split <;> rfl
  case stored =>
    intro id h
    have hstate := (AccountStore.save_of_ok (agrees.result.symm.trans h)).2.2.2.2
    refine (hstate ▸ agrees.shows).trans ?_
    rw [AccountStore.rows, List.map_append]
    exact (List.perm_append_singleton _ _).trans ((List.Perm.symm shows).cons _)
  case kept => exact fun error h => save_state_of_error h

/-- An update does to the table what is asked of an update. -/
theorem Shows.changes (shows : table.Shows store) (wf : store.WellFormed)
    (arrangement : Arrangement) (email : String) {f : User → User}
    (hf : AccountStore.KeepsKeys f) :
    table.Changes email f (update arrangement email f table) := by
  have agrees := agrees_update wf shows arrangement email hf
  constructor
  case result =>
    rw [agrees.result, AccountStore.update_run]
    simp only [← shows.there_iff]
    split <;> rfl
  case rows =>
    have hshows := agrees.shows
    rw [AccountStore.update_state, Shows, AccountStore.rows_modifyByEmail hf] at hshows
    exact hshows.trans ((List.Perm.symm shows).map _)
  case kept => exact fun error h => update_state_of_error h

/-- Looking a record up finds what the log tells of. -/
theorem found_finds (told : Told log store) {p : User → Prop} {row : Option (String × User)}
    {user : Option User} (hrow : row = user.map fun u => (u.id, u))
    (huser : ∀ u, user = some u ↔ u ∈ store.users ∧ p u) :
    table.Finds log p (found row table) := by
  subst hrow
  constructor
  case found =>
    intro u
    rw [← told.mem_iff, ← huser]
    cases user <;> simp [found]
  case missing =>
    intro error h
    cases user with
    | none => exact (Except.error.inj h).symm
    | some user => cases h
  case kept => cases user <;> rfl

/-- Behind any requests to a table that was empty at first, in whatever orders it shows its rows,
* the requests ended as those to an `AccountStore` do;
* every record stands under its own id, no id is empty, and no two records share an id or an email;
* the table holds what the log tells of: records as they were saved, with the metadata and the
  password that were written last;
* the next request does what it should to the records that the log tells of, in whatever order the
  table shows its rows then. -/
theorem accounts_kept (calls : List (Arrangement × RecordCall)) :
    let log := Repository.entries repository {} calls
    let table := Repository.after repository {} calls
    log = Repository.entries (fun _ => AccountStore.repository) {} calls ∧
      table.Keyed ∧
      (∀ id u, (id, u) ∈ table.rows ↔ WroteLast log u ∧ u.id = id) ∧
      ∀ arrangement,
        (∀ user, table.Saves user (repository arrangement (.save user) table)) ∧
        (∀ user, table.Changes user.email ({ · with metadata := user.metadata })
          (repository arrangement (.updateUser user) table)) ∧
        (∀ email hash, table.Changes email ({ · with password := hash })
          (repository arrangement (.updatePassword email hash) table)) ∧
        (∀ email, table.Finds log (·.email = email)
          (repository arrangement (.byEmail email) table)) ∧
        ∀ id, table.Finds log (·.id = id) (repository arrangement (.byId id) table) := by
  intro log table
  obtain ⟨hlog, wf, shows⟩ := agrees_run calls
  have told := told_empty.run calls
  rw [List.nil_append, ← hlog] at told
  refine ⟨hlog, shows.keyed wf, fun id u => ?_, fun arrangement => ⟨?_, ?_, ?_, ?_, ?_⟩⟩
  · rw [← told.mem_iff]
    exact shows.mem_iff
  · exact fun user => shows.saves arrangement user
  · intro user
    exact shows.changes wf arrangement user.email (AccountStore.keepsKeys_metadata _)
  · intro email hash
    exact shows.changes wf arrangement email (AccountStore.keepsKeys_password _)
  · intro email
    exact found_finds told (find?_email_eq wf (shows.view arrangement) email)
      fun u => wf.byEmail?_eq_some_iff
  · intro id
    exact found_finds told (find?_id_eq wf (shows.view arrangement) id)
      fun u => wf.byId?_eq_some_iff

end RecordTable

end AccessControl
