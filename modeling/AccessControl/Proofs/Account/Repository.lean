import AccessControl.Proofs.Account.Provenance

/-!
# Requests to a repository of user records

A `RecordCall` is one request to a repository, and a `Repository` says how it is answered. Requests
are put one after the other (`Repository.after`, `Repository.entries`).

What a log of requests and their endings wrote last of an account is a record (`WroteLast`): the one
that was saved, with the metadata and the password that were written last for its email. The store
holds exactly these records (`Told.mem_iff`).
-/

namespace AccessControl

variable {α ρ ρ' ω : Type}

/-- One request to a repository of user records. -/
inductive RecordCall where
  | save (user : User)
  | updateUser (user : User)
  | updatePassword (email hash : String)
  | byEmail (email : String)
  | byId (id : String)
  | list (query : UserQuery)

/-- What a request is answered with. -/
@[reducible] def RecordCall.Answer : RecordCall → Type
  | save _ => String
  | updateUser _ => Unit
  | updatePassword .. => Unit
  | byEmail _ => User
  | byId _ => User
  | list _ => Page User

/-- A repository with a state `ρ`. -/
abbrev Repository (ρ : Type) : Type :=
  (call : RecordCall) → Action ρ AccountError call.Answer

/-- A request, and how it ended. -/
structure RecordEntry where
  call : RecordCall
  ending : Except AccountError call.Answer

namespace Repository

/-- The repository behind some requests, each of which finds it shown in its own way. -/
def after (shown : α → Repository ρ) (r : ρ) (calls : List (α × RecordCall)) : ρ :=
  calls.foldl (fun r call => (shown call.1 call.2 r).state) r

/-- The requests with their endings. -/
def entries (shown : α → Repository ρ) (r : ρ) : List (α × RecordCall) → List RecordEntry
  | [] => []
  | (a, call) :: calls =>
    ⟨call, (shown a call r).result⟩ :: entries shown (shown a call r).state calls

/-- Two repositories that answer each request alike from states that are related, and stay related,
answer all requests alike. -/
theorem entries_eq_of_step {shown : α → Repository ρ} {shown' : α → Repository ρ'}
    (related : ρ → ρ' → Prop)
    (step : ∀ a call r r', related r r' →
      (shown a call r).result = (shown' a call r').result ∧
        related (shown a call r).state (shown' a call r').state)
    {r : ρ} {r' : ρ'} (h : related r r') (calls : List (α × RecordCall)) :
    entries shown r calls = entries shown' r' calls ∧
      related (after shown r calls) (after shown' r' calls) := by
  induction calls generalizing r r' with
  | nil => exact ⟨rfl, h⟩
  | cons c calls ih =>
    obtain ⟨a, call⟩ := c
    obtain ⟨hresult, hstate⟩ := step a call r r' h
    obtain ⟨hentries, hafter⟩ := ih hstate
    refine ⟨?_, hafter⟩
    rw [entries, entries, hresult, hentries]

/-- The request to a repository that a call is, as far as it is one. -/
def onCall? (repository : Repository ρ) :
    (call : BackingCall) → Option (Action ρ call.Failure call.Answer)
  | .save user => some (repository (.save user))
  | .updateUser user => some (repository (.updateUser user))
  | .byEmail email => some (repository (.byEmail email))
  | .byId id => some (repository (.byId id))
  | .list query => some (repository (.list query))
  | .updatePassword email hash => some (repository (.updatePassword email hash))
  | _ => none

/-- The repository takes the calls that belong to it, and `others` stands behind all other calls. -/
def inFrontOf (repository : Repository ρ) (others : Backing ω) : Backing (ρ × ω) := fun call =>
  match repository.onCall? call with
  | some action => Action.zoom Prod.fst (fun s r => (r, s.2)) action
  | none => Action.zoom Prod.snd (fun s other => (s.1, other)) (others call)

end Repository

/-- The store of records as a repository. -/
def AccountStore.repository : Repository AccountStore
  | .save user => save user
  | .updateUser user => updateUser user
  | .updatePassword email hash => updatePassword email hash
  | .byEmail email => byEmail email
  | .byId id => byId id
  | .list query => list query

/-- The repository in memory is the store that stands in front. -/
theorem AccountStore.repository_inFrontOf (others : Backing ω) :
    AccountStore.repository.inFrontOf others = AccountStore.inFrontOf others := by
  funext call
  cases call <;> rfl

/-! ## What a log wrote -/

namespace RecordEntry

/-- The metadata that a request wrote into the record of an email. -/
def metadata? (email : String) : RecordEntry → Option Metadata
  | ⟨.save user, .ok _⟩ => if user.email = email then some user.metadata else none
  | ⟨.updateUser user, .ok _⟩ => if user.email = email then some user.metadata else none
  | _ => none

/-- The password that a request wrote into the record of an email. -/
def password? (email : String) : RecordEntry → Option String
  | ⟨.save user, .ok _⟩ => if user.email = email then some user.password else none
  | ⟨.updatePassword written hash, .ok _⟩ => if written = email then some hash else none
  | _ => none

/-- The record that a request stored. -/
def saved? : RecordEntry → Option User
  | ⟨.save user, .ok _⟩ => some user
  | _ => none

end RecordEntry

/-- The last of what the requests of a log wrote. -/
def lastWritten {β : Type} (written? : RecordEntry → Option β) (log : List RecordEntry) :
    Option β :=
  (log.filterMap written?).getLast?

/-- The last value written is that of the last entry, or else the one before. -/
theorem lastWritten_snoc {β : Type} (written? : RecordEntry → Option β) (log : List RecordEntry)
    (entry : RecordEntry) : lastWritten written? (log ++ [entry]) =
      (written? entry).or (lastWritten written? log) := by
  rw [lastWritten, List.filterMap_append, List.getLast?_append]
  cases h : written? entry <;> simp [h, lastWritten]

/-- The record is what a log wrote last: it was saved with this id and this email, and its metadata
and its password are the last ones that were written for its email. -/
structure WroteLast (log : List RecordEntry) (u : User) : Prop where
  saved : ∃ v ∈ log.filterMap RecordEntry.saved?, v.id = u.id ∧ v.email = u.email
  metadata : lastWritten (RecordEntry.metadata? u.email) log = some u.metadata
  password : lastWritten (RecordEntry.password? u.email) log = some u.password

/-- The records of a store are what a log wrote last, and the store holds what was saved. -/
structure Told (log : List RecordEntry) (store : AccountStore) : Prop where
  told : ∀ u ∈ store.users, WroteLast log u
  kept : ∀ v ∈ log.filterMap RecordEntry.saved?, (v.id, v.email) ∈ store.keys

variable {log : List RecordEntry} {store : AccountStore} {u v : User} {entry : RecordEntry}

theorem told_empty : Told [] {} where
  told _ hu := absurd hu List.not_mem_nil
  kept _ hv := absurd hv List.not_mem_nil

/-- Of two records with one id and one email a log wrote at most one last. -/
theorem WroteLast.eq (wrote : WroteLast log u) (wrote' : WroteLast log v) (hid : v.id = u.id)
    (hemail : v.email = u.email) : v = u := by
  have hmetadata : v.metadata = u.metadata :=
    Option.some.inj (wrote'.metadata.symm.trans (hemail ▸ wrote.metadata))
  have hpassword : v.password = u.password :=
    Option.some.inj (wrote'.password.symm.trans (hemail ▸ wrote.password))
  cases u
  cases v
  simp_all

/-- A store holds exactly the records that its log wrote last. -/
theorem Told.mem_iff (told : Told log store) : u ∈ store.users ↔ WroteLast log u := by
  refine ⟨told.told u, fun wrote => ?_⟩
  obtain ⟨w, hw, hid, hemail⟩ := wrote.saved
  obtain ⟨v, hv, hvid, hvemail⟩ := AccountStore.mem_keys_iff.mp (told.kept w hw)
  have heq : v = u := wrote.eq (told.told v hv) (hvid.trans hid) (hvemail.trans hemail)
  exact heq ▸ hv

/-! ## What a request adds to the log -/

/-- A log with one more entry wrote last what this entry writes, and the rest as before. -/
theorem WroteLast.snoc (wrote : WroteLast log v) (hid : v.id = u.id) (hemail : v.email = u.email)
    (hmetadata : (entry.metadata? u.email).or (some v.metadata) = some u.metadata)
    (hpassword : (entry.password? u.email).or (some v.password) = some u.password) :
    WroteLast (log ++ [entry]) u where
  saved := by
    obtain ⟨w, hw, hwid, hwemail⟩ := wrote.saved
    refine ⟨w, ?_, hwid.trans hid, hwemail.trans hemail⟩
    rw [List.filterMap_append]
    exact List.mem_append_left _ hw
  metadata := by
    rw [lastWritten_snoc, ← hemail, wrote.metadata, hemail]
    exact hmetadata
  password := by
    rw [lastWritten_snoc, ← hemail, wrote.password, hemail]
    exact hpassword

/-- A request that wrote nothing adds nothing to what a log wrote. -/
theorem Told.snoc_silent (told : Told log store) (hsaved : entry.saved? = none)
    (hmetadata : ∀ email, entry.metadata? email = none)
    (hpassword : ∀ email, entry.password? email = none) : Told (log ++ [entry]) store where
  told u hu := (told.told u hu).snoc rfl rfl (by rw [hmetadata]; rfl) (by rw [hpassword]; rfl)
  kept v hv := by
    rw [List.filterMap_append] at hv
    exact told.kept v (by simpa [hsaved] using hv)

/-- A record that is saved is what the log wrote of it, and of no other record. -/
theorem Told.snoc_saved (told : Told log store) (hemail : store.byEmail? v.email = none)
    (id : String) : Told (log ++ [⟨.save v, .ok id⟩]) ⟨store.users ++ [v]⟩ where
  told u hu := by
    rcases List.mem_append.mp hu with hold | hnew
    · have hne : v.email ≠ u.email :=
        fun h => AccountStore.byEmail?_eq_none_iff.mp hemail u hold h.symm
      refine (told.told u hold).snoc rfl rfl ?_ ?_
      · rw [RecordEntry.metadata?, if_neg hne]
        rfl
      · rw [RecordEntry.password?, if_neg hne]
        rfl
    · obtain rfl := List.mem_singleton.mp hnew
      refine ⟨⟨u, ?_, rfl, rfl⟩, ?_, ?_⟩
      · simp [RecordEntry.saved?]
      · rw [lastWritten_snoc, RecordEntry.metadata?, if_pos rfl]
        rfl
      · rw [lastWritten_snoc, RecordEntry.password?, if_pos rfl]
        rfl
  kept w hw := by
    rw [AccountStore.keys_append]
    rw [List.filterMap_append] at hw
    rcases List.mem_append.mp hw with hold | hnew
    · exact List.mem_append_left _ (told.kept w hold)
    · obtain rfl : w = v := by simpa [RecordEntry.saved?] using hnew
      exact List.mem_append_right _ (List.mem_singleton_self _)

/-- A change of one record is told, if the entry says what the change makes of the record and
nothing of other records. -/
theorem Told.snoc_changed (told : Told log store) {email : String} {f : User → User}
    (hf : AccountStore.KeepsKeys f) (hsaved : entry.saved? = none)
    (hother : ∀ u : User, u.email ≠ email →
      entry.metadata? u.email = none ∧ entry.password? u.email = none)
    (hmetadata : ∀ u : User, (entry.metadata? email).or (some u.metadata) = some (f u).metadata)
    (hpassword : ∀ u : User, (entry.password? email).or (some u.password) = some (f u).password) :
    Told (log ++ [entry]) (store.modifyByEmail email f) where
  told u hu := by
    obtain ⟨v, hv, rfl⟩ := List.mem_map.mp hu
    by_cases h : v.email = email
    · obtain rfl := h
      rw [if_pos rfl]
      obtain ⟨hid, hemail⟩ := hf v
      refine (told.told v hv).snoc hid.symm hemail.symm ?_ ?_
      · rw [hemail]
        exact hmetadata v
      · rw [hemail]
        exact hpassword v
    · rw [if_neg h]
      obtain ⟨hm, hp⟩ := hother v h
      exact (told.told v hv).snoc rfl rfl (by rw [hm]; rfl) (by rw [hp]; rfl)
  kept v hv := by
    rw [AccountStore.keys_modifyByEmail hf]
    rw [List.filterMap_append] at hv
    exact told.kept v (by simpa [hsaved] using hv)

/-- A request to a store is told. -/
theorem Told.step (told : Told log store) (call : RecordCall) :
    Told (log ++ [⟨call, (AccountStore.repository call store).result⟩])
      (AccountStore.repository call store).state := by
  cases call with
  | save user =>
    rw [AccountStore.repository]
    cases h : (AccountStore.save user store).result with
    | ok id =>
      obtain ⟨_, _, hemail, _, hstate⟩ := AccountStore.save_of_ok h
      rw [hstate]
      exact told.snoc_saved hemail id
    | error error =>
      rw [AccountStore.save_state_of_error h]
      exact told.snoc_silent rfl (fun _ => rfl) (fun _ => rfl)
  | updateUser user =>
    rw [AccountStore.repository, AccountStore.updateUser]
    cases h : (AccountStore.update user.email _ store).result with
    | ok x =>
      rw [(AccountStore.update_of_ok h).2]
      refine told.snoc_changed (AccountStore.keepsKeys_metadata _) rfl ?_ ?_ (fun _ => rfl)
      · exact fun u hu => ⟨if_neg (Ne.symm hu), rfl⟩
      · intro u
        rw [RecordEntry.metadata?, if_pos rfl]
        rfl
    | error error =>
      rw [AccountStore.update_state_of_error h]
      exact told.snoc_silent rfl (fun _ => rfl) (fun _ => rfl)
  | updatePassword email hash =>
    rw [AccountStore.repository, AccountStore.updatePassword]
    cases h : (AccountStore.update email _ store).result with
    | ok x =>
      rw [(AccountStore.update_of_ok h).2]
      refine told.snoc_changed (AccountStore.keepsKeys_password _) rfl ?_ (fun _ => rfl) ?_
      · exact fun u hu => ⟨rfl, if_neg (Ne.symm hu)⟩
      · intro u
        rw [RecordEntry.password?, if_pos rfl]
        rfl
    | error error =>
      rw [AccountStore.update_state_of_error h]
      exact told.snoc_silent rfl (fun _ => rfl) (fun _ => rfl)
  | byEmail email =>
    rw [AccountStore.repository, AccountStore.byEmail_run]
    exact told.snoc_silent rfl (fun _ => rfl) (fun _ => rfl)
  | byId id =>
    rw [AccountStore.repository, AccountStore.byId_run]
    exact told.snoc_silent rfl (fun _ => rfl) (fun _ => rfl)
  | list query => exact told.snoc_silent rfl (fun _ => rfl) (fun _ => rfl)

/-- All requests to a store are told. -/
theorem Told.run (told : Told log store) (calls : List (α × RecordCall)) :
    Told (log ++ Repository.entries (fun _ => AccountStore.repository) store calls)
      (Repository.after (fun _ => AccountStore.repository) store calls) := by
  induction calls generalizing log store with
  | nil =>
    rw [Repository.entries, List.append_nil]
    exact told
  | cons c calls ih =>
    rw [Repository.entries, List.append_cons]
    exact ih (told.step c.2)

/-! ## What a request keeps -/

/-- A request keeps a store well-formed. -/
theorem AccountStore.WellFormed.repository (wf : store.WellFormed) (call : RecordCall) :
    (AccountStore.repository call store).state.WellFormed := by
  have hupdate {email : String} {f : User → User} (hf : KeepsKeys f) :
      (update email f store).state.WellFormed := by
    rw [update_run]
    split
    · exact wf.modifyByEmail hf
    · exact wf
  cases call with
  | save user => exact wf.save user
  | updateUser user => exact hupdate (keepsKeys_metadata _)
  | updatePassword email hash => exact hupdate (keepsKeys_password _)
  | byEmail email =>
    rw [AccountStore.repository, byEmail_run]
    exact wf
  | byId id =>
    rw [AccountStore.repository, byId_run]
    exact wf
  | list query => exact wf

end AccessControl
