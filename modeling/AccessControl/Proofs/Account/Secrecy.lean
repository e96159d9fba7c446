import AccessControl.Proofs.Account.Conditions
import AccessControl.Proofs.Account.Credentials
import AccessControl.Proofs.Account.Redaction

/-!
# Passwords do not show

Two runs of requests that are the same up to passwords, in worlds that are the same up to the
passwords of the stored records, are told apart by nothing but what the hasher says: as long as it
makes a hash in both runs or in none, and confirms a password in both or in none, all answers,
events and mails are the same, and so is what becomes of the worlds, up to stored passwords
(`Deployment.passwords_do_not_show`). Runs of requests that spare the hasher are never told apart.

The two runs need not have the same hasher. Each hasher has a state of its own, apart from that of
the mailer and the ids: if a hash drew from the source of ids, the next id would show how many were
made.
-/

namespace AccessControl

open AccessControl.Calendar

variable {α β σ τ ω η θ : Type}

/-! ## Two runs of alike scripts -/

/-- Whether the hasher did what it was asked for, if the call went to it. -/
def Exchange.verdict? : Exchange → Option Bool
  | ⟨.hash _, ending⟩ => some ending.isOk
  | ⟨.compare .., ending⟩ => some ending.isOk
  | _ => none

/-- If both calls went to the hasher, it did what it was asked for in both or in none. -/
def Exchange.Concur (e e' : Exchange) : Prop :=
  ∀ verdict verdict', e.verdict? = some verdict → e'.verdict? = some verdict' → verdict = verdict'

instance (e e' : Exchange) : Decidable (e.Concur e') :=
  inferInstanceAs (Decidable (∀ _ _ : Bool, _ → _ → _))

/-- Call by call the hasher does what it is asked for in both runs or in none, as far as both go. -/
def Concurring (calls calls' : List Exchange) : Prop :=
  ∀ p ∈ calls.zip calls', p.1.Concur p.2

instance (calls calls' : List Exchange) : Decidable (Concurring calls calls') :=
  inferInstanceAs (Decidable (∀ p ∈ calls.zip calls', p.1.Concur p.2))

/-- Courses of calls concur when their first calls and the others do. -/
theorem concurring_cons {e e' : Exchange} {calls calls' : List Exchange} :
    Concurring (e :: calls) (e' :: calls') ↔ e.Concur e' ∧ Concurring calls calls' := by
  simp only [Concurring, List.zip_cons_cons, List.forall_mem_cons]

/-- The beginnings of runs that concur do so. -/
theorem Concurring.of_append {calls calls' later later' : List Exchange}
    (concurring : Concurring (calls ++ later) (calls' ++ later')) : Concurring calls calls' := by
  induction calls generalizing calls' with
  | nil => simp [Concurring]
  | cons e calls ih =>
    cases calls' with
    | nil => simp [Concurring]
    | cons e' calls' =>
      obtain ⟨concur, rest⟩ := concurring_cons.mp concurring
      exact concurring_cons.mpr ⟨concur, ih rest⟩

/-- So do their continuations behind beginnings of the same length. -/
theorem Concurring.of_append_right {calls calls' later later' : List Exchange}
    (concurring : Concurring (calls ++ later) (calls' ++ later'))
    (length : calls.length = calls'.length) : Concurring later later' := by
  intro p hp
  refine concurring p ?_
  rw [List.zip_append length]
  exact List.mem_append_right _ hp

/-- From related states, alike calls of some kind end alike and lead to related states, if the
hasher does what it is asked for in both or in none. -/
def Backing.Matches (p : BackingCall → Prop) (backing : Backing σ) (backing' : Backing τ)
    (S : σ → τ → Prop) : Prop :=
  ∀ call call', p call → call.Alike call' → ∀ s s', S s s' →
    Exchange.Concur ⟨call, (backing call s).result⟩ ⟨call', (backing' call' s').result⟩ →
    Exchange.Alike ⟨call, (backing call s).result⟩ ⟨call', (backing' call' s').result⟩ ∧
      (backing call s).events = (backing' call' s').events ∧
      S (backing call s).state (backing' call' s').state

/-- Nothing but a clock: no call fails instead of being made. -/
def Conditions.timed (clock : Nat → Timestamp) : Conditions :=
  ⟨clock, fun _ _ => none⟩

section Matches

variable {p : BackingCall → Prop} {backing : Backing σ} {backing' : Backing τ} {S : σ → τ → Prop}
  {s : σ} {s' : τ}

/-- Alike scripts run alike on backings that match. -/
theorem Script.Alike.run {R : α → β → Prop} {script : Script α} {script' : Script β}
    (alike : Alike R script script') (matched : Backing.Matches p backing backing' S)
    (only : script.Only p) (related : S s s')
    (concurring : Concurring (script.calls backing s) (script'.calls backing' s')) :
    EndsAlike R (script.run backing s).result (script'.run backing' s').result ∧
      (script.run backing s).events = (script'.run backing' s').events ∧
      S (script.run backing s).state (script'.run backing' s').state ∧
      List.Forall₂ Exchange.Alike (script.calls backing s) (script'.calls backing' s') := by
  induction alike generalizing s s' with
  | answer related' => exact ⟨.ok related', rfl, related, .nil⟩
  | fail kind => exact ⟨.error kind, rfl, related, .nil⟩
  | emit event _ ih =>
    obtain ⟨hresult, hevents, hstate, hcalls⟩ := ih only related concurring
    simp only [Script.run, Action.bind_run, Action.emit_run]
    exact ⟨hresult, congrArg _ hevents, hstate, hcalls⟩
  | call asked _ ih =>
    -- alike calls that end alike lead to alike scripts, so the next calls are at the same place too
    obtain ⟨concur, rest⟩ := concurring_cons.mp concurring
    obtain ⟨hending, hevent, hafter⟩ := matched _ _ only.1 asked s s' related concur
    obtain ⟨hresult, hevents, hstate, hcalls⟩ := ih _ _ hending (only.2 _) hafter rest
    simp only [Script.run, Action.bind_run, Action.attempt_run]
    exact ⟨hresult, congrArg₂ _ hevent hevents, hstate, .cons hending hcalls⟩

/-- Backings that match also match at work under the same clock. -/
theorem Backing.Matches.under (matched : Backing.Matches p backing backing' S)
    (set : σ → Timestamp → σ) (set' : τ → Timestamp → τ)
    (hset : ∀ s s' now, S s s' → S (set s now) (set' s' now)) (clock : Nat → Timestamp) :
    Backing.Matches p (backing.under set (.timed clock)) (backing'.under set' (.timed clock))
      fun s s' => S s.1 s'.1 ∧ s.2 = s'.2 := by
  rintro call call' hp asked ⟨s, n⟩ ⟨s', _⟩ ⟨related, rfl⟩ concur
  obtain ⟨hending, hevents, hstate⟩ :=
    matched call call' hp asked _ _ (hset s s' (clock n) related) concur
  exact ⟨hending, hevents, hstate, rfl⟩

end Matches

/-! ## What is seen of requests -/

/-- A mail for a password reset. -/
structure Mail where
  recipients : List String
  host : String
  token : String

/-- The mail that a call sent. -/
def Exchange.mail? : Exchange → Option Mail
  | ⟨.sendReset recipients host token, .ok _⟩ => some ⟨recipients, host, token⟩
  | _ => none

/-- Exchanges that are alike send the same mail. -/
theorem Exchange.Alike.mail?_eq {e e' : Exchange} (alike : e.Alike e') : e.mail? = e'.mail? := by
  cases alike <;> rfl

/-- Alike exchanges send the same mails. -/
theorem mails_eq {calls calls' : List Exchange} (alike : List.Forall₂ Exchange.Alike calls calls') :
    calls.filterMap Exchange.mail? = calls'.filterMap Exchange.mail? := by
  induction alike with
  | nil => rfl
  | cons head _ ih => rw [List.filterMap_cons, List.filterMap_cons, head.mail?_eq, ih]

/-- What is seen of a request: what it answers, or the kind and the message of its failure; the
events, and the mails. -/
structure Observed where
  result : Except (ErrorKind × String) ServiceCall.Reply
  events : List Event
  mails : List Mail

/-- Failures of the same kind have the same message. -/
theorem EndsAlike.shown_eq {γ : Type} {f : α → γ} {g : β → γ} {result : Except AccountError α}
    {result' : Except AccountError β} (alike : EndsAlike (fun x y => f x = g y) result result') :
    ((result.map f).mapError fun error => (error.kind, error.message)) =
      (result'.map g).mapError fun error => (error.kind, error.message) := by
  cases alike with
  | ok related => exact congrArg Except.ok related
  | error kind =>
    simp only [Except.map, Except.mapError, AccountError.message, kind]

namespace AccountService

/-- What is seen of a request that is served. -/
def observed (service : AccountService σ) (request : ServiceCall) (s : σ) : Observed :=
  let o := service.serve request s
  ⟨(o.result.map request.reply).mapError fun error => (error.kind, error.message), o.events,
    (service.exchanges request s).filterMap Exchange.mail?⟩

/-- What is seen of requests that are served one after the other. -/
def observedAll (service : AccountService σ) : List ServiceCall → σ → List Observed
  | [], _ => []
  | request :: requests, s =>
    service.observed request s :: service.observedAll requests (service.serve request s).state

/-- The calls of requests that are served one after the other. -/
def exchangesAll (service : AccountService σ) : List ServiceCall → σ → List Exchange
  | [], _ => []
  | request :: requests, s =>
    service.exchanges request s ++ service.exchangesAll requests (service.serve request s).state

variable {p : BackingCall → Prop} {backing : Backing σ} {backing' : Backing τ} {S : σ → τ → Prop}
  {accepts : String → Bool} {s : σ} {s' : τ}

/-- A request and one that is alike show the same, as long as the hasher does what it is asked for
in both or in none. -/
theorem serve_alike (matched : Backing.Matches p backing backing' S) (related : S s s')
    {request request' : ServiceCall} (alike : request.Alike accepts request')
    (only : (request.script accepts).Only p)
    (concurring : Concurring (exchanges ⟨backing, accepts⟩ request s)
      (exchanges ⟨backing', accepts⟩ request' s')) :
    observed ⟨backing, accepts⟩ request s = observed ⟨backing', accepts⟩ request' s' ∧
      S (serve ⟨backing, accepts⟩ request s).state (serve ⟨backing', accepts⟩ request' s').state ∧
      (exchanges ⟨backing, accepts⟩ request s).length =
        (exchanges ⟨backing', accepts⟩ request' s').length := by
  rw [exchanges_eq_calls, exchanges_eq_calls] at concurring
  obtain ⟨hresult, hevents, hstate, hcalls⟩ := alike.script.run matched only related concurring
  rw [exchanges_eq_calls, exchanges_eq_calls]
  refine ⟨?_, hstate, hcalls.length_eq⟩
  simp only [observed, exchanges_eq_calls, Observed.mk.injEq]
  exact ⟨hresult.shown_eq, hevents, mails_eq hcalls⟩

/-- So do runs of requests. -/
theorem serveAll_alike (matched : Backing.Matches p backing backing' S)
    {requests requests' : List ServiceCall}
    (alike : List.Forall₂ (ServiceCall.Alike accepts) requests requests')
    (only : ∀ request ∈ requests, (request.script accepts).Only p)
    (concurring : Concurring (exchangesAll ⟨backing, accepts⟩ requests s)
      (exchangesAll ⟨backing', accepts⟩ requests' s')) (related : S s s') :
    observedAll ⟨backing, accepts⟩ requests s = observedAll ⟨backing', accepts⟩ requests' s' ∧
      S (serveAll ⟨backing, accepts⟩ s requests) (serveAll ⟨backing', accepts⟩ s' requests') := by
  induction alike generalizing s s' with
  | nil => exact ⟨rfl, related⟩
  | cons head _ ih =>
    obtain ⟨only, onlyRest⟩ := List.forall_mem_cons.mp only
    obtain ⟨hobserved, hstate, hlength⟩ :=
      serve_alike matched related head only concurring.of_append
    obtain ⟨hrest, hlast⟩ := ih onlyRest (concurring.of_append_right hlength) hstate
    refine ⟨?_, hlast⟩
    rw [observedAll, observedAll, hobserved, hrest]

end AccountService

/-! ## Requests that spare the hasher -/

/-- The call does not go to the hasher. -/
def BackingCall.SparesHasher : BackingCall → Prop
  | hash _ | compare .. => False
  | _ => True

/-- Serving the request involves no password and no hash. -/
def ServiceCall.SparesHasher : ServiceCall → Prop
  | register .. | login _ | resetPassword .. | changePassword .. => False
  | _ => True

/-- A call that spares the hasher has no verdict of it. -/
theorem BackingCall.SparesHasher.verdict?_eq {call : BackingCall} (spares : call.SparesHasher)
    (ending : Except call.Failure call.Answer) : (Exchange.mk call ending).verdict? = none := by
  cases call <;> first | rfl | exact absurd spares id

/-- A request that spares the hasher makes only calls that do. -/
theorem ServiceCall.SparesHasher.only {request : ServiceCall} (spares : request.SparesHasher)
    (accepts : String → Bool) : (request.script accepts).Only BackingCall.SparesHasher := by
  apply (request.script_only accepts).mono
  intro call may
  cases request with
  | register | login | resetPassword | changePassword => exact absurd spares id
  | _ => cases call <;> trivial

/-- A run of requests that spare the hasher concurs with every other. -/
theorem AccountService.concurring_of_spares {service : AccountService σ}
    {requests : List ServiceCall} (spares : ∀ request ∈ requests, request.SparesHasher) (s : σ)
    (calls' : List Exchange) : Concurring (service.exchangesAll requests s) calls' := by
  have quiet : ∀ e ∈ service.exchangesAll requests s, e.verdict? = none := by
    induction requests generalizing s with
    | nil => simp [exchangesAll]
    | cons request requests ih =>
      obtain ⟨head, rest⟩ := List.forall_mem_cons.mp spares
      intro e he
      rcases List.mem_append.mp he with he | he
      · exact (exchanges_only (head.only service.accepts) e he).verdict?_eq e.ending
      · exact ih rest _ e he
  rintro ⟨e, e'⟩ hp verdict verdict' hverdict _
  rw [quiet e (List.of_mem_zip hp).1] at hverdict
  cases hverdict

/-! ## Deployments -/

/-- Two hashers that both do what they are asked for, or both do not, emit the same events. Hashers
that emit nothing show alike. -/
structure Hasher.ShowAlike (hasher : Hasher η) (hasher' : Hasher θ) : Prop where
  hash : ∀ password password' h h',
    (hasher.hash password h).result.isOk = (hasher'.hash password' h').result.isOk →
      (hasher.hash password h).events = (hasher'.hash password' h').events
  compare : ∀ password password' made made' h h',
    (hasher.compare password made h).result.isOk =
        (hasher'.compare password' made' h').result.isOk →
      (hasher.compare password made h).events = (hasher'.compare password' made' h').events

/-- The hasher of rehearsals emits nothing. -/
theorem plainHasher_showAlike (η θ : Type) : (plainHasher η).ShowAlike (plainHasher θ) := by
  have quiet {ω : Type} (password made : String) (o : ω) :
      ((plainHasher ω).compare password made o).events = [] := by
    simp only [plainHasher]
    split_ifs <;> rfl
  exact ⟨fun _ _ _ _ _ => rfl, fun _ _ _ _ _ _ _ => (quiet _ _ _).trans (quiet _ _ _).symm⟩

/-- A deployment whose hasher has a state of its own, beside that of the mailer and the ids. -/
def Deployment.withHasher (identity : LocalIdentity α) (mailer : Mailer ω) (ids : IdSource ω)
    (accepts : String → Bool) (hasher : Hasher η) : Deployment α (ω × η) where
  identity := identity
  hasher :=
    { hash := fun password => Action.zoom Prod.snd (fun o h => (o.1, h)) (hasher.hash password)
      compare := fun password made =>
        Action.zoom Prod.snd (fun o h => (o.1, h)) (hasher.compare password made) }
  mailer := ⟨fun recipients host token =>
    Action.zoom Prod.fst (fun o m => (m, o.2)) (mailer.sendReset recipients host token)⟩
  ids := ⟨Action.zoom Prod.fst (fun o m => (m, o.2)) ids.fresh⟩
  accepts := accepts

/-- The worlds are the same up to the passwords of the stored records, and to the hasher. -/
structure World.Alike (w : World α (ω × η)) (w' : World α (ω × θ)) : Prop where
  identity : w.identity = w'.identity
  accounts : w.accounts.Alike w'.accounts
  outside : w.outside.1 = w'.outside.1

/-- The hasher's endings are alike if it did what it was asked for in both or in none. -/
theorem Exchange.alike_hash {password password' : String} {ending ending' : Except HashError String}
    (concur : Exchange.Concur ⟨.hash password, ending⟩ ⟨.hash password', ending'⟩) :
    Exchange.Alike ⟨.hash password, ending⟩ ⟨.hash password', ending'⟩ := by
  have same : ending.isOk = ending'.isOk := concur _ _ rfl rfl
  cases ending with
  | error failure =>
    cases ending' with
    | error failure' => exact .unhashed password password' failure failure'
    | ok made' => cases same
  | ok made =>
    cases ending' with
    | error failure' => cases same
    | ok made' => exact .hashed password password' made made'

/-- Comparisons whose verdicts concur are alike. -/
theorem Exchange.alike_compare {password password' made made' : String}
    {ending ending' : Except HashError Unit}
    (concur :
      Exchange.Concur ⟨.compare password made, ending⟩ ⟨.compare password' made', ending'⟩) :
    Exchange.Alike ⟨.compare password made, ending⟩ ⟨.compare password' made', ending'⟩ := by
  have same : ending.isOk = ending'.isOk := concur _ _ rfl rfl
  cases ending with
  | error failure =>
    cases ending' with
    | error failure' => exact .unconfirmed password password' made made' failure failure'
    | ok _ => cases same
  | ok _ =>
    cases ending' with
    | error failure' => cases same
    | ok _ => exact .confirmed password password' made made'

namespace Deployment

variable {identity : LocalIdentity α} {mailer : Mailer ω} {ids : IdSource ω}
  {accepts : String → Bool} {hasher : Hasher η} {hasher' : Hasher θ}

/-- What alike calls come to in alike worlds, if the hasher concurs. -/
def Agree (d : Deployment α (ω × η)) (d' : Deployment α (ω × θ)) (w : World α (ω × η))
    (w' : World α (ω × θ)) (call call' : BackingCall) : Prop :=
  Exchange.Alike ⟨call, (d.backing call w).result⟩ ⟨call', (d'.backing call' w').result⟩ ∧
    (d.backing call w).events = (d'.backing call' w').events ∧
    (d.backing call w).state.Alike (d'.backing call' w').state

section Repository

variable {d : Deployment α (ω × η)} {d' : Deployment α (ω × θ)} {w : World α (ω × η)}
  {w' : World α (ω × θ)}

/-- Saving records that are alike answers alike in worlds that are. -/
theorem agree_save (alike : w.Alike w') {user user' : User} (halike : user.Alike user') :
    Agree d d' w w' (.save user) (.save user') := by
  obtain ⟨hresult, hevents, hstate⟩ := alike.accounts.save halike
  refine ⟨?_, hevents, alike.identity, hstate, alike.outside⟩
  show Exchange.Alike ⟨.save user, (AccountStore.save user w.accounts).result⟩ _
  rw [hresult]
  exact .save halike _

/-- Writing hashes answers alike in worlds that are, whatever the hashes. -/
theorem agree_updatePassword (alike : w.Alike w') (email hash hash' : String) :
    Agree d d' w w' (.updatePassword email hash) (.updatePassword email hash') := by
  obtain ⟨hresult, hevents, hstate⟩ := alike.accounts.update email
    (f := ({ · with password := hash })) (g := ({ · with password := hash' })) (fun u => u)
    (fun _ => rfl) fun _ => rfl
  refine ⟨?_, hevents, alike.identity, hstate, alike.outside⟩
  show Exchange.Alike
    ⟨.updatePassword email hash, (AccountStore.updatePassword email hash w.accounts).result⟩ _
  rw [AccountStore.updatePassword, hresult]
  exact .updatePassword email hash hash' _

/-- Updating a record answers alike in worlds that are. -/
theorem agree_updateUser (alike : w.Alike w') (user : User) :
    Agree d d' w w' (.updateUser user) (.updateUser user) := by
  obtain ⟨hresult, hevents, hstate⟩ := alike.accounts.update user.email
    (f := ({ · with metadata := user.metadata })) (g := ({ · with metadata := user.metadata }))
    ({ · with metadata := user.metadata }) (fun _ => rfl) fun _ => rfl
  refine ⟨?_, hevents, alike.identity, hstate, alike.outside⟩
  show Exchange.Alike ⟨.updateUser user, (AccountStore.updateUser user w.accounts).result⟩ _
  rw [AccountStore.updateUser, hresult]
  exact .same _

/-- Looking an address up answers alike in worlds that are. -/
theorem agree_byEmail (alike : w.Alike w') (email : String) :
    Agree d d' w w' (.byEmail email) (.byEmail email) := by
  show Exchange.Alike ⟨.byEmail email, (AccountStore.byEmail email w.accounts).result⟩
      ⟨.byEmail email, (AccountStore.byEmail email w'.accounts).result⟩ ∧
    (AccountStore.byEmail email w.accounts).events =
      (AccountStore.byEmail email w'.accounts).events ∧
    World.Alike { w with accounts := (AccountStore.byEmail email w.accounts).state }
      { w' with accounts := (AccountStore.byEmail email w'.accounts).state }
  rw [AccountStore.byEmail_run, AccountStore.byEmail_run]
  obtain ⟨h, h'⟩ | ⟨u, u', h, h', hu⟩ :=
    AccountStore.Alike.found (alike.accounts.byEmail? email) <;> rw [h, h']
  · exact ⟨.same _, rfl, alike⟩
  · exact ⟨.byEmail email hu, rfl, alike⟩

/-- Looking an id up answers alike in worlds that are. -/
theorem agree_byId (alike : w.Alike w') (id : String) :
    Agree d d' w w' (.byId id) (.byId id) := by
  show Exchange.Alike ⟨.byId id, (AccountStore.byId id w.accounts).result⟩
      ⟨.byId id, (AccountStore.byId id w'.accounts).result⟩ ∧
    (AccountStore.byId id w.accounts).events = (AccountStore.byId id w'.accounts).events ∧
    World.Alike { w with accounts := (AccountStore.byId id w.accounts).state }
      { w' with accounts := (AccountStore.byId id w'.accounts).state }
  rw [AccountStore.byId_run, AccountStore.byId_run]
  obtain ⟨h, h'⟩ | ⟨u, u', h, h', hu⟩ :=
    AccountStore.Alike.found (alike.accounts.byId? id) <;> rw [h, h']
  · exact ⟨.same _, rfl, alike⟩
  · exact ⟨.byId id hu, rfl, alike⟩

/-- Listing users answers alike in worlds that are. -/
theorem agree_list (alike : w.Alike w') (query : UserQuery) :
    Agree d d' w w' (.list query) (.list query) := by
  refine ⟨?_, rfl, alike⟩
  show Exchange.Alike ⟨.list query, .ok (w.accounts.page query)⟩
    ⟨.list query, .ok (w'.accounts.page query)⟩
  rw [alike.accounts.page query]
  exact .same _

end Repository

/-- Hashing answers alike with any two hashers that show alike, if they concur on the two passwords.
-/
theorem agree_hash (shows : hasher.ShowAlike hasher') {w : World α (ω × η)}
    {w' : World α (ω × θ)} (alike : w.Alike w') {password password' : String}
    (concur : Exchange.Concur
      ⟨.hash password,
        ((withHasher identity mailer ids accepts hasher).backing (.hash password) w).result⟩
      ⟨.hash password',
        ((withHasher identity mailer ids accepts hasher').backing (.hash password') w').result⟩) :
    Agree (withHasher identity mailer ids accepts hasher)
      (withHasher identity mailer ids accepts hasher') w w' (.hash password) (.hash password') :=
  ⟨Exchange.alike_hash concur, shows.hash _ _ _ _ (concur _ _ rfl rfl), alike.identity,
    alike.accounts, alike.outside⟩

/-- Comparing answers alike with any two hashers that show alike, if their verdicts concur. -/
theorem agree_compare (shows : hasher.ShowAlike hasher') {w : World α (ω × η)}
    {w' : World α (ω × θ)} (alike : w.Alike w') {password password' made made' : String}
    (concur : Exchange.Concur
      ⟨.compare password made,
        ((withHasher identity mailer ids accepts hasher).backing (.compare password made) w).result⟩
      ⟨.compare password' made',
        ((withHasher identity mailer ids accepts hasher').backing
          (.compare password' made') w').result⟩) :
    Agree (withHasher identity mailer ids accepts hasher)
      (withHasher identity mailer ids accepts hasher') w w' (.compare password made)
      (.compare password' made') :=
  ⟨Exchange.alike_compare concur, shows.compare _ _ _ _ _ _ (concur _ _ rfl rfl), alike.identity,
    alike.accounts, alike.outside⟩

/-- Deployments that differ in the hasher only match, if no call goes to the hashers or the hashers
show alike. -/
theorem backing_matches (identity : LocalIdentity α) (mailer : Mailer ω) (ids : IdSource ω)
    (accepts : String → Bool) {p : BackingCall → Prop}
    (quiet : ∀ call, p call → call.SparesHasher ∨ hasher.ShowAlike hasher') :
    Backing.Matches p (withHasher identity mailer ids accepts hasher).backing
      (withHasher identity mailer ids accepts hasher').backing World.Alike := by
  rintro call call' hp asked w w' alike concur
  cases asked with
  | save halike => exact agree_save alike halike
  | updatePassword email hash hash' => exact agree_updatePassword alike email hash hash'
  | hash => exact agree_hash ((quiet _ hp).resolve_left id) alike concur
  | compare => exact agree_compare ((quiet _ hp).resolve_left id) alike concur
  | same call =>
    cases call with
    | save user => exact agree_save alike rfl
    | updatePassword email hash => exact agree_updatePassword alike email hash hash
    | updateUser user => exact agree_updateUser alike user
    | byEmail email => exact agree_byEmail alike email
    | byId id => exact agree_byId alike id
    | list query => exact agree_list alike query
    | hash => exact agree_hash ((quiet _ hp).resolve_left id) alike concur
    | compare => exact agree_compare ((quiet _ hp).resolve_left id) alike concur
    | _ =>
      -- the state of the identity service and that of the mailer and the ids are the same
      obtain ⟨state, accounts, o, h⟩ := w
      obtain ⟨_, accounts', _, h'⟩ := w'
      obtain ⟨rfl, haccounts, rfl⟩ := alike
      exact ⟨.same _, rfl, rfl, haccounts, rfl⟩

/-- Requests that are the same up to passwords show the same and leave worlds that are the same up
to stored passwords, whatever the passwords are: the hashers need to concur if they are asked at
all, and nothing is needed of them if the requests spare them. -/
theorem passwords_do_not_show (identity : LocalIdentity α) (mailer : Mailer ω) (ids : IdSource ω)
    (accepts : String → Bool) (clock : Nat → Timestamp) (n : Nat) {w : World α (ω × η)}
    {w' : World α (ω × θ)} (alike : w.Alike w') {requests requests' : List ServiceCall}
    (same : List.Forall₂ (ServiceCall.Alike accepts) requests requests') :
    let service := (withHasher identity mailer ids accepts hasher).serviceUnder (.timed clock)
    let service' := (withHasher identity mailer ids accepts hasher').serviceUnder (.timed clock)
    ((∀ request ∈ requests, request.SparesHasher) ∨
      hasher.ShowAlike hasher' ∧ Concurring (service.exchangesAll requests (w, n))
        (service'.exchangesAll requests' (w', n))) →
    service.observedAll requests (w, n) = service'.observedAll requests' (w', n) ∧
      (service.serveAll (w, n) requests).1.Alike (service'.serveAll (w', n) requests').1 := by
  intro service service' spared
  have matching {p : BackingCall → Prop}
      (quiet : ∀ call, p call → call.SparesHasher ∨ hasher.ShowAlike hasher') :
      Backing.Matches p service.backing service'.backing fun s s' => s.1.Alike s'.1 ∧ s.2 = s'.2 :=
    (backing_matches identity mailer ids accepts quiet).under World.at World.at
      (fun w w' now alike => ⟨by rw [World.at, World.at, alike.identity], alike.accounts,
        alike.outside⟩) clock
  rcases spared with spare | ⟨shows, concurring⟩
  · -- without the hasher, what was asked for concurs with everything
    obtain ⟨hshown, hworlds⟩ := AccountService.serveAll_alike
      (matching fun _ spares => Or.inl spares) same
      (fun request hrequest => (spare request hrequest).only accepts)
      (AccountService.concurring_of_spares spare (w, n)
        (service'.exchangesAll requests' (w', n))) ⟨alike, rfl⟩
    exact ⟨hshown, hworlds.1⟩
  · obtain ⟨hshown, hworlds⟩ := AccountService.serveAll_alike
      (matching (p := fun _ => True) fun _ _ => Or.inr shows) same
      (fun request _ => Script.only_true _) concurring ⟨alike, rfl⟩
    exact ⟨hshown, hworlds.1⟩

/-- A user with another password logs in and changes it: nobody sees the difference. -/
theorem other_password_does_not_show :
    let world (hash : String) : World TupleSet (Unit × Unit) :=
      { identity := { now := ⟨0, 0, by decide⟩, agent := TupleSet.ofList [] }
        accounts := ⟨[{ id := "id-1", email := "a@x.com", password := hash }]⟩
        outside := ((), ()) }
    let requests (password password' : String) : List ServiceCall :=
      [.login { email := "a@x.com", password },
        .changePassword (Uuid.ofEntropy 0).simple password' password]
    let service :=
      (withHasher miniature.identity (logMailer Unit) miniature.ids miniature.accepts
        (plainHasher Unit)).serviceUnder (.timed fun n => ⟨n, 0, by decide⟩)
    let s := (world "plain:old password", 0)
    let s' := (world "plain:other password", 0)
    service.observedAll (requests "old password" "password") s =
        service.observedAll (requests "other password" "passwords") s' ∧
      (service.serveAll s (requests "old password" "password")).1.Alike
        (service.serveAll s' (requests "other password" "passwords")).1 := by
  intro world requests service s s'
  have same : List.Forall₂ (ServiceCall.Alike miniature.accepts)
      (requests "old password" "password") (requests "other password" "passwords") :=
    .cons (.login rfl) (.cons (.changePassword _ _ _ (by decide)) .nil)
  have alike : s.1.Alike s'.1 := ⟨rfl, rfl, rfl⟩
  exact passwords_do_not_show miniature.identity (logMailer Unit) miniature.ids miniature.accepts
    (fun n => ⟨n, 0, by decide⟩) 0 alike same
    (Or.inr ⟨plainHasher_showAlike Unit Unit, by decide +kernel⟩)

end Deployment

end AccessControl
