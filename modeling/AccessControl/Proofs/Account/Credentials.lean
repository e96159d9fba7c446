import AccessControl.Proofs.Deployment
import AccessControl.Proofs.Uuid

/-!
# Passwords that open an account

The history of the requests that were served tells which id an email was registered with, and which
password was set for it last. `Credentials` is the invariant that links the history to the store: an
email has a record exactly if it was registered, the record has the id that the registration
answered, and its hash is one of the password set last. A login reads the password off the hash.
-/

namespace AccessControl

open AccessControl.Calendar

/-! ## What the history tells -/

namespace Served

/-- The id that a request registered an email with. -/
def registeredId? (email : String) : Served → Option String
  | ⟨.register _ user, _, .ok id⟩ => if user.email = email then some id else none
  | _ => none

/-- The password that a request set for an email. -/
def passwordSet? (email : String) : Served → Option String
  | ⟨.register _ user, _, .ok _⟩ => if user.email = email then some user.password else none
  | ⟨.resetPassword _ password, some caller, .ok _⟩ =>
    if caller.email = email then some password else none
  | ⟨.changePassword _ password _, some caller, .ok _⟩ =>
    if caller.email = email then some password else none
  | _ => none

variable {request : ServiceCall} {caller : Option Identity}
  {result : Except AccountError request.Answer} {email : String}

/-- A request that failed registered no id. -/
theorem registeredId?_of_failed (failed : request.Writes → ∃ error, result = .error error) :
    registeredId? email ⟨request, caller, result⟩ = none := by
  cases request with
  | register token user =>
    obtain ⟨error, rfl⟩ := failed trivial
    rfl
  | _ => rfl

/-- A request that failed set no password. -/
theorem passwordSet?_of_failed (failed : request.Writes → ∃ error, result = .error error) :
    passwordSet? email ⟨request, caller, result⟩ = none := by
  cases request with
  | register | resetPassword | changePassword =>
    obtain ⟨error, rfl⟩ := failed trivial
    cases caller <;> rfl
  | _ => rfl

end Served

/-- The ids an email was registered with. -/
def registeredIds (history : List Served) (email : String) : List String :=
  history.filterMap (Served.registeredId? email)

/-- The password that was set last for an email. -/
def lastPassword? (history : List Served) (email : String) : Option String :=
  (history.filterMap (Served.passwordSet? email)).getLast?

section History

variable {history : List Served} {e : Served} {email id password : String}

/-- One more request adds at most the id that it registered. -/
theorem registeredIds_snoc :
    registeredIds (history ++ [e]) email =
      registeredIds history email ++ (e.registeredId? email).toList := by
  rw [registeredIds, List.filterMap_append]
  cases h : e.registeredId? email <;> simp [registeredIds, h]

/-- The last password is the one that the last request set, or else the one before. -/
theorem lastPassword?_snoc :
    lastPassword? (history ++ [e]) email =
      (e.passwordSet? email).or (lastPassword? history email) := by
  rw [lastPassword?, List.filterMap_append]
  cases h : e.passwordSet? email <;> simp [lastPassword?, h]

end History

/-! ## The invariant -/

/-- An address is not empty. -/
theorem User.email_ne_of_validate {user : User} (h : user.validate = .ok ()) :
    user.email ≠ "" := by
  intro hempty
  unfold User.validate at h
  rw [hempty, if_pos (by decide)] at h
  cases h

namespace Deployment

variable {α ω : Type} {d : Deployment α ω} {w : World α ω} {history : List Served}
  {store : AccountStore}

/-- How the store fits the history that led to it. -/
structure Credentials (d : Deployment α ω) (history : List Served) (store : AccountStore) :
    Prop where
  wellFormed : store.WellFormed
  emails_ne : ∀ u ∈ store.users, u.email ≠ ""
  /-- An email has a record exactly if it was registered, under the id that was answered then. -/
  registered : ∀ email id, id ∈ registeredIds history email ↔
    ∃ u, store.byEmail? email = some u ∧ u.id = id
  /-- A record holds a hash of the password that was set last. -/
  hashed : ∀ email u, store.byEmail? email = some u →
    ∃ password, lastPassword? history email = some password ∧ d.hasher.Hashes password u.password

theorem credentials_nil : d.Credentials [] {} where
  wellFormed := AccountStore.wellFormed_empty
  emails_ne := by simp
  registered := by simp [registeredIds, AccountStore.byEmail?]
  hashed := by simp [AccountStore.byEmail?]

/-- A request that registers nothing and sets no password, and leaves the store alone, keeps the
invariant. -/
theorem Credentials.keep (credentials : d.Credentials history store) {e : Served}
    (hid : ∀ email, e.registeredId? email = none)
    (hset : ∀ email, e.passwordSet? email = none) : d.Credentials (history ++ [e]) store where
  wellFormed := credentials.wellFormed
  emails_ne := credentials.emails_ne
  registered email id := by
    rw [registeredIds_snoc, hid, Option.toList_none, List.append_nil]
    exact credentials.registered email id
  hashed email u hu := by
    rw [lastPassword?_snoc, hset, Option.none_or]
    exact credentials.hashed email u hu

/-- A registration of a new email keeps the invariant. -/
theorem Credentials.register (credentials : d.Credentials history store) {token : String}
    {caller : Option Identity} {user : User} {id hash : String} (valid : user.validate = .ok ())
    (hashed : d.hasher.Hashes user.password hash)
    (saved : (AccountStore.save { user with id := id, password := hash } store).result = .ok id) :
    d.Credentials (history ++ [⟨.register token user, caller, .ok id⟩])
      ⟨store.users ++ [{ user with id := id, password := hash }]⟩ := by
  obtain ⟨_, hid, hemail, hfresh, _⟩ := AccountStore.save_of_ok saved
  constructor
  case wellFormed => exact credentials.wellFormed.append hid hemail hfresh
  case emails_ne =>
    intro u hu
    rcases List.mem_append.mp hu with hu | hu
    · exact credentials.emails_ne u hu
    · rw [List.mem_singleton.mp hu]
      show user.email ≠ ""
      exact User.email_ne_of_validate valid
  case registered =>
    intro email id'
    rw [registeredIds_snoc, List.mem_append, credentials.registered, AccountStore.byEmail?_append]
    by_cases h : user.email = email
    · -- the email was free, so it had not been registered before
      subst h
      simp [hemail, Served.registeredId?, eq_comm]
    · simp [h, Served.registeredId?]
  case hashed =>
    intro email u hu
    rw [lastPassword?_snoc]
    rw [AccountStore.byEmail?_append] at hu
    by_cases h : user.email = email
    · subst h
      rw [hemail, Option.none_or, if_pos rfl, Option.some.injEq] at hu
      refine ⟨user.password, ?_, hu ▸ hashed⟩
      simp [Served.passwordSet?]
    · rw [if_neg h, Option.or_none] at hu
      simp only [Served.passwordSet?, if_neg h, Option.none_or]
      exact credentials.hashed email u hu

/-- A change of the record with an email keeps the invariant if the record holds a hash of the
password that was set, if any. -/
theorem Credentials.modify (credentials : d.Credentials history store) {e : Served}
    {email : String} {f : User → User} (hf : AccountStore.KeepsKeys f)
    (hid : ∀ email, e.registeredId? email = none)
    (hother : ∀ email', email' ≠ email → e.passwordSet? email' = none)
    (hset : e.passwordSet? email = none ∧ (∀ u, (f u).password = u.password) ∨
      ∃ password, e.passwordSet? email = some password ∧
        ∀ u, d.hasher.Hashes password (f u).password) :
    d.Credentials (history ++ [e]) (store.modifyByEmail email f) := by
  constructor
  case wellFormed => exact credentials.wellFormed.modifyByEmail hf
  case emails_ne =>
    intro u hu
    obtain ⟨v, hv, rfl⟩ := List.mem_map.mp hu
    split_ifs
    · rw [(hf v).2]
      exact credentials.emails_ne v hv
    · exact credentials.emails_ne v hv
  case registered =>
    intro email' id
    rw [registeredIds_snoc, hid, Option.toList_none, List.append_nil, credentials.registered,
      AccountStore.byEmail?_modifyByEmail hf]
    cases store.byEmail? email' with
    | none => simp
    | some u => by_cases h : u.email = email <;> simp [h, (hf u).1]
  case hashed =>
    intro email' u' hu'
    rw [AccountStore.byEmail?_modifyByEmail hf, Option.map_eq_some_iff] at hu'
    obtain ⟨u, hu, rfl⟩ := hu'
    rw [lastPassword?_snoc]
    have hemail := (AccountStore.mem_of_byEmail? hu).2
    -- only the record with the email may hold another hash than before
    by_cases h : u.email = email
    · rw [if_pos h]
      obtain rfl : email' = email := hemail.symm.trans h
      obtain ⟨hnone, hsame⟩ | ⟨password, hsome, hhash⟩ := hset
      · rw [hnone, Option.none_or, hsame]
        exact credentials.hashed email' u hu
      · rw [hsome]
        exact ⟨password, rfl, hhash u⟩
    · rw [if_neg h, hother email' fun h' => h (hemail.trans h'), Option.none_or]
      exact credentials.hashed email' u hu

/-- A new password for the record of a caller keeps the invariant. -/
theorem Credentials.setPassword (credentials : d.Credentials history store) {e : Served}
    {caller : Identity} {password hash : String} (hid : ∀ email, e.registeredId? email = none)
    (hset : ∀ email, e.passwordSet? email = if caller.email = email then some password else none)
    (hashed : d.hasher.Hashes password hash) :
    d.Credentials (history ++ [e])
      (store.modifyByEmail caller.email ({ · with password := hash })) := by
  refine credentials.modify (AccountStore.keepsKeys_password hash) hid (fun email h => ?_)
    (Or.inr ⟨password, ?_, fun _ => hashed⟩)
  · rw [hset, if_neg (Ne.symm h)]
  · rw [hset, if_pos rfl]

/-- Whatever the request, serving it keeps the invariant. -/
theorem Credentials.serve (credentials : d.Credentials history w.accounts)
    (request : ServiceCall) :
    d.Credentials
      (history ++ [⟨request, w.callerOf request, (d.service.serve request w).result⟩])
      (d.service.serve request w).state.accounts := by
  have effect := d.service.serve_effect d.storesIn request w
  generalize (d.service.serve request w).result = result at effect
  generalize (d.service.serve request w).state.accounts = store at effect
  cases effect with
  | kept failed =>
    exact credentials.keep (fun _ => Served.registeredId?_of_failed failed)
      fun _ => Served.passwordSet?_of_failed failed
  | registered valid accepted fresh hashed saved =>
    exact credentials.register valid (hashes_of_answers hashed) saved
  | updated resolved there =>
    exact credentials.modify (AccountStore.keepsKeys_metadata _) (fun _ => rfl) (fun _ _ => rfl)
      (Or.inl ⟨rfl, fun _ => rfl⟩)
  | reset resolved there accepted hashed =>
    rw [callerOf_eq_some rfl resolved]
    exact credentials.setPassword (fun _ => rfl) (fun _ => rfl) (hashes_of_answers hashed)
  | changed resolved there accepted hashed =>
    rw [callerOf_eq_some rfl resolved]
    exact credentials.setPassword (fun _ => rfl) (fun _ => rfl) (hashes_of_answers hashed)

/-- The invariant holds along every run in which nobody writes to the repository directly. -/
theorem Credentials.run {moves : List Move}
    (reads : ∀ call, Move.port call ∈ moves → ¬ call.Writes)
    (credentials : d.Credentials history w.accounts) :
    d.Credentials (history ++ d.history w moves) (d.run w moves).accounts := by
  induction moves generalizing history w with
  | nil =>
    rw [Deployment.history, List.append_nil]
    exact credentials
  | cons m moves ih =>
    have hreads : ∀ call, Move.port call ∈ moves → ¬ call.Writes :=
      fun call hcall => reads call (List.mem_cons_of_mem _ hcall)
    cases m with
    | serve request =>
      have hlater := ih hreads (credentials.serve request)
      rw [List.append_assoc] at hlater
      exact hlater
    | identity request =>
      exact ih (w := d.move w (.identity request)) hreads credentials
    | port call =>
      have hkept := d.storesIn.reads call (reads call List.mem_cons_self) w
      exact ih (w := d.move w (.port call)) hreads (hkept ▸ credentials)
    | clock now => exact ih (w := d.move w (.clock now)) hreads credentials

/-! ## Logging in -/

/-- A key issued to an id and an email resolves to them if its lifetime is positive. -/
theorem issue_ends {id email : String} {kind : KeyKind} (hid : id ≠ "") (hemail : email ≠ "")
    (nonempty : ∀ n, d.identity.tokenAt n ≠ "") (positive : 0 < (d.identity.lifetime kind).nanos)
    (representable : (w.identity.now.add? (d.identity.lifetime kind)).isSome) :
    let o := d.backing (.issue id email kind) w
    ∃ token, o.result = .ok token ∧ o.state.caller? token = some ⟨id, email⟩ := by
  obtain ⟨expiry, hexpiry⟩ := Option.isSome_iff_exists.mp representable
  have hissue := LocalIdentity.issue_run d.identity id email kind w.identity
  rw [if_neg (by simp [hid, hemail]), hexpiry] at hissue
  have hresult := congrArg Outcome.result hissue
  have hstate := congrArg Outcome.state hissue
  refine ⟨d.identity.tokenAt w.identity.drawn, hresult, World.caller?_eq_some_iff.mpr ?_⟩
  simp only [backing, World.onIdentity, Action.zoom_run, hstate]
  rw [KeyTable.resolve_eq_ok_iff]
  refine ⟨nonempty _, ⟨id, email, kind, w.identity.now, expiry⟩, ?_, ⟨le_refl _, ?_⟩, rfl⟩
  · rw [KeyTable.enroll, KeyTable.get?_insert, if_pos rfl]
  · exact (Timestamp.lt_add?_iff hexpiry).mpr positive

/-- The checks of a login: a record with the email, and a hash that fits the password. -/
def Authentic (d : Deployment α ω) (w : World α ω) (user u : User) : Prop :=
  w.accounts.byEmail? user.email = some u ∧
    (d.hasher.compare user.password u.password w.outside).result = .ok ()

/-- How a login can end, where the issue of keys cannot fail. -/
theorem login_ends (user : User)
    (owned : ∀ u, w.accounts.byEmail? user.email = some u → u.id ≠ "" ∧ u.email ≠ "")
    (nonempty : ∀ n, d.identity.tokenAt n ≠ "") (positive : 0 < (d.identity.lifetime .user).nanos)
    (representable : (w.identity.now.add? (d.identity.lifetime .user)).isSome) :
    (Script.login user).Ensures d.backing w fun result w' =>
      (∃ u token, d.Authentic w user u ∧ result = .ok token ∧
        w'.caller? token = some ⟨u.id, u.email⟩) ∨
      (¬ ∃ u, d.Authentic w user u) ∧
        ∃ error, result = .error error ∧ error.kind = .unauthorized := by
  have hlook : d.backing (.byEmail user.email) w =
      ⟨(AccountStore.byEmail user.email w.accounts).result, [], w⟩ := by
    simp only [backing, World.onAccounts, Action.zoom_run, AccountStore.byEmail_run]
  rw [Script.login, Script.ensures_bind, Script.authenticate, Script.ensures_bind, Script.byEmail,
    Script.ensures_ask, hlook, AccountStore.byEmail_run]
  refine ⟨fun u hu => ?_, fun error herror => ?_⟩
  · rw [Script.onward_ok, Script.ensures_bind, Script.ensures_ask]
    cases hfound : w.accounts.byEmail? user.email with
    | none =>
      rw [hfound] at hu
      cases hu
    | some v =>
      rw [hfound] at hu
      obtain rfl := Except.ok.inj hu
      refine ⟨fun _ hok => ?_, fun error herror => Or.inr ⟨?_, _, rfl, rfl⟩⟩
      · rw [Script.onward_ok, Script.ensures_pure, Script.onward_ok, Script.issue,
          Script.ensures_ask]
        -- checking a password touches neither the keys nor the clock
        obtain ⟨hid, hemail⟩ := owned v hfound
        obtain ⟨token, htoken, hcaller⟩ := issue_ends (d := d)
          (w := (d.backing (.compare user.password v.password) w).state) hid hemail nonempty
          positive representable
        rw [htoken]
        refine ⟨?_, fun _ h => by cases h⟩
        rintro _ h
        obtain rfl := Except.ok.inj h
        exact Or.inl ⟨v, token, ⟨hfound, hok⟩, rfl, hcaller⟩
      · rintro ⟨u, hu, hok⟩
        rw [hfound, Option.some.injEq] at hu
        subst hu
        exact absurd (herror.symm.trans hok) (by simp)
  · refine Or.inr ⟨?_, _, rfl, rfl⟩
    rintro ⟨u, hu, _⟩
    rw [hu] at herror
    cases herror

/-- Wherever a run from an empty store leads, a login answers exactly the password that was set last
for its email, by the registration or by a caller with that email since. The token it answers
resolves to the id that the registration answered, and a login that fails does not tell why. -/
theorem login_answers_last_password (d : Deployment α ω) (identity : IdentityState α) (outside : ω)
    (moves : List Move) (user : User) (reads : ∀ call, Move.port call ∈ moves → ¬ call.Writes)
    (faithful : d.hasher.Faithful) (nonempty : ∀ n, d.identity.tokenAt n ≠ "")
    (positive : 0 < (d.identity.lifetime .user).nanos)
    (representable : ((d.run { identity, outside } moves).identity.now.add?
      (d.identity.lifetime .user)).isSome) :
    let history := d.history { identity, outside } moves
    let o := d.service.serve (.login user) (d.run { identity, outside } moves)
    ((∃ token, o.result = .ok token) ↔ (∃ id, id ∈ registeredIds history user.email) ∧
      lastPassword? history user.email = some user.password) ∧
    (∀ token, o.result = .ok token → ∀ id ∈ registeredIds history user.email,
      o.state.caller? token = some ⟨id, user.email⟩) ∧
    ∀ error, o.result = .error error → error.kind = .unauthorized := by
  intro history o
  have credentials : d.Credentials history (d.run { identity, outside } moves).accounts :=
    credentials_nil.run (w := { identity, outside }) reads
  -- a record is authentic exactly if the password of the login is the one that was set last
  have hauthentic : (∃ u, d.Authentic (d.run { identity, outside } moves) user u) ↔
      (∃ id, id ∈ registeredIds history user.email) ∧
        lastPassword? history user.email = some user.password := by
    constructor
    · rintro ⟨u, hu, hok⟩
      obtain ⟨password, hlast, hhash⟩ := credentials.hashed user.email u hu
      rw [(faithful _ _ hhash _ _).mp hok]
      exact ⟨⟨u.id, (credentials.registered _ _).mpr ⟨u, hu, rfl⟩⟩, hlast⟩
    · rintro ⟨⟨id, hid⟩, hlast⟩
      obtain ⟨u, hu, _⟩ := (credentials.registered _ _).mp hid
      obtain ⟨password, hlast', hhash⟩ := credentials.hashed user.email u hu
      rw [hlast, Option.some.injEq] at hlast'
      exact ⟨u, hu, (faithful _ _ hhash _ _).mpr hlast'⟩
  have hends := login_ends (d := d) (w := d.run { identity, outside } moves) user
    (fun u hu => by
      have hmem := (AccountStore.mem_of_byEmail? hu).1
      exact ⟨credentials.wellFormed.ids_ne u hmem, credentials.emails_ne u hmem⟩)
    nonempty positive representable
  change (∃ u token, d.Authentic _ user u ∧ o.result = .ok token ∧ _) ∨ (¬ _) ∧
    ∃ error, o.result = .error error ∧ _ at hends
  rw [← hauthentic]
  obtain ⟨u, token, hu, htoken, hcaller⟩ | ⟨hnone, error, herror, hkind⟩ := hends
  · rw [htoken]
    refine ⟨⟨fun _ => ⟨u, hu⟩, fun _ => ⟨token, rfl⟩⟩, ?_, fun _ h => by cases h⟩
    rintro _ h id hid
    obtain rfl := Except.ok.inj h
    obtain ⟨v, hv, rfl⟩ := (credentials.registered _ _).mp hid
    rw [hu.1, Option.some.injEq] at hv
    rw [← hv, ← (AccountStore.mem_of_byEmail? hu.1).2]
    exact hcaller
  · rw [herror]
    refine ⟨⟨fun ⟨_, h⟩ => (by cases h), fun h => absurd h hnone⟩, fun _ h => (by cases h), ?_⟩
    rintro _ h
    obtain rfl := Except.error.inj h
    exact hkind

end Deployment

/-- The hasher of rehearsals is faithful. -/
theorem plainHasher_faithful (ω : Type) : (plainHasher ω).Faithful := by
  rintro password hash ⟨o, h⟩ given o'
  obtain rfl := Except.ok.inj h
  have hmarked : "plain:".toList.isPrefixOf ("plain:" ++ password).toList = true := by
    rw [String.toList_append, List.isPrefixOf_iff_prefix]
    exact List.prefix_append _ _
  have hsame : "plain:" ++ password = "plain:" ++ given ↔ given = password := by
    rw [String.append_right_inj, eq_comm]
  simp only [plainHasher, if_pos hmarked, hsame]
  by_cases hgiven : given = password
  · simp only [hgiven, if_true, Action.pure_run]
  · simp only [hgiven, if_false, Action.fail_run, reduceCtorEq]

namespace Deployment

/-- A user registers, gets a recovery key, sets a new password with it and logs in. -/
theorem login_after_reset :
    let identity : IdentityState TupleSet :=
      { now := ⟨0, 0, by decide⟩, agent := TupleSet.ofList [RelationTuple.bootstrap] }
    let moves : List Move :=
      [.serve (.register "" { email := "a@x.com", password := "old password" }),
        .identity (.issue "id-1" "a@x.com" .recovery),
        .serve (.resetPassword (Uuid.ofEntropy 0).simple "new password")]
    ∃ token, (miniature.service.serve (.login { email := "a@x.com", password := "new password" })
      (miniature.run { identity, outside := () } moves)).result = .ok token := by
  intro identity moves
  have hlogin := login_answers_last_password miniature identity () moves
    { email := "a@x.com", password := "new password" } (by simp [moves])
    (plainHasher_faithful Unit) (fun n => Uuid.simple_ne_empty _) (by decide) (by decide +kernel)
  exact hlogin.1.mpr ⟨⟨"id-1", by decide +kernel⟩, by decide +kernel⟩

end Deployment

end AccessControl
