import AccessControl.Proofs.Account.Members
import AccessControl.Proofs.Account.Residue
import AccessControl.Proofs.Account.Secrecy
import AccessControl.Proofs.Identity.Fate

/-!
# Recovery mails

A request for a password reset mails one token at most, and only to the address that was given: it
must be the email of a record, and a recovery key must come to be issued for that record. The token
is a new one. Whatever happens later it stands for that account or for none, and on a clock that
does not go back it does so exactly up to its expiry (`Deployment.recovery_mail_reaches_owner`).
-/

namespace AccessControl

open AccessControl.Calendar

variable {α ω : Type}

/-- The mail that a call hands to the mailer, whether it is taken or not. -/
def Exchange.handed? : Exchange → Option Mail
  | ⟨.sendReset recipients host token, _⟩ => some ⟨recipients, host, token⟩
  | _ => none

namespace Deployment

variable {d : Deployment α ω} {conditions : Conditions} {s : World α ω × Nat}

/-! ## What becomes of a key in a run -/

/-- The times at which something happens to the keys in a move. -/
def timesOf (d : Deployment α ω) (conditions : Conditions) (s : World α ω × Nat) :
    Move → Set Timestamp
  | .serve request => conditions.shown s.2 (d.moveUnder conditions s (.serve request)).2
  | .identity _ | .port _ => {s.1.identity.now}
  | .clock _ => ∅

/-- The times at which something happens to the keys in a run. -/
def timesUnder (d : Deployment α ω) (conditions : Conditions) :
    World α ω × Nat → List Move → Set Timestamp
  | _, [] => ∅
  | s, m :: moves =>
    d.timesOf conditions s m ∪ d.timesUnder conditions (d.moveUnder conditions s m) moves

section Fate

variable {n : Nat} {claims : KeyClaims} {times : Set Timestamp} {forgotten : Set String}

/-- The fate of a key goes on over a request. -/
theorem keyFate_serve (fate : s.1.identity.KeyFate d.identity n claims times forgotten)
    (request : ServiceCall) :
    let s' := ((d.serviceUnder conditions).serve request s).state
    s'.1.identity.KeyFate d.identity n claims (times ∪ conditions.shown s.2 s'.2) forgotten := by
  let inv (s' : World α ω × Nat) : Prop :=
    s.2 ≤ s'.2 ∧ s'.1.identity.KeyFate d.identity n claims
      (times ∪ conditions.shown s.2 s'.2) forgotten
  have start : inv s := ⟨le_rfl, fate.mono Set.subset_union_left le_rfl⟩
  suffices h : inv ((d.serviceUnder conditions).serve request s).state from h.2
  refine Script.run_keeps inv (fun call _ s' hs' => ?_) (Script.only_true _) start
  show _ ≤ _ ∧ _
  rw [d.count_call]
  refine ⟨Nat.le_succ_of_le hs'.1, ?_⟩
  have later : s'.1.identity.KeyFate d.identity n claims
      (times ∪ conditions.shown s.2 (s'.2 + 1)) forgotten :=
    hs'.2.mono (Set.union_subset_union_right _ (conditions.shown_mono le_rfl (Nat.le_succ _)))
      le_rfl
  exact later.step ((d.relaysUnder conditions).step_call call s')
    (Or.inr ⟨s'.2, hs'.1, Nat.lt_succ_self _, rfl⟩) (Set.empty_subset _)

/-- The fate of a key goes on over a move, with its instants and what it revokes. -/
theorem keyFate_moveUnder (fate : s.1.identity.KeyFate d.identity n claims times forgotten)
    (m : Move) :
    (d.moveUnder conditions s m).1.identity.KeyFate d.identity n claims
      (times ∪ d.timesOf conditions s m) (forgotten ∪ {token | m = .identity (.revoke token)}) := by
  have later (times' : Set Timestamp) : s.1.identity.KeyFate d.identity n claims (times ∪ times')
      (forgotten ∪ {token | m = .identity (.revoke token)}) :=
    fate.mono Set.subset_union_left Set.subset_union_left
  cases m with
  | serve request => exact (keyFate_serve fate request).mono le_rfl Set.subset_union_left
  | identity request =>
    refine (later _).step (d.identity.step_handle s.1.identity s.1.identity.now request)
      (Or.inr rfl) ?_
    rintro token rfl
    exact Or.inr rfl
  | port call =>
    exact (later _).step (d.relays.step_call call s.1) (Or.inr rfl) (Set.empty_subset _)
  | clock now => exact ⟨(later ∅).unique, (later ∅).drawn, (later ∅).stands⟩

/-- The fate of a key goes on over a run, with its instants and what it revokes. -/
theorem keyFate_runUnder (fate : s.1.identity.KeyFate d.identity n claims times forgotten)
    (moves : List Move) :
    (d.runUnder conditions s moves).1.identity.KeyFate d.identity n claims
      (times ∪ d.timesUnder conditions s moves)
      (forgotten ∪ {token | .identity (.revoke token) ∈ moves}) := by
  induction moves generalizing s times forgotten with
  | nil => exact fate.mono Set.subset_union_left Set.subset_union_left
  | cons m moves ih =>
    refine (ih (keyFate_moveUnder fate m)).mono ?_ ?_
    · rw [Set.union_assoc]
      rfl
    · rintro token ((hforgot | hm) | hmoves)
      · exact Or.inl hforgot
      · exact Or.inr (List.mem_cons.mpr (Or.inl (Eq.symm hm)))
      · exact Or.inr (List.mem_cons_of_mem m hmoves)

end Fate

/-- No record is removed, and none gets another id or email. -/
theorem keys_runUnder (moves : List Move) :
    s.1.accounts.keys <+: (d.runUnder conditions s moves).1.accounts.keys := by
  induction moves generalizing s with
  | nil => exact List.prefix_rfl
  | cons m moves ih =>
    refine List.IsPrefix.trans ?_ (ih (s := d.moveUnder conditions s m))
    cases m with
    | serve request =>
      exact Script.run_keeps (fun s' : World α ω × Nat => s.1.accounts.keys <+: s'.1.accounts.keys)
        (fun call _ s' h => h.trans ((d.storesInUnder conditions).keys_call call s'))
        (Script.only_true _) List.prefix_rfl
    | identity request => exact List.prefix_rfl
    | port call => exact d.storesIn.keys_call call s.1
    | clock now => exact List.prefix_rfl

/-! ## The mail -/

/-- There is a record with the email, and a recovery key for it that expires at a time. -/
structure Recoverable (d : Deployment α ω) (w : World α ω) (email : String) (user : User)
    (expiry : Timestamp) : Prop where
  addressed : email ≠ ""
  stored : user ∈ w.accounts.users
  email_eq : user.email = email
  lasting : w.identity.now.add? (d.identity.lifetime .recovery) = some expiry

section Mail

variable {w : World α ω} {email host : String} {user : User} {expiry : Timestamp}

/-- What the identity service becomes when a recovery key is issued. -/
def recoveryIssued (d : Deployment α ω) (w : World α ω) (user : User) (expiry : Timestamp) :
    IdentityState α :=
  { w.identity with
    drawn := w.identity.drawn + 1
    keys := w.identity.keys.enroll (d.identity.tokenAt w.identity.drawn)
      ⟨user.id, user.email, .recovery, w.identity.now, expiry⟩ }

/-- A recoverable account is found under its address. -/
theorem Recoverable.byEmail_run (recoverable : d.Recoverable w email user expiry)
    (wf : w.accounts.WellFormed) : d.backing (.byEmail email) w = ⟨.ok user, [], w⟩ := by
  rw [backing_byEmail, wf.byEmail?_eq_some_iff.mpr ⟨recoverable.stored, recoverable.email_eq⟩]

/-- For a recoverable account, a recovery key is issued under the next token. -/
theorem Recoverable.issue_run (recoverable : d.Recoverable w email user expiry)
    (wf : w.accounts.WellFormed) : d.backing (.issue user.id user.email .recovery) w =
      ⟨.ok (d.identity.tokenAt w.identity.drawn), [.keyIssued .recovery],
        { w with identity := d.recoveryIssued w user expiry }⟩ := by
  have owned : ¬ (user.id = "" ∨ user.email = "") :=
    not_or.mpr ⟨wf.ids_ne user recoverable.stored, recoverable.email_eq ▸ recoverable.addressed⟩
  rw [backing_issue, LocalIdentity.issue_run, if_neg owned, recoverable.lasting]
  rfl

/-- If a recovery key can be issued, it is, and goes out in one mail to the email. No record
changes. -/
theorem mail_of_recoverable (wf : w.accounts.WellFormed)
    (recoverable : d.Recoverable w email user expiry) (host : String) :
    (d.service.exchanges (.generateResetToken email host) w).filterMap Exchange.handed? =
        [⟨[email], host, d.identity.tokenAt w.identity.drawn⟩] ∧
      (d.service.generateResetToken email host w).state.identity =
        d.recoveryIssued w user expiry ∧
      (d.service.generateResetToken email host w).state.accounts = w.accounts := by
  refine AccountService.serve_of_ensures (fun calls (w' : World α ω) =>
    calls.filterMap Exchange.handed? = [⟨[email], host, d.identity.tokenAt w.identity.drawn⟩] ∧
      w'.identity = d.recoveryIssued w user expiry ∧ w'.accounts = w.accounts) ?_
  show (Script.generateResetToken email host).Ensures d.backing.recorded (w, []) _
  rw [Script.generateResetToken, if_neg recoverable.addressed, Script.ensures_bind, Script.existing,
    Script.ensures_bind]
  refine Script.ensures_ask_recorded (recoverable.byEmail_run wf) ?_
  show Script.Onward _ _ (.ok user) _
  rw [Script.onward_ok, if_neg (recoverable.email_eq ▸ recoverable.addressed), Script.ensures_pure,
    Script.onward_ok, Script.ensures_bind]
  refine Script.ensures_ask_recorded (recoverable.issue_run wf) ?_
  show Script.Onward _ _ (.ok _) _
  rw [Script.onward_ok, Script.sendPasswordReset, Script.ensures_call]
  -- the mail is handed over, whether the mailer takes it or not
  split
  · exact ⟨rfl, rfl, rfl⟩
  · rw [Script.ensures_bind, Script.ensures_log, Script.onward_ok, Script.ensures_fail]
    exact ⟨rfl, rfl, rfl⟩

/-- If no recovery key can be issued, no mail goes out and nothing changes. -/
theorem no_mail_of_not_recoverable (wf : w.accounts.WellFormed)
    (h : ¬ ∃ user expiry, d.Recoverable w email user expiry) (host : String) :
    (d.service.exchanges (.generateResetToken email host) w).filterMap Exchange.handed? = [] ∧
      (d.service.generateResetToken email host w).state = w := by
  refine AccountService.serve_of_ensures (fun calls (w' : World α ω) =>
    calls.filterMap Exchange.handed? = [] ∧ w' = w) ?_
  show (Script.generateResetToken email host).Ensures d.backing.recorded (w, []) _
  rw [Script.generateResetToken, Script.ensures_ite]
  refine ⟨fun _ => ⟨rfl, rfl⟩, fun addressed => ?_⟩
  rw [Script.ensures_bind, Script.existing, Script.ensures_bind]
  refine Script.ensures_ask_recorded (backing_byEmail d email w) ?_
  cases hfound : w.accounts.byEmail? email with
  | none => exact ⟨rfl, rfl⟩
  | some user =>
    obtain ⟨stored, rfl⟩ := AccountStore.mem_of_byEmail? hfound
    show Script.Onward _ _ (.ok user) _
    rw [Script.onward_ok, if_neg addressed, Script.ensures_pure, Script.onward_ok,
      Script.ensures_bind]
    -- the record is there, so it is the expiry that is out of range
    have hlasting : w.identity.now.add? (d.identity.lifetime .recovery) = none := by
      by_contra hsome
      obtain ⟨expiry, hexpiry⟩ := Option.ne_none_iff_exists'.mp hsome
      exact h ⟨user, expiry, addressed, stored, rfl, hexpiry⟩
    have owned : ¬ (user.id = "" ∨ user.email = "") :=
      not_or.mpr ⟨wf.ids_ne user stored, addressed⟩
    have hissue : d.backing (.issue user.id user.email .recovery) w =
        ⟨.error (.malformedEntity (.lifetimeOutOfRange .recovery)), [], w⟩ := by
      rw [backing_issue, LocalIdentity.issue_run, if_neg owned, hlasting]
    exact Script.ensures_ask_recorded hissue ⟨rfl, rfl⟩

/-- A recovery key that has just been issued stands under its token. -/
theorem keyFate_recoveryIssued (unique : w.identity.keys.Unique) (user : User)
    (expiry : Timestamp) :
    (d.recoveryIssued w user expiry).KeyFate d.identity w.identity.drawn
      ⟨user.id, user.email, .recovery, w.identity.now, expiry⟩ ∅ ∅ :=
  .of_enroll unique rfl rfl

/-- The record is still the only one with its id and the only one with its email. -/
theorem Recoverable.same_record (recoverable : d.Recoverable w email user expiry)
    {accounts : AccountStore} (wf : accounts.WellFormed)
    (hkeys : w.accounts.keys <+: accounts.keys) :
    ∃ kept, accounts.byId? user.id = some kept ∧ accounts.byEmail? email = some kept := by
  have hkey : (user.id, email) ∈ w.accounts.keys :=
    AccountStore.mem_keys_iff.mpr ⟨user, recoverable.stored, rfl, recoverable.email_eq⟩
  obtain ⟨kept, hkept, hid, hemail⟩ := AccountStore.mem_keys_iff.mp (hkeys.subset hkey)
  exact ⟨kept, wf.byId?_eq_some_iff.mpr ⟨hkept, hid⟩, wf.byEmail?_eq_some_iff.mpr ⟨hkept, hemail⟩⟩

end Mail

/-- Wherever a run leads from an empty store and an empty table of keys, whatever calls fail
meanwhile and whatever the clock shows, a request for a password reset
* mails nothing and changes nothing, unless the email is given, a record has it, and the lifetime of
  recovery keys fits behind the present time;
* otherwise hands one mail to the mailer: to this email alone, for the given host, with a new token
  that stands for a recovery key of the record.

As long as token strings do not repeat, that token never resolves to anything but the id and the
email of this record, which no other record comes to have, and not from the expiry on. Before, it
does resolve, unless it was revoked, on every clock that has shown no later time since. -/
theorem recovery_mail_reaches_owner (d : Deployment α ω) (conditions : Conditions)
    (identity : IdentityState α) (outside : ω) (moves : List Move) (email host : String) :
    let start : World α ω := { identity := { identity with keys := KeyTable.empty }, outside }
    let w := (d.runUnder conditions (start, 0) moves).1
    let o := d.service.generateResetToken email host w
    let mails :=
      (d.service.exchanges (.generateResetToken email host) w).filterMap Exchange.handed?
    let token := d.identity.tokenAt w.identity.drawn
    ((¬ ∃ user expiry, d.Recoverable w email user expiry) → mails = [] ∧ o.state = w) ∧
    ∀ user expiry, d.Recoverable w email user expiry →
      mails = [⟨[email], host, token⟩] ∧
      o.state.identity.keys.get? token =
        some ⟨user.id, email, .recovery, w.identity.now, expiry⟩ ∧
      (Set.InjOn d.identity.tokenAt (Set.Iic w.identity.drawn) →
        w.identity.keys.get? token = none) ∧
      ∀ conditions' moves',
        let s := d.runUnder conditions' (o.state, 0) moves'
        (∃ kept, s.1.accounts.byId? user.id = some kept ∧
          s.1.accounts.byEmail? email = some kept) ∧
        (Set.InjOn d.identity.tokenAt (Set.Iio s.1.identity.drawn) →
          (∀ now caller, (s.1.at now).caller? token = some caller →
            caller = ⟨user.id, email⟩ ∧ now < expiry) ∧
          (token ≠ "" → .identity (.revoke token) ∉ moves' → ∀ now, w.identity.now ≤ now →
            (∀ time ∈ d.timesUnder conditions' (o.state, 0) moves', time ≤ now) →
            ((s.1.at now).caller? token = some ⟨user.id, email⟩ ↔ now < expiry))) := by
  intro start w o mails token
  have wf : w.accounts.WellFormed := wellFormed_runUnder AccountStore.wellFormed_empty moves
  have drawn : w.identity.Drawn d.identity := drawn_runUnder (s := (start, 0)) moves (.of_empty rfl)
  refine ⟨fun h => no_mail_of_not_recoverable wf h host, fun user expiry recoverable => ?_⟩
  obtain ⟨hmails, hidentity, haccounts⟩ := mail_of_recoverable wf recoverable host
  have hemail := recoverable.email_eq
  have hissued : o.state.identity.KeyFate d.identity w.identity.drawn
      ⟨user.id, email, .recovery, w.identity.now, expiry⟩ ∅ ∅ :=
    hidentity ▸ hemail ▸ keyFate_recoveryIssued drawn.unique user expiry
  refine ⟨hmails, ?_, drawn.get?_next, fun conditions' moves' => ?_⟩
  · rw [hidentity, recoveryIssued, KeyTable.enroll, KeyTable.get?_insert, if_pos rfl, hemail]
  intro s
  have fate : s.1.identity.KeyFate d.identity w.identity.drawn
      ⟨user.id, email, .recovery, w.identity.now, expiry⟩
      (∅ ∪ d.timesUnder conditions' (o.state, 0) moves')
      (∅ ∪ {token | .identity (.revoke token) ∈ moves'}) :=
    keyFate_runUnder (s := (o.state, 0)) hissued moves'
  refine ⟨?_, fun distinct => ?_⟩
  · refine recoverable.same_record (wellFormed_runUnder (haccounts ▸ wf) moves') ?_
    exact haccounts ▸ keys_runUnder (s := (o.state, 0)) moves'
  have unrepeated := IdentityState.unrepeated_of_injOn (n := w.identity.drawn) distinct
  simp only [World.caller?_eq_some_iff]
  refine ⟨fun now caller h => fate.eq_of_resolve unrepeated h,
    fun htoken remembered now since forward => ?_⟩
  rw [Set.empty_union, Set.empty_union] at fate
  exact fate.resolve_iff unrepeated htoken remembered since forward

/-- A token that was mailed is looked up after some minutes, and is good up to the end of the
fifth. -/
theorem mailed_token_resolves :
    let conditions : Conditions := ⟨fun _ => ⟨0, 0, by decide⟩, fun _ _ => none⟩
    let identity : IdentityState TupleSet :=
      { now := ⟨0, 0, by decide⟩, agent := TupleSet.empty }
    let user : User := { id := "u1", email := "a@x.com" }
    let w := (miniature.runUnder conditions ({ identity, outside := () }, 0) [.port (.save user)]).1
    let token := (Uuid.ofEntropy 0).simple
    let s := miniature.runUnder conditions
      ((miniature.service.generateResetToken "a@x.com" "x.com" w).state, 0)
      [.clock ⟨200, 0, by decide⟩, .identity (.identify token)]
    miniature.Recoverable w "a@x.com" user ⟨300, 0, by decide⟩ ∧
      (s.1.at ⟨299, 0, by decide⟩).caller? token = some ⟨"u1", "a@x.com"⟩ := by
  intro conditions identity user w token s
  have recoverable : miniature.Recoverable w "a@x.com" user ⟨300, 0, by decide⟩ :=
    ⟨by decide, List.mem_singleton.mpr rfl, rfl, by decide⟩
  have hmailed := (recovery_mail_reaches_owner miniature conditions identity ()
    [.port (.save user)] "a@x.com" "x.com").2 user _ recoverable
  have hlater := (hmailed.2.2.2 conditions
    [.clock ⟨200, 0, by decide⟩, .identity (.identify token)]).2
  refine ⟨recoverable, ((hlater ?_).2 (Uuid.simple_ne_empty _) (by simp) ⟨299, 0, by decide⟩
    (by decide) ?_).mpr (by decide)⟩
  · exact Uuid.simple_injOn.mono (Set.Iio_subset_Iio (by decide))
  · rintro time (h | h | h)
    · exact h.elim
    · rw [Set.mem_singleton_iff.mp h]
      decide
    · exact h.elim

end Deployment

end AccessControl
