import AccessControl.Proofs.Account.Conditions
import AccessControl.Proofs.Account.Courses
import Mathlib.Data.List.Induction

/-!
# Where stored passwords come from

The calls of a request tell what became of the store (`Backing.StoresIn.after_exchanges`), and the
courses of requests tell what these calls were. So every record of a store that was empty at first
has an *origin* in the requests that were served since: its id was drawn for a registration of its
email, and what it holds for a password is a hash that the last request to write it had made of a
password that it was given and that is good enough (`AccountService.stored_passwords_hashed`).
-/

namespace AccessControl

variable {σ ω : Type}

/-! ## The store behind some calls -/

/-- What a call that ended so made of a store. -/
def AccountStore.after (store : AccountStore) : Exchange → AccountStore
  | ⟨.save user, .ok _⟩ => ⟨store.users ++ [user]⟩
  | ⟨.updateUser user, .ok _⟩ =>
    store.modifyByEmail user.email ({ · with metadata := user.metadata })
  | ⟨.updatePassword email hash, .ok _⟩ =>
    store.modifyByEmail email ({ · with password := hash })
  | _ => store

namespace Backing.StoresIn

variable {backing : Backing σ} {service : AccountService σ} {accounts : σ → AccountStore}

/-- Behind a call, the accounts are those that its exchange leaves. -/
theorem after_call (stores : backing.StoresIn accounts) (call : BackingCall) (s : σ) :
    accounts (backing call s).state = (accounts s).after ⟨call, (backing call s).result⟩ := by
  cases h : (backing call s).result with
  | error error =>
    rw [stores.fails call s error h]
    cases call <;> rfl
  | ok x =>
    cases call with
    | save user =>
      obtain ⟨hsave, hstate⟩ := stores.saves user s x h
      exact hstate.trans (AccountStore.save_of_ok hsave).2.2.2.2
    | updateUser | updatePassword =>
      obtain ⟨hupdate, hstate⟩ := stores.updates _ _ _ rfl s x h
      exact hstate.trans (AccountStore.update_of_ok hupdate).2
    | _ => exact stores.reads _ id s

/-- The calls of a request tell what became of the store. -/
theorem after_exchanges (stores : service.backing.StoresIn accounts) (request : ServiceCall)
    (s : σ) : accounts (service.serve request s).state =
      (service.exchanges request s).foldl AccountStore.after (accounts s) :=
  AccountService.exchanges_induction
    (motive := fun s calls s' => accounts s' = calls.foldl AccountStore.after (accounts s))
    (fun _ => rfl)
    (fun s call calls s' ih => by rw [ih, stores.after_call, List.foldl_cons]) request s

/-- No request breaks the store. -/
theorem wellFormed_serve (stores : service.backing.StoresIn accounts) (request : ServiceCall)
    {s : σ} (wf : (accounts s).WellFormed) :
    (accounts (service.serve request s).state).WellFormed :=
  Script.run_keeps (fun s => (accounts s).WellFormed)
    (fun call _ _ wf => stores.wellFormed_call call wf) (Script.only_true _) wf

end Backing.StoresIn

/-! ## What a request does to the store -/

/-- The password that a request is given to be stored. -/
def ServiceCall.newPassword? : ServiceCall → Option String
  | register _ user => some user.password
  | resetPassword _ password => some password
  | changePassword _ password _ => some password
  | _ => none

/-- The email of a record that a call wrote a password into, and what it wrote. -/
def Exchange.password? : Exchange → Option (String × String)
  | ⟨.save user, .ok _⟩ => some (user.email, user.password)
  | ⟨.updatePassword email hash, .ok _⟩ => some (email, hash)
  | _ => none

/-- The calls write this hash into the record of an email, and made it of a password that the
request was given and that is good enough. -/
structure Renews (accepts : String → Bool) (request : ServiceCall) (calls : List Exchange)
    (email hash : String) : Prop where
  hashed : ∃ password, request.newPassword? = some password ∧ accepts password = true ∧
    ⟨.hash password, .ok hash⟩ ∈ calls
  written : (email, hash) ∈ calls.filterMap Exchange.password?

/-- What the calls of a request make of a store. -/
inductive Writing (accepts : String → Bool) (calls : List Exchange) (store : AccountStore) :
    ServiceCall → AccountStore → Prop
  | kept {request : ServiceCall} : Writing accepts calls store request store
  | registered {token : String} {user : User} {id hash : String} (valid : user.validate = .ok ())
      (drawn : ⟨.freshId, .ok id⟩ ∈ calls)
      (renews : Renews accepts (.register token user) calls user.email hash) :
      Writing accepts calls store (.register token user)
        ⟨store.users ++ [{ user with id := id, password := hash }]⟩
  | changed {request : ServiceCall} {email : String} {metadata : Metadata} :
      Writing accepts calls store request
        (store.modifyByEmail email ({ · with metadata := metadata }))
  | renewed {request : ServiceCall} {email hash : String}
      (renews : Renews accepts request calls email hash) :
      Writing accepts calls store request
        (store.modifyByEmail email ({ · with password := hash }))

/-- A valid record has an email address. -/
theorem User.isEmail_of_validate {user : User} (valid : user.validate = .ok ()) :
    Email.isEmail user.email.toList = true := by
  unfold validate at valid
  by_contra hemail
  rw [if_pos (by simp [hemail])] at valid
  cases valid

section Writing

variable {accepts : String → Bool} {request : ServiceCall} {calls : List Exchange}
  {store : AccountStore}

/-- The gate of a registration writes no account. -/
theorem Gate.foldl_after {token : String} {gate : List Exchange} {passes : Bool}
    (gated : Gate token gate passes) : gate.foldl AccountStore.after store = store := by
  cases gated <;> rfl

/-- What stops leaves the store as it was. -/
theorem Stops.foldl_after {error : AccountError} (stops : Stops accepts request calls error) :
    calls.foldl AccountStore.after store = store := by
  cases stops with
  | turnedAway turned => cases turned <;> rfl
  | invalid passed | weak passed => exact passed.foldl_after
  | unenrolled passed acceptable stops =>
    rw [List.foldl_append, passed.foldl_after]
    cases stops <;> rfl
  | unreset named there accepted stops | changeUndone accepted there stops => cases stops <;> rfl
  | _ => rfl

/-- A request that completes keeps the store, or writes it as this request may. -/
theorem Completes.writing {x : request.Answer} (completes : Completes accepts request calls x) :
    Writing accepts calls store request (calls.foldl AccountStore.after store) := by
  cases completes with
  | registered passed acceptable =>
    rw [List.foldl_append, passed.foldl_after]
    refine .registered acceptable.1 (by simp) ⟨⟨_, rfl, acceptable.2, by simp⟩, ?_⟩
    simp [Exchange.password?]
  | changed => exact .changed
  | reset named there accepted | renewed accepted there =>
    exact .renewed ⟨⟨_, rfl, accepted, by simp⟩, by simp [Exchange.password?]⟩
  | _ => exact .kept

/-- However a request ends, it keeps the store, or writes it as this request may. -/
theorem Ends.writing {result : Except AccountError request.Answer}
    (ends : Ends accepts request calls result) (store : AccountStore) :
    Writing accepts calls store request (calls.foldl AccountStore.after store) := by
  cases result with
  | error error =>
    rw [Stops.foldl_after ends]
    exact .kept
  | ok x => exact Completes.writing ends

end Writing

/-! ## Origins -/

/-- Where a record comes from, behind some requests: a registration of its email drew its id, and
some request wrote its password, which no later one replaced. -/
structure AccountService.Origin (service : AccountService σ) (accounts : σ → AccountStore)
    (start : σ) (requests : List ServiceCall) (u : User) : Prop where
  isEmail : Email.isEmail u.email.toList = true
  drawn : ∃ earlier token user later, requests = earlier ++ .register token user :: later ∧
    user.email = u.email ∧
    ⟨.freshId, .ok u.id⟩ ∈
      service.exchanges (.register token user) (service.serveAll start earlier)
  hashed : ∃ earlier request later, requests = earlier ++ request :: later ∧
    Renews service.accepts request (service.exchanges request (service.serveAll start earlier))
      u.email u.password ∧
    ∀ since, since <+: later →
      ∃ v ∈ (accounts (service.serveAll start (earlier ++ request :: since))).users,
        v.id = u.id ∧ v.password = u.password

namespace AccountService

variable {service : AccountService σ} {accounts : σ → AccountStore} {start : σ}
  {requests : List ServiceCall} {request : ServiceCall} {u v : User}

theorem serveAll_snoc (service : AccountService σ) (s : σ) (requests : List ServiceCall)
    (request : ServiceCall) : service.serveAll s (requests ++ [request]) =
      (service.serve request (service.serveAll s requests)).state := by
  rw [serveAll, List.foldl_append]
  rfl

/-- A record that keeps its id and its email keeps the registration it comes from. -/
theorem Origin.drawn_snoc (origin : service.Origin accounts start requests v) (hid : v.id = u.id)
    (hemail : v.email = u.email) :
    ∃ earlier token user later,
      requests ++ [request] = earlier ++ .register token user :: later ∧ user.email = u.email ∧
      ⟨.freshId, .ok u.id⟩ ∈
        service.exchanges (.register token user) (service.serveAll start earlier) := by
  obtain ⟨earlier, token, user, later, rfl, huser, hdrawn⟩ := origin.drawn
  exact ⟨earlier, token, user, later ++ [request], by simp, huser.trans hemail, hid ▸ hdrawn⟩

/-- A record that a request leaves its id, its email and its password keeps its origin. -/
theorem Origin.snoc (origin : service.Origin accounts start requests v)
    (hu : u ∈ (accounts (service.serveAll start (requests ++ [request]))).users)
    (hid : v.id = u.id) (hemail : v.email = u.email) (hpassword : v.password = u.password) :
    service.Origin accounts start (requests ++ [request]) u where
  isEmail := hemail ▸ origin.isEmail
  drawn := origin.drawn_snoc hid hemail
  hashed := by
    obtain ⟨earlier, writer, later, rfl, renews, since⟩ := origin.hashed
    refine ⟨earlier, writer, later ++ [request], by simp, hemail ▸ hpassword ▸ renews, ?_⟩
    intro prior hprior
    obtain rfl | hprior := List.prefix_concat_iff.mp hprior
    · exact ⟨u, by simpa using hu, rfl, rfl⟩
    · obtain ⟨w, hw, hwid, hwpassword⟩ := since prior hprior
      exact ⟨w, hw, hwid.trans hid, hwpassword.trans hpassword⟩

/-- A record whose password was written just now has its origin there. -/
theorem hashed_of_renews
    (renews : Renews service.accepts request
      (service.exchanges request (service.serveAll start requests)) u.email u.password)
    (hu : u ∈ (accounts (service.serveAll start (requests ++ [request]))).users) :
    ∃ earlier writer later, requests ++ [request] = earlier ++ writer :: later ∧
      Renews service.accepts writer (service.exchanges writer (service.serveAll start earlier))
        u.email u.password ∧
      ∀ since, since <+: later →
        ∃ v ∈ (accounts (service.serveAll start (earlier ++ writer :: since))).users,
          v.id = u.id ∧ v.password = u.password := by
  refine ⟨requests, request, [], rfl, renews, fun since hsince => ?_⟩
  obtain rfl := List.prefix_nil.mp hsince
  exact ⟨u, hu, rfl, rfl⟩

/-- Another request leaves every record with an origin. -/
theorem origin_step (stores : service.backing.StoresIn accounts)
    (origins : ∀ v ∈ (accounts (service.serveAll start requests)).users,
      service.Origin accounts start requests v)
    (hu : u ∈ (accounts (service.serveAll start (requests ++ [request]))).users) :
    service.Origin accounts start (requests ++ [request]) u := by
  have ends := Script.ends_of_transcript
    (service.transcript_exchanges request (service.serveAll start requests))
  have writing := ends.writing (accounts (service.serveAll start requests))
  rw [← stores.after_exchanges, ← serveAll_snoc] at writing
  generalize hstore : accounts (service.serveAll start (requests ++ [request])) = store at writing
  have hu' := hstore ▸ hu
  -- a record is new, or the request leaves its password as it was, or the request renews it
  cases writing with
  | kept => exact (origins u hu').snoc hu rfl rfl rfl
  | registered valid drawn renews =>
    have isEmail := User.isEmail_of_validate valid
    rcases List.mem_append.mp hu' with hold | hnew
    · exact (origins u hold).snoc hu rfl rfl rfl
    · obtain rfl := List.mem_singleton.mp hnew
      exact ⟨isEmail, ⟨requests, _, _, [], rfl, rfl, drawn⟩, hashed_of_renews renews hu⟩
  | changed =>
    obtain ⟨v, hv, rfl⟩ := List.mem_map.mp hu'
    refine (origins v hv).snoc hu ?_ ?_ ?_ <;> split <;> rfl
  | @renewed _ email hash renews =>
    obtain ⟨v, hv, rfl⟩ := List.mem_map.mp hu'
    by_cases hemail : v.email = email
    · obtain rfl := hemail
      rw [if_pos rfl] at hu ⊢
      exact ⟨(origins v hv).isEmail, (origins v hv).drawn_snoc rfl rfl, hashed_of_renews renews hu⟩
    · rw [if_neg hemail] at hu ⊢
      exact (origins v hv).snoc hu rfl rfl rfl

/-- Every record has an origin, if there were none at first. -/
theorem origin_of_mem (stores : service.backing.StoresIn accounts)
    (empty : (accounts start).users = []) (requests : List ServiceCall) :
    ∀ u ∈ (accounts (service.serveAll start requests)).users,
      service.Origin accounts start requests u := by
  induction requests using List.reverseRecOn with
  | nil =>
    intro u hu
    rw [show accounts (service.serveAll start []) = accounts start from rfl, empty] at hu
    cases hu
  | append_singleton requests request ih => exact fun u hu => origin_step stores ih hu

end AccountService

/-! ## The repository in memory -/

namespace AccountStore

/-- The action of the repository that a call asks for, if it belongs to it. -/
def onCall? : (call : BackingCall) → Option (Action AccountStore call.Failure call.Answer)
  | .save user => some (save user)
  | .updateUser user => some (updateUser user)
  | .byEmail email => some (byEmail email)
  | .byId id => some (byId id)
  | .list query => some (list query)
  | .updatePassword email hash => some (updatePassword email hash)
  | _ => none

/-- The repository takes the calls that belong to it, and `others` stands behind all other calls. -/
def inFrontOf (others : Backing ω) : Backing (AccountStore × ω) := fun call =>
  match onCall? call with
  | some action => Action.zoom Prod.fst (fun s store => (store, s.2)) action
  | none => Action.zoom Prod.snd (fun s other => (s.1, other)) (others call)

/-- A store in front of other ports stores its accounts. -/
theorem inFrontOf_storesIn (others : Backing ω) : (inFrontOf others).StoresIn Prod.fst where
  reads call h s := by
    cases call with
    | save | updateUser | updatePassword => exact absurd trivial h
    | byEmail email => exact congrArg Outcome.state (byEmail_run email s.1)
    | byId id => exact congrArg Outcome.state (byId_run id s.1)
    | _ => rfl
  fails call s error h := by
    cases call with
    | save user => exact save_state_of_error h
    | updateUser | updatePassword => exact update_state_of_error h
    | byEmail email => exact congrArg Outcome.state (byEmail_run email s.1)
    | byId id => exact congrArg Outcome.state (byId_run id s.1)
    | _ => rfl
  saves user s id h := ⟨h, rfl⟩
  updates call email f hcall s x h := by
    cases call with
    | updateUser | updatePassword =>
      cases hcall
      exact ⟨h, rfl⟩
    | _ => cases hcall

end AccountStore

/-- Whatever stands beside the repository in memory, and whatever passwords are good enough: behind
any requests to a service whose repository was empty at first, every record has
* an id that is not empty and was drawn for a registration of its email, which is an address;
* for a password a hash that was made of a password that is good enough, for the last request that
  wrote the record and out of what that request was given. -/
theorem AccountService.stored_passwords_hashed (others : Backing ω) (accepts : String → Bool)
    (o : ω) (requests : List ServiceCall) :
    let service : AccountService (AccountStore × ω) := ⟨AccountStore.inFrontOf others, accepts⟩
    ∀ u ∈ (service.serveAll ({}, o) requests).1.users,
      u.id ≠ "" ∧ service.Origin Prod.fst ({}, o) requests u := by
  intro service u hu
  have stores : service.backing.StoresIn Prod.fst := AccountStore.inFrontOf_storesIn others
  have wf : (service.serveAll ({}, o) requests).1.WellFormed :=
    serveAll_keeps (fun s : AccountStore × ω => s.1.WellFormed)
      (fun request _ wf => stores.wellFormed_serve request wf) AccountStore.wellFormed_empty
      requests
  exact ⟨wf.ids_ne u hu, origin_of_mem stores rfl requests u hu⟩

end AccessControl
