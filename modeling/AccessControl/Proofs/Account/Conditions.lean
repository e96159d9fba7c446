import AccessControl.Proofs.Deployment
import AccessControl.Proofs.Identity.Relay

/-!
# Faults and clocks

`Conditions` say at which time each backing call is made, and which calls fail instead of being
made. The calls are counted over a whole run, so that a clock that moves while a request is served
and faults at any place of it are covered. `Backing.under` is the backing that works under given
conditions; it keeps its records and relays the calls of the identity service as the backing does
that it is made of.
-/

namespace AccessControl

open AccessControl.Calendar

variable {σ σ' α ω : Type}

/-- The circumstances in which backing calls are made. -/
structure Conditions where
  /-- The time of the `n`-th call. -/
  clock : Nat → Timestamp
  /-- How the `n`-th call fails, if it is not to be made. -/
  fault : Nat → (call : BackingCall) → Option call.Failure

/-- The times that the clock shows from one call on until another one. -/
def Conditions.shown (conditions : Conditions) (start stop : Nat) : Set Timestamp :=
  {time | ∃ n, start ≤ n ∧ n < stop ∧ conditions.clock n = time}

/-- A longer stretch of a run shows more instants. -/
theorem Conditions.shown_mono (conditions : Conditions) {start stop start' stop' : Nat}
    (hstart : start' ≤ start) (hstop : stop ≤ stop') :
    conditions.shown start stop ⊆ conditions.shown start' stop' := by
  rintro time ⟨n, hn, hn', rfl⟩
  exact ⟨n, hstart.trans hn, hn'.trans_le hstop, rfl⟩

namespace Backing

variable {backing : Backing σ} {set : σ → Timestamp → σ} {conditions : Conditions}

/-- The backing at work under conditions: before each call the clock is set, and a call that is to
fail does nothing else. The calls are counted. -/
def under (backing : Backing σ) (set : σ → Timestamp → σ) (conditions : Conditions) :
    Backing (σ × Nat) := fun call s =>
  let there := set s.1 (conditions.clock s.2)
  match conditions.fault s.2 call with
  | some failure => ⟨.error failure, [], there, s.2 + 1⟩
  | none =>
    let o := backing call there
    ⟨o.result, o.events, o.state, s.2 + 1⟩

/-- Under conditions, a call fails without touching anything, or is the call at the instant shown.
-/
theorem under_cases (backing : Backing σ) (set : σ → Timestamp → σ) (conditions : Conditions)
    (call : BackingCall) (s : σ × Nat) :
    let o := backing.under set conditions call s
    let there := set s.1 (conditions.clock s.2)
    o.state.2 = s.2 + 1 ∧ ((∃ failure, o.result = .error failure) ∧ o.state.1 = there ∨
      o.result = (backing call there).result ∧ o.state.1 = (backing call there).state) := by
  unfold under
  cases conditions.fault s.2 call with
  | some failure => exact ⟨rfl, Or.inl ⟨⟨failure, rfl⟩, rfl⟩⟩
  | none => exact ⟨rfl, Or.inr ⟨rfl, rfl⟩⟩

/-- A backing stores its accounts under any conditions. -/
theorem StoresIn.under {accounts : σ → AccountStore} (stores : backing.StoresIn accounts)
    (hset : ∀ s now, accounts (set s now) = accounts s) :
    (backing.under set conditions).StoresIn fun s => accounts s.1 where
  reads call h s := by
    obtain ⟨_, ⟨_, hstate⟩ | ⟨_, hstate⟩⟩ :=
      under_cases backing set conditions call s
    · rw [hstate, hset]
    · rw [hstate, stores.reads call h, hset]
  fails call s error h := by
    obtain ⟨_, ⟨_, hstate⟩ | ⟨hresult, hstate⟩⟩ :=
      under_cases backing set conditions call s
    · rw [hstate, hset]
    · rw [hstate, stores.fails call _ error (hresult.symm.trans h), hset]
  saves user s id h := by
    obtain ⟨_, ⟨⟨failure, hfailure⟩, _⟩ | ⟨hresult, hstate⟩⟩ :=
      under_cases backing set conditions (.save user) s
    · rw [hfailure] at h
      cases h
    · rw [hstate, ← hset s.1 (conditions.clock s.2)]
      exact stores.saves user _ id (hresult.symm.trans h)
  updates call email f hcall s x h := by
    obtain ⟨_, ⟨⟨failure, hfailure⟩, _⟩ | ⟨hresult, hstate⟩⟩ :=
      under_cases backing set conditions call s
    · rw [hfailure] at h
      cases h
    · rw [hstate, ← hset s.1 (conditions.clock s.2)]
      exact stores.updates call email f hcall _ x (hresult.symm.trans h)

/-- A backing relays its identities under any conditions. -/
theorem Relays.under {service : LocalIdentity α} {identity : σ → IdentityState α}
    (relays : backing.Relays service identity fun s => (identity s).now)
    (hset : ∀ s now, identity (set s now) = (identity s).at now) :
    (backing.under set conditions).Relays service (fun s => identity s.1)
      fun s => conditions.clock s.2 where
  relayed call action h s := by
    have hthere := hset s.1 (conditions.clock s.2)
    obtain ⟨_, ⟨hfails, hstate⟩ | ⟨hresult, hstate⟩⟩ :=
      under_cases backing set conditions call s
    · exact Or.inl ⟨hfails, by rw [hstate, hthere]⟩
    · -- the clock shows the time at which it was set
      have hmade := relays.relayed call action h (set s.1 (conditions.clock s.2))
      rw [hthere] at hmade
      rw [hresult, hstate]
      exact hmade
  others call h s := by
    have hthere := hset s.1 (conditions.clock s.2)
    obtain ⟨_, ⟨_, hstate⟩ | ⟨_, hstate⟩⟩ :=
      under_cases backing set conditions call s
    · rw [hstate, hthere]
    · rw [hstate, relays.others call h, hthere]
      rfl

/-- A call that does in view of another backing what it does there also does so under conditions. -/
theorem under_view {backing' : Backing σ'} {set' : σ' → Timestamp → σ'} {view : σ → σ'}
    {call : BackingCall} (h : ∀ s, backing' call (view s) =
      ⟨(backing call s).result, (backing call s).events, view (backing call s).state⟩)
    (hset : ∀ s now, view (set s now) = set' (view s) now) (conditions : Conditions) (s : σ × Nat) :
    let o := backing.under set conditions call s
    backing'.under set' conditions call (view s.1, s.2) =
      ⟨o.result, o.events, view o.state.1, o.state.2⟩ := by
  unfold Backing.under
  cases conditions.fault s.2 call with
  | some failure => simp only [hset]
  | none => simp only [← hset, h]

/-- What is seen of one backing in another is seen under any conditions. -/
theorem Projects.under {backing' : Backing σ'} {set' : σ' → Timestamp → σ'} {view : σ → σ'}
    (projects : backing.Projects backing' view)
    (hset : ∀ s now, view (set s now) = set' (view s) now) (conditions : Conditions) :
    (backing.under set conditions).Projects (backing'.under set' conditions)
      fun s => (view s.1, s.2) :=
  fun call => under_view (projects call) hset conditions

end Backing

/-! ## Many requests -/

namespace AccountService

variable {service : AccountService σ}

/-- What serving some requests, one after the other, makes of a state. -/
def serveAll (service : AccountService σ) (s : σ) (requests : List ServiceCall) : σ :=
  requests.foldl (fun s request => (service.serve request s).state) s

theorem serveAll_cons (service : AccountService σ) (s : σ) (request : ServiceCall)
    (requests : List ServiceCall) : service.serveAll s (request :: requests) =
      service.serveAll (service.serve request s).state requests := rfl

/-- What every request keeps, a run of requests keeps. -/
theorem serveAll_keeps (inv : σ → Prop)
    (keeps : ∀ request s, inv s → inv (service.serve request s).state) {s : σ} (start : inv s)
    (requests : List ServiceCall) : inv (service.serveAll s requests) := by
  induction requests generalizing s with
  | nil => exact start
  | cons request requests ih => exact ih (keeps request s start)

/-- A run of requests over a backing leads, in the view, where it leads over the other one. -/
theorem serveAll_view {backing : Backing σ} {backing' : Backing σ'} {view : σ → σ'}
    (projects : backing.Projects backing' view) (accepts : String → Bool)
    (requests : List ServiceCall) (s : σ) :
    serveAll ⟨backing', accepts⟩ (view s) requests =
      view (serveAll ⟨backing, accepts⟩ s requests) := by
  induction requests generalizing s with
  | nil => rfl
  | cons request requests ih =>
    rw [serveAll_cons, serveAll_cons, ← ih]
    exact congrArg (serveAll _ ·.state requests)
      (Script.run_view projects (request.script accepts) s)

end AccountService

/-! ## Deployments -/

/-- The world with the clock of the identity service at a given time. -/
def World.at (w : World α ω) (now : Timestamp) : World α ω :=
  { w with identity := w.identity.at now }

namespace Deployment

variable (d : Deployment α ω) (conditions : Conditions)

/-- In a deployment the calls of the identity service are relayed to it. -/
theorem relays : d.backing.Relays d.identity World.identity fun w => w.identity.now where
  relayed call action h w := by
    right
    cases call with
    | issue | identify | members | authorize | addPolicy =>
      cases h
      exact ⟨rfl, rfl⟩
    | _ => cases h
  others call h w := by
    cases call with
    | issue | identify | members | authorize | addPolicy => cases h
    | _ => rfl

/-- The account service of the deployment, at work under conditions. -/
def serviceUnder : AccountService (World α ω × Nat) :=
  ⟨d.backing.under World.at conditions, d.accepts⟩

/-- What a move makes of the world and the count of calls, if requests are served under
conditions. -/
def moveUnder (s : World α ω × Nat) : Move → World α ω × Nat
  | .serve request => ((d.serviceUnder conditions).serve request s).state
  | m => (d.move s.1 m, s.2)

/-- What a list of moves makes of the world and the count of calls. -/
def runUnder (s : World α ω × Nat) (moves : List Move) : World α ω × Nat :=
  moves.foldl (d.moveUnder conditions) s

/-- A deployment stores its accounts under any conditions. -/
theorem storesInUnder : (d.serviceUnder conditions).backing.StoresIn fun s => s.1.accounts := by
  show (d.backing.under World.at conditions).StoresIn _
  exact d.storesIn.under fun _ _ => rfl

/-- A deployment relays its identities under any conditions. -/
theorem relaysUnder : (d.serviceUnder conditions).backing.Relays d.identity
    (fun s => s.1.identity) fun s => conditions.clock s.2 := by
  show (d.backing.under World.at conditions).Relays _ _ _
  exact d.relays.under fun _ _ => rfl

/-- Every call is counted, made or not. -/
theorem count_call (call : BackingCall) (s : World α ω × Nat) :
    ((d.serviceUnder conditions).backing call s).state.2 = s.2 + 1 :=
  (Backing.under_cases d.backing World.at conditions call s).1

end Deployment

end AccessControl
