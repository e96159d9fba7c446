import AccessControl.Proofs.Policy.TupleServer
import AccessControl.Proofs.Policy.TupleSet

/-!
# The agent in memory and the remote agent answer alike

Two agents whose answers agree on related states, and whose states stay related, give the same
answers to every list of requests (`PolicyAgent.answers_eq_of_step`).

The remote agent and the agent in memory are such a pair, with states related when the server and
the memory hold the same tuples: `RemoteAgent.check_of_keepsTuples` and
`RemoteAgent.add_of_keepsTuples` say what a request comes to at a server that keeps tuples. So from
an empty server and an empty memory on, no list of requests tells one from the other.
-/

namespace AccessControl

open AccessControl.Http
open AccessControl.Json
open AccessControl.TupleServer

/-! ## Lists of requests -/

namespace PolicyAgent

variable {α β : Type} {agent : PolicyAgent α} {agent' : PolicyAgent β}

/-- Puts a request to an agent. -/
def perform (agent : PolicyAgent α) : AgentRequest × RelationTuple → Action α PolicyError Unit
  | (.check, t) => agent.check t
  | (.add, t) => agent.add t

/-- The answers to requests that are put one after the other. -/
def answers (agent : PolicyAgent α) :
    List (AgentRequest × RelationTuple) → α → List (Except PolicyError Unit)
  | [], _ => []
  | request :: requests, a =>
    let o := agent.perform request a
    o.result :: agent.answers requests o.state

/-- The state after requests that are put one after the other. -/
def after (agent : PolicyAgent α) (requests : List (AgentRequest × RelationTuple)) (a : α) : α :=
  requests.foldl (fun a request => (agent.perform request a).state) a

/-- Agents that answer each request alike from related states, and stay related, answer every list
of requests alike. -/
theorem answers_eq_of_step {R : α → β → Prop} {requests : List (AgentRequest × RelationTuple)}
    (hstep : ∀ request ∈ requests, ∀ a b, R a b →
      (agent.perform request a).result = (agent'.perform request b).result ∧
        R (agent.perform request a).state (agent'.perform request b).state)
    {a : α} {b : β} (h : R a b) :
    agent.answers requests a = agent'.answers requests b ∧
      R (agent.after requests a) (agent'.after requests b) := by
  induction requests generalizing a b with
  | nil => exact ⟨rfl, h⟩
  | cons request requests ih =>
    obtain ⟨hresult, hstate⟩ := hstep request List.mem_cons_self a b h
    obtain ⟨hanswers, hafter⟩ :=
      ih (fun r hr => hstep r (List.mem_cons_of_mem request hr)) hstate
    refine ⟨?_, hafter⟩
    rw [answers, answers, hresult, hanswers]

end PolicyAgent

/-! ## Single requests -/

/-- A response that is not provisional ends the exchange. -/
theorem Http.exchange_run {σ : Type} {server : Server σ} {request : Request} {response : Response}
    {s : σ} (husable : request.url.isUsable = true)
    (hresult : (server request s).result = .ok response)
    (hstatus : Status.isProvisional response.status = false) :
    (exchange server (some request) s).result = .ok response ∧
      (exchange server (some request) s).state = (server request s).state := by
  rcases hserver : server request s with ⟨result, events, s'⟩
  rw [hserver] at hresult
  subst hresult
  simp only [exchange, if_pos husable, Action.bind_run, hserver, hstatus, Bool.false_eq_true,
    if_false, Action.pure_run, and_self]

namespace RemoteAgent

variable {σ : Type} {a : RemoteAgent} {server : Server σ} {tuples : σ → Set RelationTuple}
  {asking granting : List (List Char)}

/-- The addresses of the agent are those of a server that takes questions and grants at these
paths. -/
structure Reaches (a : RemoteAgent) (asking granting : List (List Char)) : Prop where
  asks : ∃ url, Url.ofChars? (a.readBase ++ "/relation-tuples/check".toList) = some url ∧
    url.path = asking ∧ url.query = none
  grants : ∃ url, Url.ofChars? (a.writeBase ++ "/admin/relation-tuples".toList) = some url ∧
    url.path = granting ∧ url.isUsable = true

/-- Whether the address of a question is short enough to be requested. -/
def fits (a : RemoteAgent) (t : RelationTuple) : Bool :=
  (a.checkRequest? t).all (·.url.isUsable)

/-- The answer of a server of tuples is judged as it says. -/
theorem judgeCheck_answer (t : RelationTuple) (allowed : Bool) (s : σ) :
    judgeCheck t (answer allowed) s =
      ⟨if allowed = true then .ok () else .error .denied, [], s⟩ := by
  cases allowed with
  | false => rfl
  | true =>
    have hcontent : (answer true).content = (answer true).body := if_neg (by decide)
    rw [judgeCheck, if_neg (by decide), if_pos (by decide), hcontent, ofText_answer]
    rfl

/-- The question about a tuple at an address. -/
def questionAt (url : Url) (t : RelationTuple) : Request where
  method := .get
  url := url.withPairs (t.wirePairs.map fun (k, v) => (k.toList, v.toList))

/-- The grant of a tuple at an address. -/
def grantAt (url : Url) (t : RelationTuple) : Request where
  method := .patch
  url := url
  contentType := some "application/json"
  body := t.insertion.text

/-- A question is answered by membership, and changes nothing. -/
theorem check_of_keepsTuples (hreaches : a.Reaches asking granting)
    (hserver : KeepsTuples server tuples asking granting) {t : RelationTuple}
    (hfits : a.fits t = true) (s : σ) :
    ∃ allowed, (allowed = true ↔ t ∈ tuples s) ∧
      ((a.agent server).check t s).result =
        (if allowed = true then .ok () else .error .denied) ∧
      tuples ((a.agent server).check t s).state = tuples s := by
  obtain ⟨url, hurl, hpath, hquery⟩ := hreaches.asks
  have hrequest : a.checkRequest? t = some (questionAt url t) := by
    rw [checkRequest?, hurl]
    rfl
  have hspelt : WireTuple.ofQuery? (questionAt url t).url.query = some (.of t) := by
    rw [questionAt, Url.withPairs, hquery]
    exact WireTuple.ofQuery?_encode t
  rw [fits, hrequest, Option.all_some] at hfits
  obtain ⟨allowed, hallowed, hresult, hstate⟩ :=
    hserver.asked (questionAt url t) s t rfl hpath hspelt
  obtain ⟨hanswer, hafter⟩ := exchange_run hfits hresult (by cases allowed <;> rfl)
  refine ⟨allowed, hallowed, ?_⟩
  rw [← hstate, ← hafter]
  simp only [agent, hrequest, Action.bind_run, Action.attempt_run, hanswer, judgeCheck_answer,
    and_self]

/-- A grant is taken. -/
theorem add_of_keepsTuples (hreaches : a.Reaches asking granting)
    (hserver : KeepsTuples server tuples asking granting) (t : RelationTuple) (s : σ) :
    ((a.agent server).add t s).result = .ok () ∧
      tuples ((a.agent server).add t s).state = insert t (tuples s) := by
  obtain ⟨url, hurl, hpath, husable⟩ := hreaches.grants
  have hrequest : a.grantRequest? t = some (grantAt url t) := by
    rw [grantRequest?, hurl]
    rfl
  obtain ⟨hresult, hstate⟩ :=
    hserver.granted (grantAt url t) s [t] rfl hpath rfl (Delta.listOf_insertion t)
  obtain ⟨hanswer, hafter⟩ := exchange_run husable hresult rfl
  have hinsert : tuples (server (grantAt url t) s).state = insert t (tuples s) := by
    rw [hstate, Set.insert_eq]
    simp
  have hjudge : judgeGrant (σ := σ) t ⟨204, ""⟩ = pure () := if_neg (by decide)
  rw [← hinsert, ← hafter]
  simp only [agent, hrequest, Action.bind_run, Action.attempt_run, hanswer, hjudge,
    Action.pure_run, and_self]

/-! ## Parity -/

/-- The remote agent before an empty server that keeps tuples and the agent in memory before its
first tuple give the same answers to all requests, and hold the same tuples after them. -/
theorem answers_as_in_memory (hreaches : a.Reaches asking granting)
    (hserver : KeepsTuples server tuples asking granting)
    {requests : List (AgentRequest × RelationTuple)}
    (hfits : ∀ request ∈ requests, request.1 = .check → a.fits request.2 = true)
    {s : σ} (hfresh : tuples s = ∅) :
    (a.agent server).answers requests s = TupleSet.agent.answers requests TupleSet.empty ∧
      tuples ((a.agent server).after requests s) =
        (TupleSet.agent.after requests TupleSet.empty).toSet := by
  refine PolicyAgent.answers_eq_of_step (R := fun s kept => tuples s = TupleSet.toSet kept) ?_
    (hfresh.trans TupleSet.toSet_empty.symm)
  rintro ⟨kind, t⟩ hmem s kept hsame
  cases kind with
  | check =>
    obtain ⟨allowed, hallowed, hresult, hstate⟩ :=
      check_of_keepsTuples hreaches hserver (hfits _ hmem rfl) s
    have hholds : allowed = kept.holds t := by
      rw [Bool.eq_iff_iff, hallowed, hsame, TupleSet.mem_toSet]
    simp only [PolicyAgent.perform, TupleSet.check_run]
    exact ⟨hresult.trans (by rw [hholds]), hstate.trans hsame⟩
  | add =>
    obtain ⟨hresult, hstate⟩ := add_of_keepsTuples hreaches hserver t s
    simp only [PolicyAgent.perform, TupleSet.add_run]
    exact ⟨hresult, by rw [hstate, hsame, TupleSet.toSet_insert]⟩

/-- A subject with marks of forms and of JSON is told from one with a space for the plus sign. -/
theorem answers_on_marked_names :
    (agent ⟨"http://127.0.0.1:4466".toList, "http://127.0.0.1:4467".toList⟩ serve).answers
        [(.check, ⟨"a+b&c=%20#\"é\"", "", "member"⟩),
          (.add, ⟨"a+b&c=%20#\"é\"", "", "member"⟩),
          (.check, ⟨"a+b&c=%20#\"é\"", "", "member"⟩),
          (.check, ⟨"a b&c=%20#\"é\"", "", "member"⟩)] ∅ =
      [.error .denied, .ok (), .ok (), .error .denied] :=
  (answers_as_in_memory ⟨⟨_, rfl, rfl, rfl⟩, _, rfl, rfl, by decide⟩ serve_keepsTuples
    (by decide +kernel) Finset.coe_empty).1.trans rfl

end RemoteAgent

end AccessControl
