import AccessControl.Identity.Local
import AccessControl.Proofs.Policy.TupleSet

/-!
# What an agent was asked, and how it answered

An agent can be made to record its requests with their endings. Two agents *concur* as far as their
questions are answered with yes in both logs or in none, and their grants end alike; what stands
behind a no may differ (`AgentsConcur`).

Agents `KeepAlike` if requests that end alike change the same tuples alike: all agents that keep a
set of tuples do (`PolicyAgent.Keeps.keepAlike`).
-/

namespace AccessControl

variable {α β τ : Type}

/-- A request to an agent, and how it ended. -/
structure AgentExchange where
  request : AgentRequest
  tuple : RelationTuple
  ending : Except PolicyError Unit

namespace AgentExchange

/-- Two questions were both answered with yes or both not, and two grants ended alike. -/
def Concur : AgentExchange → AgentExchange → Prop
  | ⟨.check, _, ending⟩, ⟨.check, _, ending'⟩ => ending.isOk = ending'.isOk
  | ⟨.add, _, ending⟩, ⟨.add, _, ending'⟩ => ending = ending'
  | _, _ => True

instance decidableConcur : (e e' : AgentExchange) → Decidable (e.Concur e')
  | ⟨.check, _, ending⟩, ⟨.check, _, ending'⟩ =>
    inferInstanceAs (Decidable (ending.isOk = ending'.isOk))
  | ⟨.add, _, ending⟩, ⟨.add, _, ending'⟩ => inferInstanceAs (Decidable (ending = ending'))
  | ⟨.check, _, _⟩, ⟨.add, _, _⟩ => .isTrue trivial
  | ⟨.add, _, _⟩, ⟨.check, _, _⟩ => .isTrue trivial

end AgentExchange

/-- Request by request two agents concur, as far as both logs go. -/
def AgentsConcur (log log' : List AgentExchange) : Prop :=
  ∀ p ∈ log.zip log', p.1.Concur p.2

instance (log log' : List AgentExchange) : Decidable (AgentsConcur log log') :=
  inferInstanceAs (Decidable (∀ p ∈ log.zip log', p.1.Concur p.2))

/-- No question of the first log is answered with yes in the second log only. -/
def NoNewYes (log log' : List AgentExchange) : Prop :=
  ∀ t, ⟨.check, t, .ok ()⟩ ∈ log' → ∀ ending, ⟨.check, t, ending⟩ ∈ log → ending = .ok ()

namespace AgentsConcur

variable {log log' earlier earlier' : List AgentExchange} {e e' : AgentExchange}

/-- The beginnings of logs that concur do so. -/
theorem of_prefix (concur : AgentsConcur log log') (h : earlier <+: log) (h' : earlier' <+: log') :
    AgentsConcur earlier earlier' := by
  have hextends {n : Nat} {e : AgentExchange} {start whole : List AgentExchange}
      (hstart : start <+: whole) (hn : start[n]? = some e) : whole[n]? = some e := by
    obtain ⟨later, rfl⟩ := hstart
    rw [List.getElem?_append_left (List.getElem?_eq_some_iff.mp hn).1]
    exact hn
  intro p hp
  obtain ⟨n, hn⟩ := List.mem_iff_getElem?.mp hp
  obtain ⟨hleft, hright⟩ := List.getElem?_zip_eq_some.mp hn
  refine concur p (List.mem_of_getElem? (i := n) ?_)
  exact List.getElem?_zip_eq_some.mpr ⟨hextends h hleft, hextends h' hright⟩

/-- Requests at the same place of logs that concur do so. -/
theorem last (concur : AgentsConcur (log ++ [e]) (log' ++ [e'])) (h : log.length = log'.length) :
    e.Concur e' := by
  refine concur (e, e') ?_
  rw [List.zip_append h]
  exact List.mem_append_right _ List.mem_cons_self

end AgentsConcur

namespace PolicyAgent

variable {agent : PolicyAgent α} {agent' : PolicyAgent β} {tuples : α → τ} {tuples' : β → τ}

/-- The agent that records every request behind those recorded before. -/
def recorded (agent : PolicyAgent α) : PolicyAgent (α × List AgentExchange) where
  check t := fun s =>
    let o := agent.check t s.1
    ⟨o.result, o.events, (o.state, s.2 ++ [⟨.check, t, o.result⟩])⟩
  add t := fun s =>
    let o := agent.add t s.1
    ⟨o.result, o.events, (o.state, s.2 ++ [⟨.add, t, o.result⟩])⟩

/-- Requests to two agents that end alike change the same tuples alike. Of a question only counts
whether it was answered with yes. -/
structure KeepAlike (agent : PolicyAgent α) (agent' : PolicyAgent β) (tuples : α → τ)
    (tuples' : β → τ) : Prop where
  asked : ∀ t a a', tuples a = tuples' a' →
    (agent.check t a).result.isOk = (agent'.check t a').result.isOk →
      tuples (agent.check t a).state = tuples' (agent'.check t a').state
  granted : ∀ t a a', tuples a = tuples' a' → (agent.add t a).result = (agent'.add t a').result →
    tuples (agent.add t a).state = tuples' (agent'.add t a').state

/-- Agents that keep a set of tuples keep them alike. -/
theorem Keeps.keepAlike {tuples : α → Set RelationTuple} {tuples' : β → Set RelationTuple}
    (keeps : agent.Keeps tuples) (keeps' : agent'.Keeps tuples') :
    agent.KeepAlike agent' tuples tuples' where
  asked t a a' same _ := by rw [keeps.asked, keeps'.asked, same]
  granted t a a' same ends := by
    cases h : (agent.add t a).result with
    | ok _ => rw [keeps.granted t a h, keeps'.granted t a' (ends.symm.trans h), same]
    | error error =>
      rw [keeps.refused t a error h, keeps'.refused t a' error (ends.symm.trans h), same]

/-- All events of the agent are events of agents. -/
structure SpeaksAsAgent (agent : PolicyAgent α) : Prop where
  checks : ∀ t a, ∀ e ∈ (agent.check t a).events, e.isAgent = true
  adds : ∀ t a, ∀ e ∈ (agent.add t a).events, e.isAgent = true

/-- An agent speaks as one also when it fails at times. -/
theorem SpeaksAsAgent.failing (speaks : agent.SpeaksAsAgent) (outage : Nat → Option PolicyError) :
    (agent.failing outage).SpeaksAsAgent where
  checks t s e he := by
    obtain ⟨_, hevents, _⟩ | ⟨_, hevents, _⟩ := agent.failing_check_cases outage t s
    · rw [hevents] at he
      cases he
    · exact speaks.checks t s.1 e (hevents ▸ he)
  adds t s e he := by
    obtain ⟨_, hevents, _⟩ | ⟨_, hevents, _⟩ := agent.failing_add_cases outage t s
    · rw [hevents] at he
      cases he
    · exact speaks.adds t s.1 e (hevents ▸ he)

end PolicyAgent

/-- The agent in memory emits nothing. -/
theorem TupleSet.speaksAsAgent : TupleSet.agent.SpeaksAsAgent where
  checks t tuples e he := by
    rw [check_run] at he
    cases he
  adds t tuples e he := by cases he

/-! ## The identity service with another agent -/

/-- The same state with another agent. -/
def IdentityState.withAgent (s : IdentityState α) (agent : β) : IdentityState β :=
  ⟨s.now, s.drawn, s.keys, s.groups, agent⟩

namespace LocalIdentity

/-- The same identity service with another agent. -/
def withAgent (service : LocalIdentity α) (agent : PolicyAgent β) : LocalIdentity β :=
  ⟨service.lifetime, service.tokenAt, agent⟩

/-- The same identity service, whose agent records what it is asked. -/
def recording (service : LocalIdentity α) : LocalIdentity (α × List AgentExchange) :=
  service.withAgent service.agent.recorded

end LocalIdentity

end AccessControl
