import AccessControl.Policy.TupleSet
import Mathlib.Data.Set.Insert

/-!
# Agents that keep a set of tuples

`TupleSet.mem_toSet_insert` says that inserting a tuple adds this tuple and no other.

`PolicyAgent.Keeps` is the contract of an agent: a question changes nothing, and is answered with
yes only for a tuple that was granted; a grant that is taken adds its tuple, and one that is refused
adds nothing. The agent in memory keeps its contract, and so does every agent that keeps it when
some of its requests fail instead.
-/

namespace AccessControl

namespace TupleSet

variable {tuples : TupleSet} {t t' : RelationTuple}

/-- The tuples of the set. -/
def toSet (tuples : TupleSet) : Set RelationTuple :=
  {t | tuples.holds t = true}

theorem mem_toSet : t ∈ tuples.toSet ↔ tuples.holds t = true := Iff.rfl

/-- Behind an addition, the pairs are the old ones and the added one. -/
theorem contains_addPair (pair pair' : String × String) (pairs : List (String × String)) :
    (addPair pair pairs).contains pair' = true ↔
      pair' = pair ∨ pairs.contains pair' = true := by
  unfold addPair
  split_ifs with h
  · constructor
    · exact Or.inr
    · rintro (rfl | h')
      · exact h
      · exact h'
  · simp [or_comm]

/-- The row of a subject gets the pair, and no other row changes. -/
theorem holdings_insert (subject : String) :
    (tuples.insert t).holdings subject =
      if subject = t.subject then addPair (t.object, t.relation) (tuples.holdings subject)
      else tuples.holdings subject := by
  obtain ⟨rows⟩ := tuples
  simp only [insert, holdings]
  induction rows with
  | nil =>
    by_cases h : subject = t.subject
    · simp [addToRows, addPair, h]
    · simp [addToRows, h, Ne.symm h]
  | cons row rows ih =>
    obtain ⟨s, pairs⟩ := row
    by_cases hs : s = t.subject
    · subst hs
      by_cases h : subject = t.subject
      · simp [addToRows, h]
      · simp [addToRows, h, Ne.symm h]
    · by_cases h : s = subject
      · simp [addToRows, h, h ▸ hs]
      · simpa [addToRows, hs, h] using ih

/-- Inserting a tuple adds it and nothing else. -/
theorem toSet_insert : (tuples.insert t).toSet = Insert.insert t tuples.toSet := by
  ext t'
  rw [Set.mem_insert_iff, mem_toSet, mem_toSet, holds, holds, holdings_insert]
  obtain ⟨subject, object, relation⟩ := t
  obtain ⟨subject', object', relation'⟩ := t'
  by_cases h : subject' = subject
  · rw [if_pos h, contains_addPair, h]
    simp
  · rw [if_neg h]
    simp [h]

theorem toSet_empty : empty.toSet = ∅ := by
  ext t
  rw [mem_toSet]
  exact iff_of_false Bool.false_ne_true (Set.notMem_empty t)

end TupleSet

namespace PolicyAgent

variable {α : Type} {agent : PolicyAgent α} {tuples : α → Set RelationTuple}

/-- What an agent does to the tuples it keeps, and what its answers tell about them. -/
structure Keeps (agent : PolicyAgent α) (tuples : α → Set RelationTuple) : Prop where
  asked : ∀ t a, tuples (agent.check t a).state = tuples a
  known : ∀ t a, (agent.check t a).result = .ok () → t ∈ tuples a
  granted : ∀ t a, (agent.add t a).result = .ok () →
    tuples (agent.add t a).state = insert t (tuples a)
  refused : ∀ t a error, (agent.add t a).result = .error error →
    tuples (agent.add t a).state = tuples a

/-- The agent, some of whose requests fail instead of reaching it. They are counted, and `outage`
says which of them fail, and why. -/
def failing (agent : PolicyAgent α) (outage : Nat → Option PolicyError) :
    PolicyAgent (α × Nat) where
  check t := fun s =>
    match outage s.2 with
    | some error => ⟨.error error, [], (s.1, s.2 + 1)⟩
    | none =>
      let o := agent.check t s.1
      ⟨o.result, o.events, (o.state, s.2 + 1)⟩
  add t := fun s =>
    match outage s.2 with
    | some error => ⟨.error error, [], (s.1, s.2 + 1)⟩
    | none =>
      let o := agent.add t s.1
      ⟨o.result, o.events, (o.state, s.2 + 1)⟩

/-- A check by an agent that fails at times fails and changes nothing, or is that of the agent. -/
theorem failing_check_cases (agent : PolicyAgent α) (outage : Nat → Option PolicyError)
    (t : RelationTuple) (s : α × Nat) :
    let o := (agent.failing outage).check t s
    let asked := agent.check t s.1
    (∃ error, o.result = .error error) ∧ o.events = [] ∧ o.state.1 = s.1 ∨
      o.result = asked.result ∧ o.events = asked.events ∧ o.state.1 = asked.state := by
  simp only [failing]
  cases outage s.2 with
  | some error => exact Or.inl ⟨⟨error, rfl⟩, rfl, rfl⟩
  | none => exact Or.inr ⟨rfl, rfl, rfl⟩

/-- A grant by an agent that fails at times fails and changes nothing, or is that of the agent. -/
theorem failing_add_cases (agent : PolicyAgent α) (outage : Nat → Option PolicyError)
    (t : RelationTuple) (s : α × Nat) :
    let o := (agent.failing outage).add t s
    let asked := agent.add t s.1
    (∃ error, o.result = .error error) ∧ o.events = [] ∧ o.state.1 = s.1 ∨
      o.result = asked.result ∧ o.events = asked.events ∧ o.state.1 = asked.state := by
  simp only [failing]
  cases outage s.2 with
  | some error => exact Or.inl ⟨⟨error, rfl⟩, rfl, rfl⟩
  | none => exact Or.inr ⟨rfl, rfl, rfl⟩

/-- An agent that keeps tuples still does when it fails at times. -/
theorem Keeps.failing (keeps : agent.Keeps tuples) (outage : Nat → Option PolicyError) :
    (agent.failing outage).Keeps fun s => tuples s.1 where
  asked t s := by
    obtain ⟨_, _, hstate⟩ | ⟨_, _, hstate⟩ := agent.failing_check_cases outage t s
    · rw [hstate]
    · rw [hstate]
      exact keeps.asked t s.1
  known t s h := by
    obtain ⟨⟨error, hfails⟩, _, _⟩ | ⟨hresult, _, _⟩ := agent.failing_check_cases outage t s
    · cases h.symm.trans hfails
    · exact keeps.known t s.1 (hresult.symm.trans h)
  granted t s h := by
    obtain ⟨⟨error, hfails⟩, _, _⟩ | ⟨hresult, _, hstate⟩ := agent.failing_add_cases outage t s
    · cases h.symm.trans hfails
    · rw [hstate]
      exact keeps.granted t s.1 (hresult.symm.trans h)
  refused t s error h := by
    obtain ⟨_, _, hstate⟩ | ⟨hresult, _, hstate⟩ := agent.failing_add_cases outage t s
    · rw [hstate]
    · rw [hstate]
      exact keeps.refused t s.1 error (hresult.symm.trans h)

end PolicyAgent

namespace TupleSet

/-- A check in memory looks the tuple up. -/
theorem check_run (t : RelationTuple) (tuples : TupleSet) :
    agent.check t tuples =
      ⟨if tuples.holds t then .ok () else .error .denied, [], tuples⟩ := by
  simp only [agent, Action.bind_run, Action.get_run]
  split_ifs <;> rfl

theorem add_run (t : RelationTuple) (tuples : TupleSet) :
    agent.add t tuples = ⟨.ok (), [], tuples.insert t⟩ := rfl

/-- The agent in memory keeps the tuples of its set. -/
theorem keeps : agent.Keeps toSet where
  asked t tuples := by rw [check_run]
  known t tuples h := by
    rw [check_run] at h
    rw [mem_toSet]
    by_contra hnot
    rw [if_neg hnot] at h
    cases h
  granted t tuples _ := by rw [add_run, toSet_insert]
  refused t tuples error h := by
    rw [add_run] at h
    cases h

end TupleSet

end AccessControl
