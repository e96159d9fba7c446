import AccessControl.Proofs.Policy.Parity
import Mathlib.Data.Finset.Card

/-!
# The agent in memory as a set of triples

Tuples are kept in rows, one for each subject. `TupleSet.Represents` says that the rows stand for a
finite set: a tuple is held exactly if it is a member, and the size is the number of members. The
empty table stands for the empty set, each insertion adds its tuple (`TupleSet.Represents.insert`),
and so a table stands for what it was made from and what was granted since
(`TupleSet.represents_after`).

Tables that stand for one set cannot be told apart by any list of requests, whatever order their
rows are in (`TupleSet.Represents.indistinguishable`). `TupleSet.behaves_as_set` puts this together
for every table that can come about.
-/

namespace AccessControl

/-- The tuples that requests ask to grant, in their order. -/
def PolicyAgent.grants (requests : List (AgentRequest × RelationTuple)) : List RelationTuple :=
  (requests.filter (·.1 = .add)).map (·.2)

/-- The grants of requests that only grant are all of them. -/
theorem PolicyAgent.grants_map_add (ts : List RelationTuple) :
    grants (ts.map fun t => (.add, t)) = ts := by
  rw [grants, List.filter_eq_self.mpr (by simp), List.map_map]
  exact List.map_id ts

namespace TupleSet

variable {tuples tuples' : TupleSet} {t : RelationTuple} {known : Finset RelationTuple}

/-! ## What a table stands for -/

/-- The rows of a table stand for a set of tuples. -/
structure Represents (tuples : TupleSet) (known : Finset RelationTuple) : Prop where
  holds_iff : ∀ t, tuples.holds t = true ↔ t ∈ known
  size_eq : tuples.size = known.card

theorem represents_empty : empty.Represents ∅ where
  holds_iff t := by
    rw [← mem_toSet, toSet_empty]
    simp
  size_eq := rfl

/-- A pair makes the list longer when it was not there. -/
theorem length_addPair (pair : String × String) (pairs : List (String × String)) :
    (addPair pair pairs).length = pairs.length + if pairs.contains pair then 0 else 1 := by
  unfold addPair
  split_ifs
  · rfl
  · rw [List.length_append, List.length_singleton]

/-- A tuple counts when it is new, whichever row it goes to. -/
theorem size_insert (tuples : TupleSet) (t : RelationTuple) :
    (tuples.insert t).size = tuples.size + if tuples.holds t then 0 else 1 := by
  obtain ⟨rows⟩ := tuples
  simp only [insert, holds, holdings, size]
  induction rows with
  | nil => simp [addToRows]
  | cons row rows ih =>
    obtain ⟨s, pairs⟩ := row
    by_cases hs : s = t.subject
    · simp only [addToRows, if_pos hs, List.foldr_cons, length_addPair,
        List.find?_cons_of_pos (p := fun row => row.1 == t.subject) (a := (s, pairs)) (by simpa),
        Option.map_some, Option.getD_some]
      omega
    · simp only [addToRows, if_neg hs, List.foldr_cons, ih,
        List.find?_cons_of_neg (p := fun row => row.1 == t.subject) (a := (s, pairs)) (by simpa)]
      exact (Nat.add_assoc _ _ _).symm

/-- A table with one more tuple stands for the set with one more tuple. -/
theorem Represents.insert (represents : tuples.Represents known) (t : RelationTuple) :
    (tuples.insert t).Represents (Insert.insert t known) where
  holds_iff t' := by
    rw [← mem_toSet, toSet_insert, Set.mem_insert_iff, mem_toSet, represents.holds_iff,
      Finset.mem_insert]
  size_eq := by
    rw [size_insert, represents.size_eq]
    by_cases h : t ∈ known
    · rw [if_pos ((represents.holds_iff t).mpr h), Finset.insert_eq_of_mem h, Nat.add_zero]
    · rw [if_neg (mt (represents.holds_iff t).mp h), Finset.card_insert_of_notMem h]

/-! ## What requests do -/

/-- A question leaves the set as it is, and a grant adds its tuple. -/
theorem Represents.after (represents : tuples.Represents known)
    (requests : List (AgentRequest × RelationTuple)) :
    (agent.after requests tuples).Represents
      (known ∪ (PolicyAgent.grants requests).toFinset) := by
  induction requests generalizing tuples known with
  | nil =>
    rw [PolicyAgent.grants, List.filter_nil, List.map_nil, List.toFinset_nil, Finset.union_empty]
    exact represents
  | cons request requests ih =>
    obtain ⟨kind, t⟩ := request
    rw [PolicyAgent.after, List.foldl_cons]
    cases kind with
    | check =>
      rw [PolicyAgent.perform, check_run]
      exact ih represents
    | add =>
      rw [PolicyAgent.perform, add_run]
      have hgrants : known ∪ (PolicyAgent.grants ((.add, t) :: requests)).toFinset =
          Insert.insert t known ∪ (PolicyAgent.grants requests).toFinset := by
        rw [Finset.insert_union, ← Finset.union_insert, ← List.toFinset_cons]
        rfl
      rw [hgrants]
      exact ih (represents.insert t)

/-- To make a table of some tuples is to grant them one after the other. -/
theorem ofList_eq_after (ts : List RelationTuple) :
    ofList ts = agent.after (ts.map fun t => (.add, t)) empty := by
  rw [ofList, PolicyAgent.after, List.foldl_map]
  rfl

/-- A table stands for what it was made from and what was granted since. -/
theorem represents_after (seed : List RelationTuple)
    (requests : List (AgentRequest × RelationTuple)) :
    (agent.after requests (ofList seed)).Represents
      (seed ++ PolicyAgent.grants requests).toFinset := by
  have hseed := represents_empty.after (seed.map fun t => (.add, t))
  rw [← ofList_eq_after, PolicyAgent.grants_map_add, Finset.empty_union] at hseed
  rw [List.toFinset_append]
  exact hseed.after requests

/-- No list of requests is answered differently by the two tables, or leaves them with different
sizes. -/
def Indistinguishable (tuples tuples' : TupleSet) : Prop :=
  ∀ requests, agent.answers requests tuples = agent.answers requests tuples' ∧
    (agent.after requests tuples).size = (agent.after requests tuples').size

/-- Two sets that represent the same tuples cannot be told apart. -/
theorem Represents.indistinguishable (represents : tuples.Represents known)
    (represents' : tuples'.Represents known) : Indistinguishable tuples tuples' := by
  intro requests
  refine ⟨(PolicyAgent.answers_eq_of_step
    (R := fun tuples tuples' => ∃ known, tuples.Represents known ∧ tuples'.Represents known) ?_
    ⟨known, represents, represents'⟩).1, ?_⟩
  · rintro ⟨kind, t⟩ _ tuples tuples' ⟨known, represents, represents'⟩
    cases kind with
    | check =>
      have hsame : tuples.holds t = tuples'.holds t := by
        rw [Bool.eq_iff_iff, represents.holds_iff, represents'.holds_iff]
      simp only [PolicyAgent.perform, check_run, hsame, true_and]
      exact ⟨known, represents, represents'⟩
    | add =>
      simp only [PolicyAgent.perform, add_run, true_and]
      exact ⟨_, represents.insert t, represents'.insert t⟩
  · rw [(represents.after requests).size_eq, (represents'.after requests).size_eq]

/-- A table that was made from some tuples, and to which requests were put since, is the set of
these tuples and of those that were granted:

* a question is answered with yes if its tuple is among them, and denied otherwise, and changes
  nothing; a grant is always taken;
* the size is the number of different tuples among them;
* a new table to which the same tuples are granted, in any order and with any repetitions, cannot be
  told from it;
* what is granted to the subject that stands for anyone is granted to no other subject. -/
theorem behaves_as_set (seed : List RelationTuple)
    (requests : List (AgentRequest × RelationTuple)) :
    let tuples := agent.after requests (ofList seed)
    let known := seed ++ PolicyAgent.grants requests
    (∀ t, agent.check t tuples =
      ⟨if t ∈ known then .ok () else .error .denied, [], tuples⟩) ∧
    (∀ t, (agent.add t tuples).result = .ok ()) ∧
    tuples.size = known.toFinset.card ∧
    (∀ others : List RelationTuple, (∀ t, t ∈ others ↔ t ∈ known) →
      Indistinguishable tuples (agent.after (others.map fun t => (.add, t)) empty)) ∧
    ∀ object relation t, t.subject ≠ RelationTuple.anyone →
      (agent.check t (agent.add ⟨RelationTuple.anyone, object, relation⟩ tuples).state).result =
        (agent.check t tuples).result := by
  intro tuples known
  have represents : tuples.Represents known.toFinset := represents_after seed requests
  refine ⟨fun t => ?_, fun t => rfl, represents.size_eq, fun others hothers => ?_,
    fun object relation t hother => ?_⟩
  · simp only [check_run, represents.holds_iff, List.mem_toFinset]
  · have hsame : others.toFinset = known.toFinset := by
      ext t
      rw [List.mem_toFinset, List.mem_toFinset, hothers]
    have hothers := represents_after [] (others.map fun t => (.add, t))
    rw [PolicyAgent.grants_map_add, List.nil_append, hsame] at hothers
    exact represents.indistinguishable hothers
  · rw [add_run, check_run, check_run, holds, holds, holdings_insert, if_neg hother]

/-- The order of grants shows in the rows, but in no answer: here two tables have different rows. -/
example : ofList [⟨"u1", "users", "member"⟩, ⟨"*", "user", "create"⟩] ≠
      ofList [⟨"*", "user", "create"⟩, ⟨"u1", "users", "member"⟩] ∧
    (ofList [⟨"u1", "users", "member"⟩, ⟨"*", "user", "create"⟩,
      ⟨"u1", "users", "member"⟩]).size = 2 := by
  decide

end TupleSet

end AccessControl
