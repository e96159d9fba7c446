import AccessControl.Proofs.Identity.Requests
import AccessControl.Proofs.Policy.AgentLog

/-!
# Batches of grants

A batch comes to its gates in a fixed order, and to all of them before its first grant; the first
gate that turns it away says why. The last of them is the one question that a batch puts to the
agent, so nothing that the batch grants can open it. Behind the gates the tuples are granted subject
by subject, up to the first whose grant is refused (`LocalIdentity.BatchCourse`).

The agent in memory refuses no grant. There a batch that passes leaves the tuples that were held
before, and one for each of its subjects with each of its policies.
-/

namespace AccessControl

variable {α : Type}

/-! ## Gates -/

/-- What a batch has to pass before it grants anything. -/
inductive BatchGate where
  | token
  | subjects
  | policies
  | object
  /-- The token stands for a caller now. -/
  | caller
  /-- The caller is an administrator. -/
  | authority
deriving DecidableEq, Repr

/-- The gates in the order in which a batch comes to them. -/
def BatchGate.all : List BatchGate :=
  [.token, .subjects, .policies, .object, .caller, .authority]

namespace LocalIdentity

/-- The question whether the caller behind a token is an administrator, as it is answered in a
state. Without a caller there is no question. -/
def authorityAsked (service : LocalIdentity α) (token : String) (s : IdentityState α) :
    Option AgentExchange :=
  match (s.keys.resolve token s.now).1 with
  | .error _ => none
  | .ok caller =>
    let t := RelationTuple.authority caller.id
    some ⟨.check, t, (service.agent.check t s.agent).result⟩

/-- Why a gate turns a batch away, in a state. -/
def refusal (service : LocalIdentity α) (token : String) (batch : GrantBatch)
    (s : IdentityState α) : BatchGate → Option IdentityError
  | .token => if token = "" then some .unauthorized else none
  | .subjects => if batch.subjects = [] then some (.malformedEntity .noSubjects) else none
  | .policies => if batch.policies = [] then some (.malformedEntity .noPolicies) else none
  | .object => if batch.object = "" then some (.malformedEntity .emptyObject) else none
  | .caller =>
    match (s.keys.resolve token s.now).1 with
    | .error error => some error
    | .ok _ => none
  | .authority =>
    match service.authorityAsked token s with
    | some ⟨_, _, .error error⟩ => some (.authorization error)
    | _ => none

/-- All gates let the batch pass. -/
def Passes (service : LocalIdentity α) (token : String) (batch : GrantBatch)
    (s : IdentityState α) : Prop :=
  ∀ gate, service.refusal token batch s gate = none

end LocalIdentity

/-! ## Courses -/

/-- The agent took the grant. -/
def AgentExchange.granted (t : RelationTuple) : AgentExchange :=
  ⟨.add, t, .ok ()⟩

/-- Tuples are granted one after the other: all of them, or those in front of the first whose grant
is refused. -/
inductive GrantCourse : List RelationTuple → List AgentExchange → Except IdentityError Unit → Prop
  | all (ts : List RelationTuple) : GrantCourse ts (ts.map .granted) (.ok ())
  | upTo (first : List RelationTuple) (t : RelationTuple) (rest : List RelationTuple)
      (error : PolicyError) :
      GrantCourse (first ++ t :: rest) (first.map .granted ++ [⟨.add, t, .error error⟩])
        (.error (.authorization error))

/-- A grant in front of a course is a course. -/
theorem GrantCourse.cons {ts : List RelationTuple} {asked : List AgentExchange}
    {result : Except IdentityError Unit} (t : RelationTuple)
    (course : GrantCourse ts asked result) :
    GrantCourse (t :: ts) (.granted t :: asked) result := by
  cases course with
  | all => exact .all (t :: ts)
  | upTo first t' rest error => exact .upTo (t :: first) t' rest error

/-- What a batch asks of the agent in a state, and how it ends. -/
inductive LocalIdentity.BatchCourse (service : LocalIdentity α) (token : String)
    (batch : GrantBatch) (s : IdentityState α) :
    List AgentExchange → Except IdentityError Unit → Prop
  /-- The first gate that does not let the batch pass says why. If it is the last one, the agent was
  asked. -/
  | turnedAway {before after : List BatchGate} {gate : BatchGate} {error : IdentityError}
      (order : BatchGate.all = before ++ gate :: after)
      (passed : ∀ earlier ∈ before, service.refusal token batch s earlier = none)
      (refused : service.refusal token batch s gate = some error) :
      BatchCourse service token batch s
        (if gate = .authority then (service.authorityAsked token s).toList else []) (.error error)
  /-- Behind all gates the agent has confirmed that the caller is an administrator, and takes the
  grants. -/
  | granting {caller : Identity} {asked : List AgentExchange} {result : Except IdentityError Unit}
      (passed : service.Passes token batch s)
      (resolved : (s.keys.resolve token s.now).1 = .ok caller)
      (course : GrantCourse batch.tuples asked result) :
      BatchCourse service token batch s (⟨.check, .authority caller.id, .ok ()⟩ :: asked) result

namespace LocalIdentity

variable (service : LocalIdentity α) (token : String) (batch : GrantBatch) (s : IdentityState α)

/-- Granting a list asks for its first tuple, and for the others once this is granted. -/
theorem grantAll_cons_run (t : RelationTuple) (ts : List RelationTuple) :
    service.grantAll (t :: ts) s =
      match service.agent.add t s.agent with
      | ⟨.error error, events, a⟩ => ⟨.error (.authorization error), events, { s with agent := a }⟩
      | ⟨.ok _, events, a⟩ =>
        let o := service.grantAll ts { s with agent := a }
        ⟨o.result, events ++ o.events, o.state⟩ := by
  simp only [grantAll, Action.bind_run, ofAgent, Action.mapError_run, Action.zoom_run]
  rcases service.agent.add t s.agent with ⟨error | _, events, a⟩ <;> rfl

/-- A batch is checked, then its caller is resolved, then the authority is asked for, and only then
are the tuples granted. -/
theorem addPolicies_run :
    service.addPolicies token batch s =
      match batch.validate token with
      | .error error => ⟨.error error, [], s⟩
      | .ok _ =>
        let keys := (s.keys.resolve token s.now).2
        match (s.keys.resolve token s.now).1 with
        | .error error => ⟨.error error, [], { s with keys := keys }⟩
        | .ok caller =>
          match service.agent.check (.authority caller.id) s.agent with
          | ⟨.error error, events, a⟩ =>
            ⟨.error (.authorization error), events, { s with keys := keys, agent := a }⟩
          | ⟨.ok _, events, a⟩ =>
            let o := service.grantAll batch.tuples { s with keys := keys, agent := a }
            ⟨o.result, events ++ o.events, o.state⟩ := by
  simp only [addPolicies, Action.bind_run, Action.ofExcept_run]
  cases batch.validate token with
  | error error => rfl
  | ok _ =>
    simp only [identify_run]
    rcases s.keys.resolve token s.now with ⟨error | caller, keys⟩
    · rfl
    · simp only [ofAgent, Action.mapError_run, Action.zoom_run]
      rcases service.agent.check (.authority caller.id) s.agent with ⟨error | _, events, a⟩ <;> rfl

/-! ### The gates of a run -/

section Gates

variable {token batch}

/-- A batch that is not well formed meets its gate before the agent is asked. -/
theorem refused_of_validate {error : IdentityError} (h : batch.validate token = .error error) :
    ∃ before gate after, BatchGate.all = before ++ gate :: after ∧
      (∀ earlier ∈ before, service.refusal token batch s earlier = none) ∧
      service.refusal token batch s gate = some error ∧ gate ≠ .authority := by
  unfold GrantBatch.validate at h
  split_ifs at h with htoken hsubjects hpolicies hobject <;> cases h
  · exact ⟨[], .token, _, rfl, by simp, if_pos htoken, by simp⟩
  · exact ⟨[.token], .subjects, _, rfl, by simp [refusal, htoken], if_pos hsubjects, by simp⟩
  · exact ⟨[.token, .subjects], .policies, _, rfl, by simp [refusal, htoken, hsubjects],
      if_pos hpolicies, by simp⟩
  · exact ⟨[.token, .subjects, .policies], .object, _, rfl,
      by simp [refusal, htoken, hsubjects, hpolicies], if_pos hobject, by simp⟩

variable {service s}

/-- A batch is valid when none of the first four gates refuses it. -/
theorem validate_eq_ok_iff :
    batch.validate token = .ok () ↔
      ∀ gate ∈ [BatchGate.token, .subjects, .policies, .object],
        service.refusal token batch s gate = none := by
  simp only [GrantBatch.validate, List.forall_mem_cons, refusal, List.not_mem_nil,
    IsEmpty.forall_iff, implies_true, and_true]
  split_ifs <;> simp_all

/-- A caller that resolves is the one whose authority is asked for. -/
theorem authorityAsked_of_ok {caller : Identity}
    (h : (s.keys.resolve token s.now).1 = .ok caller) :
    service.authorityAsked token s = some ⟨.check, .authority caller.id,
      (service.agent.check (.authority caller.id) s.agent).result⟩ := by
  simp only [authorityAsked, h]

/-- The gate of the caller lets through exactly the tokens that resolve. -/
theorem refusal_caller_eq_none_iff :
    service.refusal token batch s .caller = none ↔
      ∃ caller, (s.keys.resolve token s.now).1 = .ok caller := by
  cases h : (s.keys.resolve token s.now).1 with
  | error error => simp [refusal, h]
  | ok caller => simp [refusal, h]

/-- The gate of authority lets through exactly the callers whom the agent confirms. -/
theorem refusal_authority_eq_none_iff {caller : Identity}
    (h : (s.keys.resolve token s.now).1 = .ok caller) :
    service.refusal token batch s .authority = none ↔
      (service.agent.check (.authority caller.id) s.agent).result = .ok () := by
  rw [refusal, authorityAsked_of_ok h]
  cases (service.agent.check (.authority caller.id) s.agent).result <;> simp

/-- A batch passes when it is valid, its caller resolves and the agent confirms the authority. -/
theorem passes_iff :
    service.Passes token batch s ↔ batch.validate token = .ok () ∧
      ∃ caller, (s.keys.resolve token s.now).1 = .ok caller ∧
        (service.agent.check (.authority caller.id) s.agent).result = .ok () := by
  constructor
  · intro passes
    obtain ⟨caller, hcaller⟩ := refusal_caller_eq_none_iff.mp (passes .caller)
    exact ⟨validate_eq_ok_iff.mpr fun gate _ => passes gate, caller, hcaller,
      (refusal_authority_eq_none_iff hcaller).mp (passes .authority)⟩
  · rintro ⟨hvalid, caller, hcaller, hchecked⟩ gate
    cases gate with
    | caller => exact refusal_caller_eq_none_iff.mpr ⟨caller, hcaller⟩
    | authority => exact (refusal_authority_eq_none_iff hcaller).mpr hchecked
    | _ => exact validate_eq_ok_iff.mp hvalid _ (by simp)

/-- A batch that is not well formed is turned away before the agent is asked. -/
theorem course_of_validate {error : IdentityError} (h : batch.validate token = .error error) :
    service.BatchCourse token batch s [] (.error error) := by
  obtain ⟨before, gate, after, order, passed, refused, hgate⟩ := service.refused_of_validate s h
  have course := BatchCourse.turnedAway order passed refused
  rw [if_neg hgate] at course
  exact course

/-- A valid batch of an unknown caller ends without a question to the agent. -/
theorem course_of_unknown {error : IdentityError} (hvalid : batch.validate token = .ok ())
    (hcaller : (s.keys.resolve token s.now).1 = .error error) :
    service.BatchCourse token batch s [] (.error error) := by
  have order : BatchGate.all =
      [.token, .subjects, .policies, .object] ++ .caller :: [.authority] := rfl
  refine .turnedAway order (validate_eq_ok_iff.mp hvalid) ?_
  simp only [refusal, hcaller]

/-- A valid batch of a caller without authority ends behind the one question for it. -/
theorem course_of_unauthorized {caller : Identity} {error : PolicyError}
    (hvalid : batch.validate token = .ok ()) (hcaller : (s.keys.resolve token s.now).1 = .ok caller)
    (hchecked : (service.agent.check (.authority caller.id) s.agent).result = .error error) :
    service.BatchCourse token batch s [⟨.check, .authority caller.id, .error error⟩]
      (.error (.authorization error)) := by
  have hasked : service.authorityAsked token s =
      some ⟨.check, .authority caller.id, .error error⟩ := hchecked ▸ authorityAsked_of_ok hcaller
  have hknown : service.refusal token batch s .caller = none :=
    refusal_caller_eq_none_iff.mpr ⟨caller, hcaller⟩
  have order : BatchGate.all =
      [.token, .subjects, .policies, .object] ++ [.caller] ++ .authority :: [] := rfl
  have passed := List.forall_mem_append.mpr
    ⟨validate_eq_ok_iff.mp hvalid, List.forall_mem_singleton.mpr hknown⟩
  have refused : service.refusal token batch s .authority = some (.authorization error) := by
    simp only [refusal, hasked]
  have course := BatchCourse.turnedAway order passed refused
  rw [if_pos rfl, hasked] at course
  exact course

/-- Behind its gates a batch does nothing but grant. -/
theorem addPolicies_of_passes (passes : service.Passes token batch s) :
    ∃ caller : Identity,
      service.addPolicies token batch s =
        let asked := service.agent.check (.authority caller.id) s.agent
        let o := service.grantAll batch.tuples
          { s with keys := (s.keys.resolve token s.now).2, agent := asked.state }
        ⟨o.result, asked.events ++ o.events, o.state⟩ := by
  obtain ⟨hvalid, caller, hcaller, hchecked⟩ := passes_iff.mp passes
  refine ⟨caller, ?_⟩
  simp only [addPolicies_run, hvalid, hcaller]
  rcases hasked : service.agent.check (.authority caller.id) s.agent with ⟨result, events, a⟩
  rw [hasked] at hchecked
  cases hchecked
  rfl

end Gates

/-! ### What is asked -/

/-- One after the other the grants go into the record of the agent. -/
theorem grantAll_course (ts : List RelationTuple) (s : IdentityState (α × List AgentExchange)) :
    let o := service.recording.grantAll ts s
    ∃ asked, o.state.agent.2 = s.agent.2 ++ asked ∧ GrantCourse ts asked o.result := by
  induction ts generalizing s with
  | nil => exact ⟨[], (List.append_nil _).symm, .all []⟩
  | cons t ts ih =>
    simp only [grantAll_cons_run, recording, withAgent, PolicyAgent.recorded]
    cases hadded : (service.agent.add t s.agent.1).result with
    | error error => exact ⟨_, rfl, .upTo [] t ts error⟩
    | ok _ =>
      obtain ⟨asked, hasked, course⟩ := ih { s with
        agent := ((service.agent.add t s.agent.1).state, s.agent.2 ++ [.granted t]) }
      refine ⟨.granted t :: asked, ?_, course.cons t⟩
      rw [← List.append_cons] at hasked
      exact hasked

/-- What the agent is asked, and the result, are a course of the batch. -/
theorem addPolicies_course :
    let o := service.recording.addPolicies token batch (s.withAgent (s.agent, []))
    service.BatchCourse token batch s o.state.agent.2 o.result := by
  rw [addPolicies_run]
  cases hvalid : batch.validate token with
  | error error => exact course_of_validate hvalid
  | ok _ =>
    simp only [IdentityState.withAgent]
    cases hcaller : (s.keys.resolve token s.now).1 with
    | error error => exact course_of_unknown hvalid hcaller
    | ok caller =>
      simp only [recording, withAgent, PolicyAgent.recorded]
      cases hchecked : (service.agent.check (.authority caller.id) s.agent).result with
      | error error => exact course_of_unauthorized hvalid hcaller hchecked
      | ok _ =>
        have passes : service.Passes token batch s :=
          passes_iff.mpr ⟨hvalid, caller, hcaller, hchecked⟩
        obtain ⟨asked, hrecord, course⟩ := service.grantAll_course batch.tuples
          { s with
            keys := (s.keys.resolve token s.now).2
            agent := ((service.agent.check (.authority caller.id) s.agent).state,
              [⟨.check, .authority caller.id, .ok ()⟩]) }
        have granting := BatchCourse.granting passes hcaller course
        rw [← List.singleton_append, ← hrecord] at granting
        exact granting

/-- Recording what the agent is asked changes nothing else. -/
theorem grantAll_recording (ts : List RelationTuple) (s : IdentityState (α × List AgentExchange)) :
    let o := service.recording.grantAll ts s
    service.grantAll ts (s.withAgent s.agent.1) =
      ⟨o.result, o.events, o.state.withAgent o.state.agent.1⟩ := by
  induction ts generalizing s with
  | nil => rfl
  | cons t ts ih =>
    simp only [grantAll_cons_run, recording, withAgent, PolicyAgent.recorded,
      IdentityState.withAgent] at ih ⊢
    rcases service.agent.add t s.agent.1 with ⟨error | _, events, a⟩
    · rfl
    · have hrest := ih { s with agent := (a, s.agent.2 ++ [.granted t]) }
      simp only at hrest ⊢
      rw [hrest]
      rfl

/-- Recording the questions to the agent changes neither the result nor the events nor the state. -/
theorem addPolicies_recording :
    let o := service.recording.addPolicies token batch (s.withAgent (s.agent, []))
    service.addPolicies token batch s =
      ⟨o.result, o.events, o.state.withAgent o.state.agent.1⟩ := by
  simp only [addPolicies_run]
  cases batch.validate token with
  | error error => rfl
  | ok _ =>
    simp only [IdentityState.withAgent]
    rcases s.keys.resolve token s.now with ⟨error | caller, keys⟩
    · rfl
    · simp only [recording, withAgent, PolicyAgent.recorded]
      rcases service.agent.check (.authority caller.id) s.agent with ⟨error | _, events, a⟩
      · rfl
      · have hgrants := service.grantAll_recording batch.tuples
          { s with keys := keys, agent := (a, [⟨.check, .authority caller.id, .ok ()⟩]) }
        simp only [IdentityState.withAgent] at hgrants ⊢
        rw [hgrants]
        rfl

end LocalIdentity

/-! ## Tuples of a batch -/

namespace GrantBatch

/-- The list has one tuple for each subject with each policy, those of a subject side by side. -/
def SubjectMajor (batch : GrantBatch) (ts : List RelationTuple) : Prop :=
  ts.length = batch.subjects.length * batch.policies.length ∧
    ∀ i j subject policy, batch.subjects[i]? = some subject → batch.policies[j]? = some policy →
      ts[i * batch.policies.length + j]? = some ⟨subject, batch.object, policy⟩

/-- The tuples of a batch give each of its subjects each of its relations to its object. -/
theorem mem_tuples_iff {batch : GrantBatch} {t : RelationTuple} :
    t ∈ batch.tuples ↔
      t.subject ∈ batch.subjects ∧ t.object = batch.object ∧ t.relation ∈ batch.policies := by
  simp only [tuples, List.mem_flatMap, List.mem_map]
  constructor
  · rintro ⟨subject, hsubject, policy, hpolicy, rfl⟩
    exact ⟨hsubject, rfl, hpolicy⟩
  · rintro ⟨hsubject, hobject, hpolicy⟩
    exact ⟨t.subject, hsubject, t.relation, hpolicy, hobject ▸ rfl⟩

/-- The tuples of a batch go subject by subject. -/
theorem tuples_subjectMajor (batch : GrantBatch) : batch.SubjectMajor batch.tuples := by
  obtain ⟨subjects, policies, object⟩ := batch
  induction subjects with
  | nil => exact ⟨(Nat.zero_mul _).symm, fun i j subject policy hsubject => by cases hsubject⟩
  | cons s subjects ih =>
    obtain ⟨hlength, hindex⟩ := ih
    refine ⟨?_, ?_⟩
    · simp only [tuples, List.flatMap_cons, List.length_append, List.length_map,
        List.length_cons] at hlength ⊢
      rw [hlength, Nat.succ_mul, Nat.add_comm]
    · intro i j subject policy hsubject hpolicy
      have hj : j < policies.length := (List.getElem?_eq_some_iff.mp hpolicy).1
      simp only [tuples, List.flatMap_cons] at hindex hsubject hpolicy ⊢
      cases i with
      | zero =>
        cases hsubject
        rw [List.getElem?_append_left (by simpa using hj)]
        simp [hpolicy]
      | succ i =>
        rw [List.getElem?_append_right (by simp [Nat.succ_mul]; omega)]
        have hposition : (i + 1) * policies.length + j -
            (policies.map fun policy => RelationTuple.mk s object policy).length =
              i * policies.length + j := by
          rw [List.length_map, Nat.succ_mul]
          omega
        rw [hposition]
        exact hindex i j subject policy hsubject hpolicy

end GrantBatch

/-- Inserting tuples one after the other adds exactly these. -/
theorem TupleSet.toSet_foldl_insert (ts : List RelationTuple) (tuples : TupleSet) :
    (ts.foldl insert tuples).toSet = tuples.toSet ∪ {t | t ∈ ts} := by
  induction ts generalizing tuples with
  | nil => simp
  | cons t ts ih =>
    rw [List.foldl_cons, ih, toSet_insert]
    ext t'
    simp only [Set.mem_union, Set.mem_insert_iff, Set.mem_ofPred_eq, List.mem_cons]
    tauto

/-! ## What is granted -/

/-- The tuples of an agent that keeps a set are those held at first, and those it has granted since,
as far as its record says. -/
def Accounted (held : α → Set RelationTuple) (first : Set RelationTuple)
    (a : α × List AgentExchange) : Prop :=
  held a.1 = first ∪ {t | .granted t ∈ a.2}

section Keeps

variable {agent : PolicyAgent α} {held : α → Set RelationTuple} {first : Set RelationTuple}
  {a : α × List AgentExchange}

/-- A check adds no tuple, and its exchange keeps the account. -/
theorem PolicyAgent.Keeps.accounted_check (keeps : agent.Keeps held) (t : RelationTuple)
    (h : Accounted held first a) : Accounted held first (agent.recorded.check t a).state := by
  rw [Accounted, recorded, keeps.asked, h]
  simp [AgentExchange.granted]

/-- A grant adds at most its own tuple, and its exchange keeps the account. -/
theorem PolicyAgent.Keeps.accounted_add (keeps : agent.Keeps held) (t : RelationTuple)
    (h : Accounted held first a) : Accounted held first (agent.recorded.add t a).state := by
  simp only [Accounted, recorded] at h ⊢
  cases hadded : (agent.add t a.1).result with
  | error error =>
    rw [keeps.refused t a.1 error hadded, h]
    simp [AgentExchange.granted]
  | ok _ =>
    rw [keeps.granted t a.1 hadded, h]
    ext t'
    simp only [AgentExchange.granted, Set.mem_insert_iff, Set.mem_union, Set.mem_ofPred_eq,
      List.mem_append, List.mem_singleton, AgentExchange.mk.injEq, true_and, and_true]
    tauto

end Keeps

namespace LocalIdentity

variable (service : LocalIdentity α) (token : String) (batch : GrantBatch) (s : IdentityState α)

/-- What every grant preserves of the agent, granting a list preserves. -/
theorem grantAll_preserves {P : α → Prop} (hadd : ∀ t a, P a → P (service.agent.add t a).state)
    (ts : List RelationTuple) (s : IdentityState α) (h : P s.agent) :
    P (service.grantAll ts s).state.agent := by
  induction ts generalizing s with
  | nil => exact h
  | cons t ts ih =>
    have hstep := hadd t s.agent h
    rw [grantAll_cons_run]
    generalize service.agent.add t s.agent = added at hstep ⊢
    rcases added with ⟨error | _, events, a⟩
    · exact hstep
    · exact ih _ hstep

/-- A batch preserves what all requests to the agent preserve. -/
theorem addPolicies_preserves {P : α → Prop}
    (hcheck : ∀ t a, P a → P (service.agent.check t a).state)
    (hadd : ∀ t a, P a → P (service.agent.add t a).state) (h : P s.agent) :
    P (service.addPolicies token batch s).state.agent := by
  rw [addPolicies_run]
  cases batch.validate token with
  | error error => exact h
  | ok _ =>
    cases (s.keys.resolve token s.now).1 with
    | error error => exact h
    | ok caller =>
      have hasked := hcheck (.authority caller.id) s.agent h
      simp only
      generalize service.agent.check (.authority caller.id) s.agent = answered at hasked ⊢
      rcases answered with ⟨error | _, events, a⟩
      · exact hasked
      · exact service.grantAll_preserves hadd batch.tuples _ hasked

/-- In memory, granting a list always succeeds and inserts all of it. -/
theorem grantAll_inMemory (ts : List RelationTuple) (s : IdentityState TupleSet) :
    (service.withAgent TupleSet.agent).grantAll ts s =
      ⟨.ok (), [], { s with agent := ts.foldl .insert s.agent }⟩ := by
  induction ts generalizing s with
  | nil => rfl
  | cons t ts ih =>
    rw [grantAll_cons_run, withAgent, TupleSet.add_run]
    simp only
    rw [← withAgent, ih]
    rfl

/-- In memory, a batch that passes succeeds and inserts all of its tuples. -/
theorem addPolicies_inMemory (tuples : TupleSet) :
    let inMemory := service.withAgent TupleSet.agent
    let o := inMemory.addPolicies token batch (s.withAgent tuples)
    inMemory.Passes token batch (s.withAgent tuples) →
      o.result = .ok () ∧ o.state.agent = batch.tuples.foldl .insert tuples := by
  intro inMemory o passes
  obtain ⟨caller, hrun⟩ := addPolicies_of_passes passes
  have hasked : (inMemory.agent.check (.authority caller.id) tuples).state = tuples :=
    congrArg Outcome.state (TupleSet.check_run (.authority caller.id) tuples)
  have hgrants := service.grantAll_inMemory batch.tuples
    { s.withAgent tuples with keys := (s.keys.resolve token s.now).2 }
  have hlast : o = _ := hrun
  rw [hlast]
  simp only [IdentityState.withAgent, hasked] at hgrants ⊢
  rw [hgrants]
  exact ⟨rfl, rfl⟩

/-! ## Main statement -/

end LocalIdentity

end AccessControl
