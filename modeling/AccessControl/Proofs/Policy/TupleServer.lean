import AccessControl.Policy.Remote
import AccessControl.Proofs.Http.Form
import AccessControl.Proofs.Json.ReadBack
import Mathlib.Data.Finset.Insert

/-!
# Servers that keep relation tuples

`KeepsTuples` is the contract of a server that the remote agent speaks to. It reads the tuple of a
question from the query by the rules of forms, and says whether it holds the tuple; it reads a grant
from the body as JSON, and takes the tuples up. Nothing is said about requests that cannot be read,
or that ask for something else.

The contract speaks of what a server reads, and the agent of what it writes. That the two agree, for
any strings in a tuple, is `WireTuple.ofQuery?_encode` for questions and `Delta.listOf_insertion`
for grants.

`TupleServer.serve` is such a server. It keeps a finite set of tuples and refuses whatever it cannot
read.
-/

namespace AccessControl

open AccessControl.Http
open AccessControl.Json

/-- A tuple as it is sent, with the namespace it belongs to. -/
structure WireTuple where
  space : String
  object : String
  relation : String
  subject : String
deriving DecidableEq, Repr

namespace WireTuple

/-- A tuple of the namespace of all tuples. -/
def of (t : RelationTuple) : WireTuple :=
  ⟨RelationTuple.namespaceName, t.object, t.relation, t.subject⟩

/-- The tuple, whatever namespace it belongs to. -/
def tuple (w : WireTuple) : RelationTuple :=
  ⟨w.subject, w.object, w.relation⟩

/-- The value of a name that is given once. -/
def value? (pairs : List (String × String)) (name : String) : Option String :=
  match pairs.filter (·.1 == name) with
  | [pair] => some pair.2
  | _ => none

/-- Reads a tuple from named values, in any order and among others. -/
def ofPairs? (pairs : List (String × String)) : Option WireTuple := do
  return ⟨← value? pairs "namespace", ← value? pairs "object", ← value? pairs "relation",
    ← value? pairs "subject_id"⟩

/-- Reads a tuple from the query of an address. -/
def ofQuery? (query : Option (List Char)) : Option WireTuple :=
  (query.bind Form.decode?).bind ofPairs?

/-- What has been read of a tuple. -/
structure Draft where
  space : Option String := none
  object : Option String := none
  relation : Option String := none
  subject : Option String := none

/-- The fields of a tuple. -/
def fields : List (Shape.Field Draft) :=
  [Shape.field "namespace" Shape.string (·.space) ({ · with space := some · }),
    Shape.field "object" Shape.string (·.object) ({ · with object := some · }),
    Shape.field "relation" Shape.string (·.relation) ({ · with relation := some · }),
    Shape.field "subject_id" Shape.string (·.subject) ({ · with subject := some · })]

/-- Reads a tuple from JSON text. -/
def shape : Shape WireTuple :=
  Shape.record fields {} fun d => do
    return ⟨← d.space, ← d.object, ← d.relation, ← d.subject⟩

theorem ofPairs?_wirePairs (t : RelationTuple) : ofPairs? t.wirePairs = some (of t) := rfl

/-- The query of a question spells its tuple. -/
theorem ofQuery?_encode (t : RelationTuple) :
    ofQuery? (some (Form.encode (t.wirePairs.map fun (k, v) => (k.toList, v.toList)))) =
      some (of t) := by
  rw [ofQuery?, Option.bind_some, Form.decode?_encode, Option.bind_some, ofPairs?_wirePairs]

/-- The JSON form of a tuple spells it. -/
theorem reads_wirePairs (t : RelationTuple) (n : Nat) :
    Reader.Reads (shape (n + 1)) (.object (t.wirePairs.map fun (k, v) => (k, .string v)))
      (of t) := by
  refine Shape.reads_record
    ⟨some RelationTuple.namespaceName, some t.object, some t.relation, some t.subject⟩ ?_ rfl
  refine .cons (Shape.keyed_fills rfl rfl (Shape.reads_string _)) ?_
  refine .cons (Shape.keyed_fills rfl rfl (Shape.reads_string _)) ?_
  refine .cons (Shape.keyed_fills rfl rfl (Shape.reads_string _)) ?_
  exact .cons (Shape.keyed_fills rfl rfl (Shape.reads_string _)) (.nil _)

end WireTuple

/-- One change that a request asks for. -/
structure Delta where
  action : String
  tuple : WireTuple
deriving DecidableEq, Repr

namespace Delta

/-- The change that takes a tuple up. -/
def insertion (t : RelationTuple) : Delta :=
  ⟨"insert", .of t⟩

/-- What has been read of a change. -/
structure Draft where
  action : Option String := none
  tuple : Option WireTuple := none

/-- The fields of a change. -/
def fields : List (Shape.Field Draft) :=
  [Shape.field "action" Shape.string (·.action) ({ · with action := some · }),
    Shape.field "relation_tuple" WireTuple.shape (·.tuple) ({ · with tuple := some · })]

/-- Reads a change from JSON text. -/
def shape : Shape Delta :=
  Shape.record fields {} fun d => do return ⟨← d.action, ← d.tuple⟩

/-- Reads a list of changes. -/
def listOf (text : String) : Except Fault (List Delta) :=
  (Shape.list shape).ofText text

/-- The body of a grant spells its tuple. -/
theorem listOf_insertion (t : RelationTuple) : listOf t.insertion.text = .ok [insertion t] := by
  refine Shape.ofText_text (Shape.reads_list (.cons ?_ .nil))
  refine Shape.reads_record ⟨some "insert", some (.of t)⟩ ?_ rfl
  refine .cons (Shape.keyed_fills rfl rfl (Shape.reads_string _)) ?_
  exact .cons (Shape.keyed_fills rfl rfl (WireTuple.reads_wirePairs t _)) (.nil _)

end Delta

namespace TupleServer

variable {σ : Type}

/-- The answer to a question. -/
def answer (allowed : Bool) : Response where
  status := if allowed then 200 else 403
  body := (Value.object [("allowed", .bool allowed)]).text

/-- The answer to a question says what it says. -/
theorem ofText_answer (allowed : Bool) :
    checkAnswer.ofText (answer allowed).body = .ok allowed := by
  refine Shape.ofText_text (Shape.reads_record (some allowed) ?_ rfl)
  exact .cons (Shape.keyed_fills rfl rfl (Shape.reads_bool allowed)) (.nil _)

/-- A server that keeps tuples, and the paths at which it takes questions and grants. -/
structure KeepsTuples (server : Server σ) (tuples : σ → Set RelationTuple)
    (asking granting : List (List Char)) : Prop where
  asked : ∀ (request : Request) (s : σ) (t : RelationTuple),
    request.method = .get → request.url.path = asking →
    WireTuple.ofQuery? request.url.query = some (.of t) →
    ∃ allowed, (allowed = true ↔ t ∈ tuples s) ∧
      (server request s).result = .ok (answer allowed) ∧
      tuples (server request s).state = tuples s
  granted : ∀ (request : Request) (s : σ) (ts : List RelationTuple),
    request.method = .patch → request.url.path = granting →
    request.contentType = some "application/json" →
    Delta.listOf request.body = .ok (ts.map Delta.insertion) →
    (server request s).result = .ok ⟨204, ""⟩ ∧
      tuples (server request s).state = {t | t ∈ ts} ∪ tuples s

/-! ## A server -/

/-- The tuples that are kept. -/
abbrev State := Finset RelationTuple

/-- Answers a question. -/
def check (query : Option (List Char)) : Action State TransportFailure Response := do
  match WireTuple.ofQuery? query with
  | some w =>
    if w.space = RelationTuple.namespaceName then return answer (w.tuple ∈ (← Action.get))
    else return ⟨400, ""⟩
  | none => return ⟨400, ""⟩

/-- Makes the changes one after the other, up to the first that is not understood. -/
def change : List Delta → Action State TransportFailure Response
  | [] => return ⟨204, ""⟩
  | delta :: deltas =>
    if delta.action = "insert" ∧ delta.tuple.space = RelationTuple.namespaceName then do
      Action.modify (insert delta.tuple.tuple)
      change deltas
    else
      return ⟨400, ""⟩

/-- Takes a grant. -/
def grant (request : Request) : Action State TransportFailure Response :=
  if request.contentType = some "application/json" then
    match Delta.listOf request.body with
    | .ok deltas => change deltas
    | .error .shape => return ⟨422, ""⟩
    | .error _ => return ⟨400, ""⟩
  else
    return ⟨415, ""⟩

/-- The path for questions. -/
def asking : List (List Char) :=
  ["relation-tuples".toList, "check".toList]

/-- The path for grants. -/
def granting : List (List Char) :=
  ["admin".toList, "relation-tuples".toList]

/-- Serves a request. -/
def serve : Server State := fun request =>
  if request.url.path = asking then
    if request.method = .get then check request.url.query else return ⟨405, ""⟩
  else if request.url.path = granting then
    if request.method = .patch then grant request else return ⟨405, ""⟩
  else
    return ⟨404, ""⟩

/-- Insertions are acknowledged and done, all of them. -/
theorem change_insertions (ts : List RelationTuple) (s : State) :
    (change (ts.map Delta.insertion) s).result = .ok ⟨204, ""⟩ ∧
      ((change (ts.map Delta.insertion) s).state : Set RelationTuple) = {t | t ∈ ts} ∪ s := by
  induction ts generalizing s with
  | nil => exact ⟨rfl, by simp [change]⟩
  | cons t ts ih =>
    obtain ⟨hresult, hstate⟩ := ih (insert t s)
    rw [List.map_cons, change, if_pos ⟨rfl, rfl⟩]
    refine ⟨hresult, ?_⟩
    change ((change (ts.map Delta.insertion) (insert t s)).state : Set RelationTuple) = _
    rw [hstate, Finset.coe_insert]
    ext t'
    simp [or_assoc]

/-- The server keeps its contract. -/
theorem serve_keepsTuples :
    KeepsTuples serve (fun s => (s : Set RelationTuple)) asking granting where
  asked request s t hmethod hpath hquery := by
    refine ⟨decide (t ∈ s), by simp, ?_⟩
    have hserve : serve request s = ⟨.ok (answer (t ∈ s)), [], s⟩ := by
      rw [serve, if_pos hpath, if_pos hmethod, check, hquery]
      rfl
    rw [hserve]
    exact ⟨rfl, rfl⟩
  granted request s ts hmethod hpath htype hbody := by
    have hserve : serve request s = change (ts.map Delta.insertion) s := by
      rw [serve, if_neg (by rw [hpath]; decide), if_pos hpath, if_pos hmethod, grant,
        if_pos htype, hbody]
    rw [hserve]
    exact change_insertions ts s

end TupleServer

end AccessControl
