import AccessControl.Policy.Agent

/-!
# The policy agent in memory

The tuples are kept by subject: each subject has a row with the pairs of object and relation that
it holds, each pair once and each subject with one row. `TupleSet.holds` is membership of a tuple,
and `TupleSet.size` the number of distinct tuples.
-/

namespace AccessControl

/-- Tuples grouped by subject. -/
structure TupleSet where
  rows : List (String × List (String × String))
deriving DecidableEq, Repr

namespace TupleSet

/-- The set without tuples. -/
def empty : TupleSet :=
  ⟨[]⟩

/-- The pairs of object and relation that a subject holds. -/
def holdings (tuples : TupleSet) (subject : String) : List (String × String) :=
  ((tuples.rows.find? (·.1 == subject)).map (·.2)).getD []

/-- Whether a tuple is in the set. -/
def holds (tuples : TupleSet) (t : RelationTuple) : Bool :=
  (tuples.holdings t.subject).contains (t.object, t.relation)

/-- Puts a pair into a list that holds each pair once. -/
def addPair (pair : String × String) (pairs : List (String × String)) : List (String × String) :=
  if pairs.contains pair then pairs else pairs ++ [pair]

/-- Puts a pair into the row of a subject. -/
def addToRows (subject : String) (pair : String × String) :
    List (String × List (String × String)) → List (String × List (String × String))
  | [] => [(subject, [pair])]
  | (s, pairs) :: rows =>
    if s = subject then (s, addPair pair pairs) :: rows
    else (s, pairs) :: addToRows subject pair rows

/-- The set with one more tuple. -/
def insert (tuples : TupleSet) (t : RelationTuple) : TupleSet :=
  ⟨addToRows t.subject (t.object, t.relation) tuples.rows⟩

/-- The set of the tuples of a list. -/
def ofList (ts : List RelationTuple) : TupleSet :=
  ts.foldl insert empty

/-- The number of distinct tuples. -/
def size (tuples : TupleSet) : Nat :=
  tuples.rows.foldr (fun row n => row.2.length + n) 0

/-- The agent that keeps its tuples in memory. Granting a tuple twice changes nothing. -/
def agent : PolicyAgent TupleSet where
  check t := do
    if (← Action.get).holds t then return () else Action.fail .denied
  add t := Action.modify (·.insert t)

end TupleSet

end AccessControl
