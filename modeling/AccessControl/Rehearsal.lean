import AccessControl.Drill
import AccessControl.Policy.TupleSet
import AccessControl.Uuid

/-!
# Rehearsals

A rehearsal is a drill of a deployment with the policy agent in memory, whose clock stands still
unless it is moved, whose token strings are UUIDs in a fixed order, and whose ids are given ones
first and then `id-1`, `id-2`, ….
-/

namespace AccessControl

open AccessControl.Calendar

/-- What the outside parts of a rehearsal keep. -/
structure Bench where
  /-- The ids to be drawn first. -/
  given : List String := []
  /-- How many ids have been made up. -/
  made : Nat := 0
  /-- How many salts have been drawn. -/
  salts : Nat := 0
deriving Repr

namespace Bench

/-- The salt drawn `n`-th. -/
def saltAt (n : Nat) : Salt where
  bytes := Password.Blake2b.bytesOfNat 16 n
  three_le := by simp [Password.Blake2b.bytesOfNat]
  le_fortyEight := by simp [Password.Blake2b.bytesOfNat]

/-- The given ids, and then made up ones. -/
def ids : IdSource Bench where
  fresh := do
    let b ← Action.get
    match b.given with
    | id :: rest => do
      Action.set { b with given := rest }
      return id
    | [] => do
      Action.set { b with made := b.made + 1 }
      return "id-" ++ toString (b.made + 1)

/-- Salts of 16 bytes, all different. -/
def saltSource : Action Bench HashError Salt := do
  let b ← Action.get
  Action.set { b with salts := b.salts + 1 }
  return Bench.saltAt b.salts

end Bench

/-- The world of a rehearsal. -/
abbrev Stage := World (TupleSet × Outage) Bench

/-- The state of a rehearsal. -/
abbrev Rehearsal := Drill Stage

namespace Rehearsal

/-- The token string drawn `n`-th. -/
def tokenAt (n : Nat) : String :=
  (Uuid.ofEntropy n).simple

/-- The policy agent of a rehearsal. -/
def agent : PolicyAgent (TupleSet × Outage) :=
  TupleSet.agent.withOutage Drill.agentOffline

/-- The deployment that is rehearsed. -/
def deployment (lifetimes : KeyLifetimes) (hasher : Hasher Bench) (mailer : Mailer Bench)
    (accepts : String → Bool) : Deployment (TupleSet × Outage) Bench where
  identity := { lifetime := lifetimes.of, tokenAt, agent }
  hasher := hasher
  mailer := mailer
  ids := Bench.ids
  accepts := accepts

/-- The account service of a rehearsal. -/
def service (d : Deployment (TupleSet × Outage) Bench) : AccountService Rehearsal :=
  ⟨Drill.backing d.backing, d.accepts⟩

/-- Saves records one after the other, passing over those that the store refuses. -/
def seeded (users : List User) : AccountStore :=
  users.foldl (fun store user => (AccountStore.save user store).state) {}

/-- A rehearsal before its first step. -/
def start (now : Timestamp) (tuples : List RelationTuple) (users : List User)
    (ids : List String) : Rehearsal where
  inner :=
    { identity := { now := now, agent := (TupleSet.ofList tuples, {}) }
      accounts := seeded users
      outside := { given := ids } }

/-- Turns a switch on or off, and with it the outage of the agent. -/
def turn (switch : Switch) (on : Bool) (r : Rehearsal) : Rehearsal :=
  let r := Drill.turn switch on r
  let identity := r.inner.identity
  { r with inner := { r.inner with
      identity := { identity with agent := (identity.agent.1, r.outage) } } }

/-- Moves the clock. -/
def advance (nanos : Int) (r : Rehearsal) : Rehearsal :=
  let identity := r.inner.identity
  { r with inner := { r.inner with
      identity := { identity with now := Timestamp.ofNanos (identity.now.toNanos + nanos) } } }

/-- Runs an action of the identity service, past the switches of the drill. -/
def onIdentity {ε α : Type} (action : Action (IdentityState (TupleSet × Outage)) ε α) :
    Action Rehearsal ε α :=
  Action.zoom Drill.inner (fun d s => { d with inner := s }) (World.onIdentity action)

/-- Runs an action of the repository, past the switches of the drill. -/
def onAccounts {ε α : Type} (action : Action AccountStore ε α) : Action Rehearsal ε α :=
  Action.zoom Drill.inner (fun d s => { d with inner := s }) (World.onAccounts action)

/-- Runs an action of the policy agent in memory, behind its outage. -/
def onTuples {ε α : Type} (action : Action TupleSet ε α) : Action Rehearsal ε α :=
  onIdentity (Action.zoom (fun s => s.agent.1)
    (fun s tuples => { s with agent := (tuples, s.agent.2) }) action)

end Rehearsal

end AccessControl
