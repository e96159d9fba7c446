import AccessControl.Password.Error

/-!
# Costs of password hashing

What a hash costs: the memory in blocks of 1024 bytes, the number of passes over it, and the number
of lanes. Each lane needs eight blocks at least.
-/

namespace AccessControl

/-- The costs of a hash, within their limits. -/
structure Costs where
  memory : UInt32
  passes : UInt32
  lanes : UInt32
  memory_ge : 8 ≤ memory.toNat ∧ 8 * lanes.toNat ≤ memory.toNat
  passes_pos : 0 < passes.toNat
  lanes_pos : 0 < lanes.toNat
  lanes_lt : lanes.toNat < 16777216
deriving DecidableEq, Repr

namespace Costs

/-- Checks costs: the memory first, then the passes, then the lanes. -/
def check (memory passes lanes : UInt32) : Except CostError Costs :=
  if hm : 8 ≤ memory.toNat ∧ 8 * lanes.toNat ≤ memory.toNat then
    if hp : 0 < passes.toNat then
      if hl : 0 < lanes.toNat then
        if hl' : lanes.toNat < 16777216 then .ok ⟨memory, passes, lanes, hm, hp, hl, hl'⟩
        else .error .tooManyThreads
      else .error .tooFewThreads
    else .error .timeTooSmall
  else .error .memoryTooSmall

/-- The costs where none are given. -/
def standard : Costs where
  memory := 19456
  passes := 2
  lanes := 1
  memory_ge := by decide
  passes_pos := by decide
  lanes_pos := by decide
  lanes_lt := by decide

end Costs

end AccessControl
