import AccessControl.Password.Argon2

/-!
# The sizes of digests and tags

BLAKE2b keeps a state of eight words, whatever it absorbs, so there are always 64 bytes to take a
digest from. Argon2 puts digests of any size together from these, and its tags have the size that
was asked for (`length_tag`).
-/

namespace AccessControl.Password

namespace Blake2b

variable {size : Nat} {state : List UInt64}

/-- A number is written in as many bytes as are asked for. -/
theorem length_bytesOfNat (count n : Nat) : (bytesOfNat count n).length = count := by
  rw [bytesOfNat, List.length_map, List.length_range]

/-- Compressing keeps the length of the state. -/
theorem length_compress (state : List UInt64) (block : List UInt8) (count : Nat) (last : Bool) :
    (compress state block count last).length = state.length := by
  rw [compress, List.length_map, List.length_zipIdx]

/-- Absorbing a message keeps the number of words. -/
theorem length_absorb (state : List UInt64) (count : Nat) (message : List UInt8) :
    (absorb state count message).length = state.length := by
  fun_induction absorb state count message with
  | case1 => exact length_compress ..
  | case2 state count message _ ih => rw [ih, length_compress]

theorem length_start (size : Nat) : (start size).length = 8 := rfl

/-- A word is written in eight bytes. -/
theorem length_flatMap_bytesOfWord (words : List UInt64) :
    (words.flatMap bytesOfWord).length = 8 * words.length := by
  simp only [List.length_flatMap, bytesOfWord, length_bytesOfNat, List.map_const',
    List.sum_replicate_nat, Nat.mul_comm]

/-- A digest has as many bytes as are wanted. -/
theorem length_digest (hsize : size ≤ 64) (message : List UInt8) :
    (digest size message).length = size := by
  have hwords : (absorb (start size) 0 message).length = 8 := by
    rw [length_absorb, length_start]
  rw [digest, List.length_take, length_flatMap_bytesOfWord, hwords]
  exact Nat.min_eq_left hsize

end Blake2b

namespace Argon2

open Blake2b

/-- Each step gives 32 bytes; the last one gives the rest, if it is not more than a digest has. -/
theorem length_stretch (n size : Nat) (v : List UInt8) (henough : 32 * n ≤ size)
    (hrest : size ≤ 32 * n + 64) : (stretch n size v).length = size := by
  induction n generalizing size v with
  | zero => exact length_digest (by omega) v
  | succ n ih =>
    rw [stretch, List.length_append, List.length_take, length_digest (Nat.le_refl 64),
      ih (size - 32) (digest 64 v) (by omega) (by omega)]
    omega

/-- A long digest is as long as was asked for. -/
theorem length_longDigest (size : Nat) (message : List UInt8) :
    (longDigest size message).length = size := by
  rw [longDigest]
  split
  next hshort => exact length_digest hshort _
  next hlong =>
    have hstretch := length_stretch ((size + 31) / 32 - 3) (size - 32)
      (digest 64 (number size ++ message)) (by omega) (by omega)
    rw [List.length_append, List.length_take, length_digest (Nat.le_refl 64), hstretch]
    omega

/-- A tag has the size that was asked for. -/
theorem length_tag (r : Request) (password salt : List UInt8) :
    (r.tag password salt).length = r.tagSize :=
  length_longDigest r.tagSize _

end Argon2

end AccessControl.Password
