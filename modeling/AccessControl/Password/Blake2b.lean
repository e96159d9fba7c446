/-!
# BLAKE2b

The digest of a run of bytes, of one to 64 bytes. Blocks of 128 bytes are mixed one after the other
into a state of eight words; the last block is filled with zeros and marked.

Words are read and written with their lowest byte first. `permuteWith` is shared with the block
function of Argon2, which mixes words in the same order but by a rule of its own.
-/

namespace AccessControl.Password.Blake2b

/-! ## Words and bytes -/

/-- The word of some bytes, the lowest first. -/
def wordOfBytes (bytes : List UInt8) : UInt64 :=
  bytes.foldr (fun b w => (w <<< 8) ||| b.toUInt64) 0

/-- The lowest bytes of a number, the lowest first. -/
def bytesOfNat (count n : Nat) : List UInt8 :=
  (List.range count).map fun i => UInt8.ofNat (n >>> (8 * i))

/-- The bytes of a word. -/
def bytesOfWord (w : UInt64) : List UInt8 :=
  bytesOfNat 8 w.toNat

/-- So many words from the start of a run of bytes. -/
def wordsOfBytes : Nat → List UInt8 → List UInt64
  | 0, _ => []
  | n + 1, bytes => wordOfBytes (bytes.take 8) :: wordsOfBytes n (bytes.drop 8)

/-- A word turned to the right. -/
def rotateRight (w : UInt64) (n : UInt64) : UInt64 :=
  (w >>> n) ||| (w <<< (64 - n))

/-! ## Mixing -/

/-- Words that are worked on. -/
abbrev Words := Array UInt64

/-- A word, or zero behind the end. -/
def word (v : Words) (i : Nat) : UInt64 :=
  v.getD i 0

/-- A way to mix the words at four places. -/
abbrev Mixer := (i a b c d : Nat) → Words → Words

/-- Mixes the columns and then the diagonals of a square of sixteen words; the first argument of the
mixer counts the steps. -/
def permuteWith (mix : Mixer) (v : Words) : Words :=
  [(0, 4, 8, 12), (1, 5, 9, 13), (2, 6, 10, 14), (3, 7, 11, 15),
    (0, 5, 10, 15), (1, 6, 11, 12), (2, 7, 8, 13), (3, 4, 9, 14)].zipIdx.foldl
    (fun v ((a, b, c, d), i) => mix i a b c d v) v

/-- Mixes four words, and two words of a message in. -/
def mix (x y : UInt64) (a b c d : Nat) (v : Words) : Words :=
  let va := word v a + word v b + x
  let vd := rotateRight (word v d ^^^ va) 32
  let vc := word v c + vd
  let vb := rotateRight (word v b ^^^ vc) 24
  let va := va + vb + y
  let vd := rotateRight (vd ^^^ va) 16
  let vc := vc + vd
  let vb := rotateRight (vb ^^^ vc) 63
  (((v.setIfInBounds a va).setIfInBounds b vb).setIfInBounds c vc).setIfInBounds d vd

/-- The first words of the state. -/
def seed : List UInt64 :=
  [0x6a09e667f3bcc908, 0xbb67ae8584caa73b, 0x3c6ef372fe94f82b, 0xa54ff53a5f1d36f1,
    0x510e527fade682d1, 0x9b05688c2b3e6c1f, 0x1f83d9abfb41bd6b, 0x5be0cd19137e2179]

/-- The orders in which the words of a message are taken. -/
def orders : List (List Nat) :=
  [[0, 1, 2, 3, 4, 5, 6, 7, 8, 9, 10, 11, 12, 13, 14, 15],
    [14, 10, 4, 8, 9, 15, 13, 6, 1, 12, 0, 2, 11, 7, 5, 3],
    [11, 8, 12, 0, 5, 2, 15, 13, 10, 14, 3, 6, 7, 1, 9, 4],
    [7, 9, 3, 1, 13, 12, 11, 14, 2, 6, 5, 10, 4, 0, 15, 8],
    [9, 0, 5, 7, 2, 4, 10, 15, 14, 1, 11, 12, 6, 8, 3, 13],
    [2, 12, 6, 10, 0, 11, 8, 3, 4, 13, 7, 5, 15, 14, 1, 9],
    [12, 5, 1, 15, 14, 13, 4, 10, 0, 7, 6, 3, 9, 2, 8, 11],
    [13, 11, 7, 14, 12, 1, 3, 9, 5, 0, 15, 4, 8, 6, 2, 10],
    [6, 15, 14, 9, 11, 3, 0, 8, 12, 2, 13, 7, 1, 4, 10, 5],
    [10, 2, 8, 4, 7, 6, 1, 5, 15, 11, 9, 14, 3, 12, 13, 0]]

/-- One round, with the words of the message in a given order. -/
def round (message : Words) (order : List Nat) (v : Words) : Words :=
  let at' (i : Nat) : UInt64 := word message (order.getD i 0)
  permuteWith (fun i => mix (at' (2 * i)) (at' (2 * i + 1))) v

/-- Mixes a block into the state, after so many bytes with those of the block; the flag marks the
last block. -/
def compress (state : List UInt64) (block : List UInt8) (count : Nat) (last : Bool) :
    List UInt64 :=
  let message := (wordsOfBytes 16 block).toArray
  let low := UInt64.ofNat count
  let high := UInt64.ofNat (count / UInt64.size)
  let tail := match seed with
    | [a, b, c, d, e, f, g, h] =>
      [a, b, c, d, e ^^^ low, f ^^^ high, if last then g ^^^ 0xffffffffffffffff else g, h]
    | other => other
  let v := (orders ++ orders.take 2).foldl (fun v order => round message order v)
    (state ++ tail).toArray
  state.zipIdx.map fun (h, i) => h ^^^ word v i ^^^ word v (i + 8)

/-- Mixes a message into the state, after so many bytes. -/
def absorb (state : List UInt64) (count : Nat) (message : List UInt8) : List UInt64 :=
  if _ : message.length ≤ 128 then
    let filled := message ++ List.replicate (128 - message.length) 0
    compress state filled (count + message.length) true
  else
    absorb (compress state (message.take 128) (count + 128) false) (count + 128) (message.drop 128)
termination_by message.length
decreasing_by simp only [List.length_drop]; omega

/-- The state before the first block of a message, for a digest of so many bytes. -/
def start (size : Nat) : List UInt64 :=
  match seed with
  | h :: hs => (h ^^^ 0x01010000 ^^^ UInt64.ofNat size) :: hs
  | [] => []

/-- The digest of a message, of so many bytes. -/
def digest (size : Nat) (message : List UInt8) : List UInt8 :=
  ((absorb (start size) 0 message).flatMap bytesOfWord).take size

end AccessControl.Password.Blake2b
