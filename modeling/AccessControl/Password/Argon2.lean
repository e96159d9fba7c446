import AccessControl.Password.Blake2b

/-!
# Argon2

The tag of a password: a table of blocks of 128 words is filled, each block from the one before it
and another one that is chosen either by a count (independent of the password) or by the words of
the block before it; the blocks at the ends of the lanes are then digested.

The table has one row per lane and is filled in four slices, each lane of a slice in turn; further
passes go over it again. Version 16 replaces the blocks of earlier passes, version 19 combines the
new ones with them.
-/

namespace AccessControl.Password.Argon2

open AccessControl.Password.Blake2b

/-- How blocks are chosen. -/
inductive Variant where
  /-- By the words of the block before. -/
  | dependent
  /-- By a count. -/
  | independent
  /-- By a count in the first half of the first pass, by words thereafter. -/
  | hybrid
deriving DecidableEq, Repr

/-- The number of the variant. -/
def Variant.code : Variant → Nat
  | .dependent => 0
  | .independent => 1
  | .hybrid => 2

/-- What goes into a tag besides the password and the salt. The secret is never told. -/
structure Request where
  variant : Variant
  version : Nat
  /-- In blocks of 1024 bytes. -/
  memory : Nat
  passes : Nat
  lanes : Nat
  tagSize : Nat
  secret : List UInt8 := []
  associated : List UInt8 := []
deriving DecidableEq, Repr

namespace Request

/-- The blocks of a lane in one slice. -/
def segmentSize (r : Request) : Nat :=
  r.memory / (4 * r.lanes)

/-- The blocks of a lane. -/
def laneSize (r : Request) : Nat :=
  4 * r.segmentSize

/-- The blocks of the table. -/
def tableSize (r : Request) : Nat :=
  r.lanes * r.laneSize

end Request

/-! ## Blocks -/

/-- The words of two blocks, combined. -/
def combine (x y : Words) : Words :=
  Array.zipWith (· ^^^ ·) x y

/-- The sum of two words and twice the product of their lower halves. -/
def sumAndProduct (x y : UInt64) : UInt64 :=
  x + y + 2 * (x &&& 0xffffffff) * (y &&& 0xffffffff)

/-- Mixes the words at four places. -/
def mixBlock (place : Nat → Nat) (a b c d : Nat) (v : Words) : Words :=
  let (a, b, c, d) := (place a, place b, place c, place d)
  let va := sumAndProduct (word v a) (word v b)
  let vd := rotateRight (word v d ^^^ va) 32
  let vc := sumAndProduct (word v c) vd
  let vb := rotateRight (word v b ^^^ vc) 24
  let va := sumAndProduct va vb
  let vd := rotateRight (vd ^^^ va) 16
  let vc := sumAndProduct vc vd
  let vb := rotateRight (vb ^^^ vc) 63
  (((v.setIfInBounds a va).setIfInBounds b vb).setIfInBounds c vc).setIfInBounds d vd

/-- Mixes the sixteen words at the given places. -/
def permute (place : Nat → Nat) (v : Words) : Words :=
  permuteWith (fun _ => mixBlock place) v

/-- The block made of two blocks: their combination, mixed by rows and then by columns of a square
of pairs, and combined with itself unmixed. -/
def compressBlocks (x y : Words) : Words :=
  let both := combine x y
  let rows := (List.range 8).foldl (fun v i => permute (fun k => 16 * i + k) v) both
  let columns := (List.range 8).foldl
    (fun v i => permute (fun k => 2 * i + 16 * (k / 2) + k % 2) v) rows
  combine columns both

/-- The block of zeros. -/
def zeroBlock : Words :=
  Array.replicate 128 0

/-! ## Digests -/

/-- Four bytes of a number, the lowest first. -/
def number (n : Nat) : List UInt8 :=
  bytesOfNat 4 n

/-- A run of bytes behind its length. -/
def counted (bytes : List UInt8) : List UInt8 :=
  number bytes.length ++ bytes

/-- Continues a long digest: each step gives half of its 64 bytes, the last all that are wanted. -/
def stretch : Nat → Nat → List UInt8 → List UInt8
  | 0, size, v => digest size v
  | n + 1, size, v =>
    let next := digest 64 v
    next.take 32 ++ stretch n (size - 32) next

/-- A digest of any size. -/
def longDigest (size : Nat) (message : List UInt8) : List UInt8 :=
  if size ≤ 64 then
    digest size (number size ++ message)
  else
    let first := digest 64 (number size ++ message)
    first.take 32 ++ stretch ((size + 31) / 32 - 3) (size - 32) first

/-- The digest of all that goes into a tag. -/
def Request.firstDigest (r : Request) (password salt : List UInt8) : List UInt8 :=
  digest 64 (number r.lanes ++ number r.tagSize ++ number r.memory ++ number r.passes ++
    number r.version ++ number r.variant.code ++ counted password ++ counted salt ++
    counted r.secret ++ counted r.associated)

/-! ## Filling the table -/

/-- The table of blocks, lane after lane. -/
abbrev Table := Array Words

/-- A block of the table. -/
def block (table : Table) (i : Nat) : Words :=
  table.getD i zeroBlock

/-- Where a segment lies. -/
structure Segment where
  pass : Nat
  slice : Nat
  lane : Nat
deriving DecidableEq, Repr

/-- Whether the blocks of a segment are chosen by a count. -/
def Request.isCounted (r : Request) (s : Segment) : Bool :=
  match r.variant with
  | .dependent => false
  | .independent => true
  | .hybrid => s.pass == 0 && s.slice < 2

/-- The words by which 128 blocks of a segment are chosen, for a count. -/
def Request.choices (r : Request) (s : Segment) (count : Nat) : Words :=
  let input := ([s.pass, s.lane, s.slice, r.tableSize, r.passes, r.variant.code, count].map
    UInt64.ofNat ++ List.replicate 121 0).toArray
  compressBlocks zeroBlock (compressBlocks zeroBlock input)

/-- The place of the block that a word chooses for the `index`-th block of a segment. It is one of
those filled in this pass or still left from the one before: all of the other lanes' that are in
finished segments, and of the own lane also those of this segment. -/
def Request.chosen (r : Request) (s : Segment) (index : Nat) (w : UInt64) : Nat :=
  let first := s.pass == 0 && s.slice == 0
  let lane := if first then s.lane else w.toNat / UInt32.size % r.lanes
  let finished := if s.pass == 0 then s.slice * r.segmentSize else r.laneSize - r.segmentSize
  let area :=
    if lane == s.lane then finished + index - 1
    else if index == 0 then finished - 1
    else finished
  let low := w.toNat % UInt32.size
  let back := low * low / UInt32.size
  let relative := area - 1 - area * back / UInt32.size
  let start := if s.pass == 0 || s.slice == 3 then 0 else (s.slice + 1) * r.segmentSize
  lane * r.laneSize + (start + relative) % r.laneSize

/-- Fills the `index`-th block of a segment. -/
def Request.fillBlock (r : Request) (s : Segment) (choices : Words) (table : Table) (index : Nat) :
    Table :=
  let column := s.slice * r.segmentSize + index
  let here := s.lane * r.laneSize + column
  let before := s.lane * r.laneSize + (column + r.laneSize - 1) % r.laneSize
  let previous := block table before
  let w := if r.isCounted s then word choices (index % 128) else word previous 0
  let new := compressBlocks previous (block table (r.chosen s index w))
  let new := if r.version == 16 || s.pass == 0 then new else combine (block table here) new
  table.setIfInBounds here new

/-- Fills a segment, in groups of 128 blocks. The first two blocks of a lane are there from the
start. -/
def Request.fillSegment (r : Request) (table : Table) (s : Segment) : Table :=
  let skipped := if s.pass == 0 && s.slice == 0 then 2 else 0
  (List.range ((r.segmentSize + 127) / 128)).foldl
    (fun table group =>
      let choices := if r.isCounted s then r.choices s (group + 1) else zeroBlock
      ((List.range (min 128 (r.segmentSize - 128 * group))).map (128 * group + ·)).foldl
        (fun table index => if index < skipped then table else r.fillBlock s choices table index)
        table)
    table

/-- The segments in the order in which they are filled. -/
def Request.segments (r : Request) : List Segment :=
  (List.range r.passes).flatMap fun pass =>
    (List.range 4).flatMap fun slice =>
      (List.range r.lanes).map fun lane => ⟨pass, slice, lane⟩

/-- The table with the first two blocks of each lane. -/
def Request.firstTable (r : Request) (seed : List UInt8) : Table :=
  let first (lane column : Nat) : Words :=
    (wordsOfBytes 128 (longDigest 1024 (seed ++ number column ++ number lane))).toArray
  (List.range r.lanes).foldl
    (fun table lane =>
      (table.setIfInBounds (lane * r.laneSize) (first lane 0)).setIfInBounds
        (lane * r.laneSize + 1) (first lane 1))
    (Array.replicate r.tableSize zeroBlock)

/-- The tag of a password under a salt. -/
def Request.tag (r : Request) (password salt : List UInt8) : List UInt8 :=
  let table := r.segments.foldl r.fillSegment (r.firstTable (r.firstDigest password salt))
  let last := (List.range r.lanes).foldl
    (fun v lane => combine v (block table (lane * r.laneSize + r.laneSize - 1))) zeroBlock
  longDigest r.tagSize (last.toList.flatMap bytesOfWord)

end AccessControl.Password.Argon2
