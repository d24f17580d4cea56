import Ebms.Hash.Blake2b

/-! # Argon2id

The key derivation of RFC 9106 in its version 1.3 with one lane.  A memory of
blocks of 1024 bytes is filled block by block, each from the one before and an
earlier one.  In the first half of the first pass that earlier block is chosen
by position alone, from then on by what the memory holds. -/

set_option autoImplicit false

namespace Ebms

/-- A block of memory: eight rows of sixteen words. -/
structure MemoryBlock where
  r0 : WordGrid
  r1 : WordGrid
  r2 : WordGrid
  r3 : WordGrid
  r4 : WordGrid
  r5 : WordGrid
  r6 : WordGrid
  r7 : WordGrid
  deriving DecidableEq, Repr, Inhabited

namespace MemoryBlock

def xorRow (a b : WordGrid) : WordGrid :=
  { v0 := a.v0 ^^^ b.v0, v1 := a.v1 ^^^ b.v1, v2 := a.v2 ^^^ b.v2, v3 := a.v3 ^^^ b.v3
    v4 := a.v4 ^^^ b.v4, v5 := a.v5 ^^^ b.v5, v6 := a.v6 ^^^ b.v6, v7 := a.v7 ^^^ b.v7
    v8 := a.v8 ^^^ b.v8, v9 := a.v9 ^^^ b.v9, v10 := a.v10 ^^^ b.v10, v11 := a.v11 ^^^ b.v11
    v12 := a.v12 ^^^ b.v12, v13 := a.v13 ^^^ b.v13, v14 := a.v14 ^^^ b.v14
    v15 := a.v15 ^^^ b.v15 }

def xor (a b : MemoryBlock) : MemoryBlock :=
  { r0 := xorRow a.r0 b.r0, r1 := xorRow a.r1 b.r1, r2 := xorRow a.r2 b.r2
    r3 := xorRow a.r3 b.r3, r4 := xorRow a.r4 b.r4, r5 := xorRow a.r5 b.r5
    r6 := xorRow a.r6 b.r6, r7 := xorRow a.r7 b.r7 }

@[inline] def mapRows (f : WordGrid → WordGrid) (b : MemoryBlock) : MemoryBlock :=
  { r0 := f b.r0, r1 := f b.r1, r2 := f b.r2, r3 := f b.r3, r4 := f b.r4, r5 := f b.r5
    r6 := f b.r6, r7 := f b.r7 }

def rows (b : MemoryBlock) : List WordGrid := [b.r0, b.r1, b.r2, b.r3, b.r4, b.r5, b.r6, b.r7]

/-- The rows made of pairs of words that stand below each other. -/
def transpose (b : MemoryBlock) : MemoryBlock :=
  { r0 := ⟨b.r0.v0, b.r0.v1, b.r1.v0, b.r1.v1, b.r2.v0, b.r2.v1, b.r3.v0, b.r3.v1,
      b.r4.v0, b.r4.v1, b.r5.v0, b.r5.v1, b.r6.v0, b.r6.v1, b.r7.v0, b.r7.v1⟩
    r1 := ⟨b.r0.v2, b.r0.v3, b.r1.v2, b.r1.v3, b.r2.v2, b.r2.v3, b.r3.v2, b.r3.v3,
      b.r4.v2, b.r4.v3, b.r5.v2, b.r5.v3, b.r6.v2, b.r6.v3, b.r7.v2, b.r7.v3⟩
    r2 := ⟨b.r0.v4, b.r0.v5, b.r1.v4, b.r1.v5, b.r2.v4, b.r2.v5, b.r3.v4, b.r3.v5,
      b.r4.v4, b.r4.v5, b.r5.v4, b.r5.v5, b.r6.v4, b.r6.v5, b.r7.v4, b.r7.v5⟩
    r3 := ⟨b.r0.v6, b.r0.v7, b.r1.v6, b.r1.v7, b.r2.v6, b.r2.v7, b.r3.v6, b.r3.v7,
      b.r4.v6, b.r4.v7, b.r5.v6, b.r5.v7, b.r6.v6, b.r6.v7, b.r7.v6, b.r7.v7⟩
    r4 := ⟨b.r0.v8, b.r0.v9, b.r1.v8, b.r1.v9, b.r2.v8, b.r2.v9, b.r3.v8, b.r3.v9,
      b.r4.v8, b.r4.v9, b.r5.v8, b.r5.v9, b.r6.v8, b.r6.v9, b.r7.v8, b.r7.v9⟩
    r5 := ⟨b.r0.v10, b.r0.v11, b.r1.v10, b.r1.v11, b.r2.v10, b.r2.v11, b.r3.v10, b.r3.v11,
      b.r4.v10, b.r4.v11, b.r5.v10, b.r5.v11, b.r6.v10, b.r6.v11, b.r7.v10, b.r7.v11⟩
    r6 := ⟨b.r0.v12, b.r0.v13, b.r1.v12, b.r1.v13, b.r2.v12, b.r2.v13, b.r3.v12, b.r3.v13,
      b.r4.v12, b.r4.v13, b.r5.v12, b.r5.v13, b.r6.v12, b.r6.v13, b.r7.v12, b.r7.v13⟩
    r7 := ⟨b.r0.v14, b.r0.v15, b.r1.v14, b.r1.v15, b.r2.v14, b.r2.v15, b.r3.v14, b.r3.v15,
      b.r4.v14, b.r4.v15, b.r5.v14, b.r5.v15, b.r6.v14, b.r6.v15, b.r7.v14, b.r7.v15⟩ }

def bytes (b : MemoryBlock) : Bytes :=
  b.rows.flatMap fun row => row.words.flatMap Blake2b.wordBytes

def ofBytes (bytes : Bytes) : MemoryBlock :=
  let words := Blake2b.wordsFrom (Array.emptyWithCapacity 128) bytes
  let row (i : Nat) : WordGrid := .ofWords (words.extract (16 * i) (16 * i + 16))
  { r0 := row 0, r1 := row 1, r2 := row 2, r3 := row 3, r4 := row 4, r5 := row 5, r6 := row 6
    r7 := row 7 }

def word (b : MemoryBlock) (i : Nat) : UInt64 :=
  ((b.rows.getD (i / 16) default).words).getD (i % 16) 0

end MemoryBlock

namespace Argon2

structure Cost where
  /-- The number of blocks of memory, a multiple of four. -/
  blocks : Nat
  passes : Nat
  keyLength : Nat
  deriving DecidableEq, Repr, Inhabited

/-- The sum of two words and twice the product of their lower halves. -/
@[inline] def blend (a b : UInt64) : UInt64 :=
  a + b + 2 * (a &&& 0xFFFFFFFF) * (b &&& 0xFFFFFFFF)

@[inline] def mix {α : Type} (a b c d : UInt64)
    (andThen : UInt64 → UInt64 → UInt64 → UInt64 → α) : α :=
  let a := blend a b
  let d := WordGrid.rotate (d ^^^ a) 32
  let c := blend c d
  let b := WordGrid.rotate (b ^^^ c) 24
  let a := blend a b
  let d := WordGrid.rotate (d ^^^ a) 16
  let c := blend c d
  let b := WordGrid.rotate (b ^^^ c) 63
  andThen a b c d

/-- Mixes a row as a grid: its columns, then its diagonals. -/
def permute (v : WordGrid) : WordGrid :=
  mix v.v0 v.v4 v.v8 v.v12 fun v0 v4 v8 v12 =>
  mix v.v1 v.v5 v.v9 v.v13 fun v1 v5 v9 v13 =>
  mix v.v2 v.v6 v.v10 v.v14 fun v2 v6 v10 v14 =>
  mix v.v3 v.v7 v.v11 v.v15 fun v3 v7 v11 v15 =>
  mix v0 v5 v10 v15 fun v0 v5 v10 v15 =>
  mix v1 v6 v11 v12 fun v1 v6 v11 v12 =>
  mix v2 v7 v8 v13 fun v2 v7 v8 v13 =>
  mix v3 v4 v9 v14 fun v3 v4 v9 v14 =>
  { v0, v1, v2, v3, v4, v5, v6, v7, v8, v9, v10, v11, v12, v13, v14, v15 }

def compress (a b : MemoryBlock) : MemoryBlock :=
  let sum := a.xor b
  (((sum.mapRows permute).transpose.mapRows permute).transpose).xor sum

def number (value : Nat) : Bytes := Bytes.ofNatLittleEndian 4 value

/-- Digests of digests, of which the first halves are the bytes wanted; the last
digest counts in full. -/
def stretchFrom (digest : Bytes) (lastSize : Nat) : Nat → Bytes
  | 0 => Blake2b.digest lastSize digest
  | count + 1 => digest.take 32 ++ stretchFrom
      (if count = 0 then digest else Blake2b.digest 64 digest) lastSize count

def stretch (size : Nat) (input : Bytes) : Bytes :=
  if size ≤ 64 then Blake2b.digest size (number size ++ input)
  else
    let halves := (size + 31) / 32 - 2
    stretchFrom (Blake2b.digest 64 (number size ++ input)) (size - 32 * halves) halves

def seed (cost : Cost) (password salt : Bytes) : Bytes :=
  Blake2b.digest 64 (number 1 ++ number cost.keyLength ++ number cost.blocks
    ++ number cost.passes ++ number 0x13 ++ number 2 ++ number password.length ++ password
    ++ number salt.length ++ salt ++ number 0 ++ number 0)

def Cost.quarter (cost : Cost) : Nat := cost.blocks / 4

/-- The numbers that choose blocks by position: those of a run of 128 positions
in a quarter. -/
def addresses (cost : Cost) (pass slice run : Nat) : MemoryBlock :=
  let input : MemoryBlock :=
    { (default : MemoryBlock) with
      r0 := { (default : WordGrid) with
        v0 := UInt64.ofNat pass, v2 := UInt64.ofNat slice, v3 := UInt64.ofNat cost.blocks
        v4 := UInt64.ofNat cost.passes, v5 := 2, v6 := UInt64.ofNat (run + 1) } }
  compress default (compress default input)

/-- The earlier block that a number chooses.  Those of the quarter that is being
filled count as far as they are filled, the one before the position excepted;
late ones are chosen more often. -/
def choose (cost : Cost) (pass slice index : Nat) (number : UInt64) : Nat :=
  let area :=
    (if pass = 0 then slice * cost.quarter else cost.blocks - cost.quarter) + index - 1
  let low : Nat := number.toNat % UInt32.size
  let back := area * (low * low / UInt32.size) / UInt32.size
  let start := if pass = 0 ∨ slice = 3 then 0 else (slice + 1) * cost.quarter
  (start + (area - 1 - back)) % cost.blocks

/-- Fills `count` positions from one on; positions are counted through all
passes.  `chosen` holds the numbers that choose by position. -/
def fillFrom (cost : Cost) (memory : Array MemoryBlock) (chosen : MemoryBlock)
    (position : Nat) : Nat → Array MemoryBlock
  | 0 => memory
  | count + 1 =>
    let pass := position / cost.blocks
    let place := position % cost.blocks
    let slice := place / cost.quarter
    let index := place % cost.quarter
    let byPosition : Bool := decide (pass = 0 ∧ slice < 2)
    let chosen :=
      if byPosition && (index % 128 == 0 || position == 2) then
        addresses cost pass slice (index / 128)
      else chosen
    let before := memory.getD (if place = 0 then cost.blocks - 1 else place - 1) default
    let number := if byPosition then chosen.word (index % 128) else before.r0.v0
    let earlier := memory.getD (choose cost pass slice index number) default
    let made := compress before earlier
    let made := if pass = 0 then made else made.xor (memory.getD place default)
    fillFrom cost (memory.setIfInBounds place made) chosen (position + 1) count

def derive (cost : Cost) (password salt : Bytes) : Bytes :=
  let seed := seed cost password salt
  let first (i : Nat) : MemoryBlock := .ofBytes (stretch 1024 (seed ++ number i ++ number 0))
  let memory := ((Array.replicate cost.blocks (default : MemoryBlock)).setIfInBounds 0
    (first 0)).setIfInBounds 1 (first 1)
  let filled := fillFrom cost memory default 2 (cost.passes * cost.blocks - 2)
  stretch cost.keyLength (filled.getD (cost.blocks - 1) default).bytes

end Argon2

end Ebms
