import Ebms.Bytes

/-! # BLAKE2b

The digest of RFC 7693 without a key.  A message is cut into blocks of 128
bytes, the last one filled up with zeros; each block is mixed into the state in
twelve rounds, in each of which the words of the block come in another order. -/

set_option autoImplicit false

namespace Ebms

/-- Sixteen words, in four rows of four. -/
structure WordGrid where
  v0 : UInt64
  v1 : UInt64
  v2 : UInt64
  v3 : UInt64
  v4 : UInt64
  v5 : UInt64
  v6 : UInt64
  v7 : UInt64
  v8 : UInt64
  v9 : UInt64
  v10 : UInt64
  v11 : UInt64
  v12 : UInt64
  v13 : UInt64
  v14 : UInt64
  v15 : UInt64
  deriving DecidableEq, Repr, Inhabited

namespace WordGrid

def words (g : WordGrid) : List UInt64 :=
  [g.v0, g.v1, g.v2, g.v3, g.v4, g.v5, g.v6, g.v7, g.v8, g.v9, g.v10, g.v11, g.v12, g.v13,
    g.v14, g.v15]

def ofWords (words : Array UInt64) : WordGrid :=
  { v0 := words.getD 0 0, v1 := words.getD 1 0, v2 := words.getD 2 0, v3 := words.getD 3 0
    v4 := words.getD 4 0, v5 := words.getD 5 0, v6 := words.getD 6 0, v7 := words.getD 7 0
    v8 := words.getD 8 0, v9 := words.getD 9 0, v10 := words.getD 10 0, v11 := words.getD 11 0
    v12 := words.getD 12 0, v13 := words.getD 13 0, v14 := words.getD 14 0
    v15 := words.getD 15 0 }

@[inline] def rotate (word count : UInt64) : UInt64 := (word >>> count) ||| (word <<< (64 - count))

end WordGrid

namespace Blake2b

structure State where
  h0 : UInt64
  h1 : UInt64
  h2 : UInt64
  h3 : UInt64
  h4 : UInt64
  h5 : UInt64
  h6 : UInt64
  h7 : UInt64
  deriving DecidableEq, Repr, Inhabited

def constants : State :=
  { h0 := 0x6a09e667f3bcc908, h1 := 0xbb67ae8584caa73b, h2 := 0x3c6ef372fe94f82b
    h3 := 0xa54ff53a5f1d36f1, h4 := 0x510e527fade682d1, h5 := 0x9b05688c2b3e6c1f
    h6 := 0x1f83d9abfb41bd6b, h7 := 0x5be0cd19137e2179 }

def initial (size : Nat) : State :=
  { constants with h0 := constants.h0 ^^^ 0x01010000 ^^^ UInt64.ofNat size }

/-- The order of the words of a block in each round; the last two rounds repeat
the first two. -/
def orders : List (List Nat) :=
  [[0, 1, 2, 3, 4, 5, 6, 7, 8, 9, 10, 11, 12, 13, 14, 15],
    [14, 10, 4, 8, 9, 15, 13, 6, 1, 12, 0, 2, 11, 7, 5, 3],
    [11, 8, 12, 0, 5, 2, 15, 13, 10, 14, 3, 6, 7, 1, 9, 4],
    [7, 9, 3, 1, 13, 12, 11, 14, 2, 6, 5, 10, 4, 0, 15, 8],
    [9, 0, 5, 7, 2, 4, 10, 15, 14, 1, 11, 12, 6, 8, 3, 13],
    [2, 12, 6, 10, 0, 11, 8, 3, 4, 13, 7, 5, 15, 14, 1, 9],
    [12, 5, 1, 15, 14, 13, 4, 10, 0, 7, 6, 3, 9, 2, 8, 11],
    [13, 11, 7, 14, 12, 1, 3, 9, 5, 0, 15, 4, 8, 6, 2, 10],
    [6, 15, 14, 9, 11, 3, 0, 8, 12, 2, 13, 7, 1, 4, 10, 5],
    [10, 2, 8, 4, 7, 6, 1, 5, 15, 11, 9, 14, 3, 12, 13, 0],
    [0, 1, 2, 3, 4, 5, 6, 7, 8, 9, 10, 11, 12, 13, 14, 15],
    [14, 10, 4, 8, 9, 15, 13, 6, 1, 12, 0, 2, 11, 7, 5, 3]]

@[inline] def mix {α : Type} (a b c d x y : UInt64)
    (andThen : UInt64 → UInt64 → UInt64 → UInt64 → α) : α :=
  let a := a + b + x
  let d := WordGrid.rotate (d ^^^ a) 32
  let c := c + d
  let b := WordGrid.rotate (b ^^^ c) 24
  let a := a + b + y
  let d := WordGrid.rotate (d ^^^ a) 16
  let c := c + d
  let b := WordGrid.rotate (b ^^^ c) 63
  andThen a b c d

def round (v m : WordGrid) : WordGrid :=
  mix v.v0 v.v4 v.v8 v.v12 m.v0 m.v1 fun v0 v4 v8 v12 =>
  mix v.v1 v.v5 v.v9 v.v13 m.v2 m.v3 fun v1 v5 v9 v13 =>
  mix v.v2 v.v6 v.v10 v.v14 m.v4 m.v5 fun v2 v6 v10 v14 =>
  mix v.v3 v.v7 v.v11 v.v15 m.v6 m.v7 fun v3 v7 v11 v15 =>
  mix v0 v5 v10 v15 m.v8 m.v9 fun v0 v5 v10 v15 =>
  mix v1 v6 v11 v12 m.v10 m.v11 fun v1 v6 v11 v12 =>
  mix v2 v7 v8 v13 m.v12 m.v13 fun v2 v7 v8 v13 =>
  mix v3 v4 v9 v14 m.v14 m.v15 fun v3 v4 v9 v14 =>
  { v0, v1, v2, v3, v4, v5, v6, v7, v8, v9, v10, v11, v12, v13, v14, v15 }

def wordsFrom (words : Array UInt64) : Bytes → Array UInt64
  | a :: b :: c :: d :: e :: f :: g :: h :: rest =>
    wordsFrom (words.push (a.toUInt64 ||| (b.toUInt64 <<< 8) ||| (c.toUInt64 <<< 16) |||
      (d.toUInt64 <<< 24) ||| (e.toUInt64 <<< 32) ||| (f.toUInt64 <<< 40) |||
      (g.toUInt64 <<< 48) ||| (h.toUInt64 <<< 56))) rest
  | _ => words

/-- The grid that a block is mixed into: the state, and the constants changed by
the number of bytes read and by whether the block is the last one. -/
def startGrid (s : State) (count : Nat) (last : Bool) : WordGrid :=
  { v0 := s.h0, v1 := s.h1, v2 := s.h2, v3 := s.h3, v4 := s.h4, v5 := s.h5, v6 := s.h6
    v7 := s.h7, v8 := constants.h0, v9 := constants.h1, v10 := constants.h2
    v11 := constants.h3, v12 := constants.h4 ^^^ UInt64.ofNat count
    v13 := constants.h5 ^^^ UInt64.ofNat (count / UInt64.size)
    v14 := if last then ~~~ constants.h6 else constants.h6, v15 := constants.h7 }

def compress (s : State) (block : Bytes) (count : Nat) (last : Bool) : State :=
  let words := wordsFrom (Array.emptyWithCapacity 16) block
  let v := orders.foldl (fun v order =>
    round v (.ofWords (order.map fun i => words.getD i 0).toArray)) (startGrid s count last)
  { h0 := s.h0 ^^^ v.v0 ^^^ v.v8, h1 := s.h1 ^^^ v.v1 ^^^ v.v9, h2 := s.h2 ^^^ v.v2 ^^^ v.v10
    h3 := s.h3 ^^^ v.v3 ^^^ v.v11, h4 := s.h4 ^^^ v.v4 ^^^ v.v12
    h5 := s.h5 ^^^ v.v5 ^^^ v.v13, h6 := s.h6 ^^^ v.v6 ^^^ v.v14
    h7 := s.h7 ^^^ v.v7 ^^^ v.v15 }

/-- The state after the rest of a message of which `count` bytes have been read;
there are `more` blocks before the last one. -/
def absorb (s : State) (count : Nat) (rest : Bytes) : Nat → State
  | 0 =>
    let block := rest.take 128
    compress s (block ++ List.replicate (128 - block.length) 0) (count + block.length) true
  | more + 1 => absorb (compress s (rest.take 128) (count + 128) false) (count + 128)
      (rest.drop 128) more

def wordBytes (word : UInt64) : Bytes := Bytes.ofNatLittleEndian 8 word.toNat

/-- The digest of a message in `size` bytes, of which there are 64 at most. -/
def digest (size : Nat) (message : Bytes) : Bytes :=
  let s := absorb (initial size) 0 message ((message.length - 1) / 128)
  ([s.h0, s.h1, s.h2, s.h3, s.h4, s.h5, s.h6, s.h7].flatMap wordBytes).take size

end Blake2b

end Ebms
