import Ebms.Bytes

/-! # SHA-256

The digest of FIPS 180-4 with words of 32 bits.  A message is padded to whole
blocks of 64 bytes; each block is expanded to 64 words, which are mixed into the
state one after the other. -/

set_option autoImplicit false

namespace Ebms.Sha256

structure State where
  a : UInt32
  b : UInt32
  c : UInt32
  d : UInt32
  e : UInt32
  f : UInt32
  g : UInt32
  h : UInt32
  deriving DecidableEq, Repr, Inhabited

/-- The state before the first block: from the square roots of eight primes. -/
def initial : State :=
  { a := 0x6a09e667, b := 0xbb67ae85, c := 0x3c6ef372
    d := 0xa54ff53a, e := 0x510e527f, f := 0x9b05688c
    g := 0x1f83d9ab, h := 0x5be0cd19 }

/-- The constants of the rounds: from the cube roots of 64 primes. -/
def roundConstants : Array UInt32 :=
  #[
    0x428a2f98, 0x71374491, 0xb5c0fbcf, 0xe9b5dba5, 0x3956c25b, 0x59f111f1, 0x923f82a4,
    0xab1c5ed5, 0xd807aa98, 0x12835b01, 0x243185be, 0x550c7dc3, 0x72be5d74, 0x80deb1fe,
    0x9bdc06a7, 0xc19bf174, 0xe49b69c1, 0xefbe4786, 0x0fc19dc6, 0x240ca1cc, 0x2de92c6f,
    0x4a7484aa, 0x5cb0a9dc, 0x76f988da, 0x983e5152, 0xa831c66d, 0xb00327c8, 0xbf597fc7,
    0xc6e00bf3, 0xd5a79147, 0x06ca6351, 0x14292967, 0x27b70a85, 0x2e1b2138, 0x4d2c6dfc,
    0x53380d13, 0x650a7354, 0x766a0abb, 0x81c2c92e, 0x92722c85, 0xa2bfe8a1, 0xa81a664b,
    0xc24b8b70, 0xc76c51a3, 0xd192e819, 0xd6990624, 0xf40e3585, 0x106aa070, 0x19a4c116,
    0x1e376c08, 0x2748774c, 0x34b0bcb5, 0x391c0cb3, 0x4ed8aa4a, 0x5b9cca4f, 0x682e6ff3,
    0x748f82ee, 0x78a5636f, 0x84c87814, 0x8cc70208, 0x90befffa, 0xa4506ceb, 0xbef9a3f7,
    0xc67178f2]

def rotate (word : UInt32) (count : UInt32) : UInt32 :=
  (word >>> count) ||| (word <<< (32 - count))

def round (s : State) (input : UInt32) : State :=
  let sum1 := rotate s.e 6 ^^^ rotate s.e 11 ^^^ rotate s.e 25
  let choice := (s.e &&& s.f) ^^^ ((~~~ s.e) &&& s.g)
  let first := s.h + sum1 + choice + input
  let sum0 := rotate s.a 2 ^^^ rotate s.a 13 ^^^ rotate s.a 22
  let majority := (s.a &&& s.b) ^^^ (s.a &&& s.c) ^^^ (s.b &&& s.c)
  { a := first + (sum0 + majority), b := s.a, c := s.b, d := s.c
    e := s.d + first, f := s.e, g := s.f, h := s.g }

/-- Appends `count` words to a schedule that holds sixteen at least. -/
def extend : Nat → Array UInt32 → Array UInt32
  | 0, words => words
  | count + 1, words =>
    let back (distance : Nat) : UInt32 := words.getD (words.size - distance) 0
    let w2 := back 2
    let w15 := back 15
    let mixed2 := rotate w2 17 ^^^ rotate w2 19 ^^^ (w2 >>> 10)
    let mixed15 := rotate w15 7 ^^^ rotate w15 18 ^^^ (w15 >>> 3)
    extend count (words.push (mixed2 + back 7 + mixed15 + back 16))

def rounds (schedule : Array UInt32) : Nat → Nat → State → State
  | 0, _, s => s
  | count + 1, index, s =>
    rounds schedule count (index + 1)
      (round s (roundConstants.getD index 0 + schedule.getD index 0))

def wordsFrom (words : Array UInt32) : Bytes → Array UInt32
  | a :: b :: c :: d :: rest =>
    wordsFrom (words.push ((a.toUInt32 <<< 24) ||| (b.toUInt32 <<< 16) |||
      (c.toUInt32 <<< 8) ||| d.toUInt32)) rest
  | _ => words

def compress (s : State) (block : Bytes) : State :=
  let schedule := extend 48 (wordsFrom (Array.emptyWithCapacity 64) block)
  let t := rounds schedule 64 0 s
  { a := s.a + t.a, b := s.b + t.b, c := s.c + t.c, d := s.d + t.d
    e := s.e + t.e, f := s.f + t.f, g := s.g + t.g, h := s.h + t.h }

def absorb : Nat → State → Bytes → State
  | 0, s, _ => s
  | count + 1, s, input => absorb count (compress s (input.take 64)) (input.drop 64)

/-- What follows a message of some length: a set bit, zeros up to the end of a
block, and the length in bits. -/
def padding (length : Nat) : Bytes :=
  let zeros := (64 - (length + 1 + 8) % 64) % 64
  0x80 :: (List.replicate zeros 0
    ++ (Bytes.ofNatLittleEndian 8 (8 * length)).reverse)

def wordBytes (word : UInt32) : Bytes := (Bytes.ofNatLittleEndian 4 word.toNat).reverse

def digest (message : Bytes) : Bytes :=
  let padded := message ++ padding message.length
  let s := absorb (padded.length / 64) initial padded
  [s.a, s.b, s.c, s.d, s.e, s.f, s.g, s.h].flatMap wordBytes

end Ebms.Sha256
