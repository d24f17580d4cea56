import Ebms.Bytes

/-! # AES-256

The block cipher of FIPS 197 with keys of 256 bits, in the direction of
encryption only: counter mode needs no other.  A block is sixteen bytes, four to
a column. -/

set_option autoImplicit false

namespace Ebms.Aes

/-- The product of a byte and `x` in the field of 256 elements. -/
def double (b : UInt8) : UInt8 := (b <<< 1) ^^^ (if b &&& 0x80 = 0 then 0 else 0x1B)

def timesFrom (product a b : UInt8) : Nat → UInt8
  | 0 => product
  | bits + 1 =>
    timesFrom (if b &&& 1 = 0 then product else product ^^^ a) (double a) (b >>> 1) bits

def times (a b : UInt8) : UInt8 := timesFrom 0 a b 8

def powerOf (b : UInt8) : Nat → UInt8
  | 0 => 1
  | exponent + 1 => times b (powerOf b exponent)

def rotate (b count : UInt8) : UInt8 := (b <<< count) ||| (b >>> (8 - count))

/-- The substitute of a byte: its inverse in the field, made affine. -/
def substituteOf (b : UInt8) : UInt8 :=
  let i := powerOf b 254
  i ^^^ rotate i 1 ^^^ rotate i 2 ^^^ rotate i 3 ^^^ rotate i 4 ^^^ 0x63

def substitutes : Array UInt8 :=
  ((List.range 256).map fun b => substituteOf (UInt8.ofNat b)).toArray

def substitute (b : UInt8) : UInt8 := substitutes.getD b.toNat 0

def xor (a b : Bytes) : Bytes := List.zipWith (· ^^^ ·) a b

/-- Where the bytes of a block come from when its rows are shifted. -/
def shifted : List Nat := [0, 5, 10, 15, 4, 9, 14, 3, 8, 13, 2, 7, 12, 1, 6, 11]

def shiftRows (block : Bytes) : Bytes := shifted.map fun i => block.getD i 0

def mixColumns : Bytes → Bytes
  | a :: b :: c :: d :: rest =>
    let all := a ^^^ b ^^^ c ^^^ d
    (a ^^^ all ^^^ double (a ^^^ b)) :: (b ^^^ all ^^^ double (b ^^^ c)) ::
      (c ^^^ all ^^^ double (c ^^^ d)) :: (d ^^^ all ^^^ double (d ^^^ a)) :: mixColumns rest
  | _ => []

/-- The next column of the expanded key: made of the column before and the one
eight before, where every fourth column is substituted and every eighth also
rotated and changed by a power of `x`. -/
def nextColumn (columns : Array Bytes) : Bytes :=
  let number := columns.size
  let before := columns.getD (number - 1) []
  let changed :=
    if number % 8 = 0 then
      xor ((before.drop 1 ++ before.take 1).map substitute)
        [powerOf 2 (number / 8 - 1), 0, 0, 0]
    else if number % 8 = 4 then before.map substitute
    else before
  xor (columns.getD (number - 8) []) changed

def expandFrom (columns : Array Bytes) : Nat → Array Bytes
  | 0 => columns
  | count + 1 => expandFrom (columns.push (nextColumn columns)) count

def piecesOf (size : Nat) (bytes : Bytes) : Nat → List Bytes
  | 0 => []
  | count + 1 =>
    if bytes.isEmpty then [] else bytes.take size :: piecesOf size (bytes.drop size) count

def expand (key : Bytes) : List Bytes :=
  let columns := expandFrom (piecesOf 4 key 8).toArray 52
  piecesOf 16 columns.toList.flatten 15

/-- A block after the rounds with some keys, of which the last one does not mix
columns. -/
def rounds (block : Bytes) : List Bytes → Bytes
  | [] => block
  | [key] => xor (shiftRows (block.map substitute)) key
  | key :: keys => rounds (xor (mixColumns (shiftRows (block.map substitute))) key) keys

def encryptBlock (keys : List Bytes) (block : Bytes) : Bytes :=
  match keys with
  | [] => block
  | first :: keys => rounds (xor block first) keys

end Ebms.Aes
