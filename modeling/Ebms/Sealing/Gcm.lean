import Ebms.Sealing.Aes

/-! # AES-256 in Galois/counter mode

The authenticated encryption of NIST SP 800-38D with nonces of twelve bytes and
nothing authenticated beside the message.  The message is changed by the
encryption of a counter; the tag is a polynomial in the encrypted bytes over the
field of `2 ^ 128` elements, changed in the same way. -/

set_option autoImplicit false

namespace Ebms.Gcm

def tagLength : Nat := 16

def numberOf (bytes : Bytes) : Nat := Bytes.littleEndian bytes.reverse

def blockOf (number : Nat) : Bytes := (Bytes.ofNatLittleEndian 16 number).reverse

/-- The product of two field elements, by the bits of the first one below
`bits`, the highest first; in an element the highest bit is the constant term. -/
def timesFrom (product a b : Nat) : Nat → Nat
  | 0 => product
  | bits + 1 =>
    timesFrom (if a.testBit bits then product ^^^ b else product) a
      (if b % 2 = 1 then (b / 2) ^^^ (0xE1 * 2 ^ 120) else b / 2) bits

def times (a b : Nat) : Nat := timesFrom 0 a b 128

def padded (bytes : Bytes) : Bytes :=
  bytes ++ List.replicate ((16 - bytes.length % 16) % 16) 0

/-- The value at `key` of the polynomial whose coefficients are the blocks. -/
def hash (key : Nat) (bytes : Bytes) : Nat :=
  (Aes.piecesOf 16 bytes bytes.length).foldl (fun sum block => times (sum ^^^ numberOf block) key) 0

def counter (nonce : Bytes) (number : Nat) : Bytes :=
  nonce ++ (Bytes.ofNatLittleEndian 4 number).reverse

/-- The bytes changed by the encryption of a counter.  Doing it twice undoes
it. -/
def mask (keys : List Bytes) (nonce bytes : Bytes) : Bytes :=
  let blocks := Aes.piecesOf 16 bytes bytes.length
  (blocks.zipIdx 2).flatMap fun (block, number) =>
    Aes.xor block (Aes.encryptBlock keys (counter nonce number))

def tag (keys : List Bytes) (nonce bytes : Bytes) : Bytes :=
  let key := numberOf (Aes.encryptBlock keys (List.replicate 16 0))
  let sum := hash key (padded bytes ++ blockOf (8 * bytes.length))
  Aes.xor (blockOf sum) (Aes.encryptBlock keys (counter nonce 1))

def encrypt (key nonce plain : Bytes) : Bytes :=
  let keys := Aes.expand key
  let hidden := mask keys nonce plain
  hidden ++ tag keys nonce hidden

def decrypt (key nonce box : Bytes) : Option Bytes :=
  if box.length < tagLength then none
  else
    let keys := Aes.expand key
    let hidden := box.take (box.length - tagLength)
    if tag keys nonce hidden = box.drop (box.length - tagLength) then
      some (mask keys nonce hidden)
    else none

end Ebms.Gcm
