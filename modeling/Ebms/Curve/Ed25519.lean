import Ebms.Curve.Edwards25519
import Ebms.Hash.Sha512

/-! # Ed25519

Keys and signatures of RFC 8032.  A signature is accepted when its scalar is
reduced and the commitment, recomputed from it, has exactly the bytes that the
signature gives. -/

set_option autoImplicit false

namespace Ebms.Ed25519

open Edwards25519

/-- The secret scalar of a seed: half of its digest, with the three lowest bits
cleared and the two highest set to 01. -/
def secretScalar (seed : Bytes) : Nat :=
  let low := Bytes.littleEndian ((Sha512.digest seed).take 32)
  Nat.pow 2 254 + low % Nat.pow 2 254 / 8 * 8

def publicKey (seed : Bytes) : Bytes := (base.times (secretScalar seed)).toBytes

def scalarOfDigest (message : Bytes) : Nat :=
  Bytes.littleEndian (Sha512.digest message) % order

def sign (seed message : Bytes) : Bytes :=
  let key := publicKey seed
  let nonce := scalarOfDigest ((Sha512.digest seed).drop 32 ++ message)
  let commitment := (base.times nonce).toBytes
  let challenge := scalarOfDigest (commitment ++ key ++ message)
  commitment ++ Bytes.ofNatLittleEndian 32 ((nonce + challenge * secretScalar seed) % order)

def verify (key message signature : Bytes) : Bool :=
  match Point.ofBytes? key with
  | none => false
  | some point =>
    let commitment := signature.take 32
    let scalar := Bytes.littleEndian (signature.drop 32)
    if signature.length = 64 ∧ scalar < order then
      let challenge := scalarOfDigest (commitment ++ key ++ message)
      (Point.combine scalar base challenge point.opposite).toBytes == commitment
    else false

end Ebms.Ed25519
