import Ebms.Suite.Basic
import Ebms.Curve.Ed25519
import Ebms.Hash.Sha256

/-! # The standard suite

Digests of the SHA-2 family and Ed25519 signatures. -/

set_option autoImplicit false

namespace Ebms

def Suite.standard : Suite where
  digest
    | .sha256 => Sha256.digest
    | .sha512 => Sha512.digest
  publicKey := Ed25519.publicKey
  sign := Ed25519.sign
  verify := Ed25519.verify

end Ebms
