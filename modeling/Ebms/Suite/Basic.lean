import Ebms.Envelope.Basic

/-! # Cryptographic primitives as data

Signing and verification are the same whatever computes digests and signatures.
A suite is the record of those functions; statements about messages are about
every suite, or about suites with a stated property. -/

set_option autoImplicit false

namespace Ebms

/-- The functions that signing and verification are built on. -/
structure Suite where
  digest : DigestAlgorithm → Bytes → Bytes
  publicKey : Bytes → Bytes
  sign : Bytes → Bytes → Bytes
  /-- Whether under a public key a byte string has a given signature. -/
  verify : Bytes → Bytes → Bytes → Bool

/-- The functions that protect stored keys with a password. -/
structure Sealer where
  deriveKey : Bytes → Bytes → Bytes
  /-- The authenticated encryption under a key and a nonce. -/
  encrypt : Bytes → Bytes → Bytes → Bytes
  /-- The plain bytes under a key and a nonce, if the encrypted ones are genuine. -/
  decrypt : Bytes → Bytes → Bytes → Option Bytes

end Ebms
