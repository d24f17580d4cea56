import Ebms.Sealing.Argon2
import Ebms.Sealing.Gcm
import Ebms.Suite.Basic

/-! # The standard sealer

Keys made from passwords by Argon2id with nineteen mebibytes of memory and two
passes; encryption by AES-256 in Galois/counter mode. -/

set_option autoImplicit false

namespace Ebms

def Argon2.Cost.standard : Argon2.Cost := { blocks := 19 * 1024, passes := 2, keyLength := 32 }

def Sealer.standard : Sealer where
  deriveKey := Argon2.derive .standard
  encrypt := Gcm.encrypt
  decrypt := Gcm.decrypt

end Ebms
