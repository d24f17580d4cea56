import Ebms.Keyring.Basic

/-! # Keyrings in memory

Entries are kept as they are, beside the password that unlocks them.  Adding an
entry under a used alias replaces the old one. -/

set_option autoImplicit false

namespace Ebms

structure HeldKey where
  keyAlias : String
  pair : KeyPair
  certificate : Certificate
  password : String

structure InMemoryKeyring where
  keys : List HeldKey
  trusted : List Certificate

namespace InMemoryKeyring

def empty : InMemoryKeyring := { keys := [], trusted := [] }

/-- Adds an entry; the certificate has to hold the public half of the key. -/
def add (suite : Suite) (ring : InMemoryKeyring) (keyAlias : String) (pair : KeyPair)
    (certificate : Certificate) (password : String) : Except KeyringError InMemoryKeyring :=
  if certificate.publicKey ≠ pair.publicKey suite then .error (.foreignCertificate keyAlias)
  else
    .ok { ring with
      keys :=
        { keyAlias, pair, certificate, password }
          :: ring.keys.filter (·.keyAlias != keyAlias) }

def trust (ring : InMemoryKeyring) (certificate : Certificate) : InMemoryKeyring :=
  { ring with trusted := ring.trusted ++ [certificate] }

def load (ring : InMemoryKeyring) (keyAlias password : String) : Except KeyringError KeyEntry :=
  match ring.keys.find? (·.keyAlias == keyAlias) with
  | none => .error (.missingEntry keyAlias)
  | some key =>
    if key.password = password then
      .ok { keyAlias, pair := key.pair, certificate := key.certificate }
    else .error .wrongPassword

def aliases (ring : InMemoryKeyring) : List String :=
  (ring.keys.map (·.keyAlias)).mergeSort fun a b => !decide (b < a)

def toKeyring (ring : InMemoryKeyring) : Keyring :=
  { entry := ring.load, aliases := ring.aliases, trusted := ring.trusted }

end InMemoryKeyring

end Ebms
