import Ebms.Keyring.InMemory
import Ebms.Keyring.Sealed

/-! # Rows of calls of a keyring

A program uses a keyring call by call.  Each call has a reply, and the keyring it leaves
behind is the one that the next call meets.  A call that fails leaves the keyring as it
was. -/

set_option autoImplicit false

namespace Ebms

inductive KeyringCall where
  | add (keyAlias : String) (pair : KeyPair) (certificate : Certificate) (password : String)
  | trust (certificate : Certificate)
  | load (keyAlias password : String)
  | trusted
  | aliases

inductive KeyringReply where
  | done (result : Except KeyringError Unit)
  | loaded (result : Except KeyringError KeyEntry)
  | trusted (certificates : List Certificate)
  | aliases (names : List String)

namespace InMemoryKeyring

def respond (suite : Suite) (ring : InMemoryKeyring) :
    KeyringCall → InMemoryKeyring × KeyringReply
  | .add keyAlias pair certificate password =>
    match ring.add suite keyAlias pair certificate password with
    | .ok changed => (changed, .done (.ok ()))
    | .error error => (ring, .done (.error error))
  | .trust certificate => (ring.trust certificate, .done (.ok ()))
  | .load keyAlias password => (ring, .loaded (ring.load keyAlias password))
  | .trusted => (ring, .trusted ring.trusted)
  | .aliases => (ring, .aliases ring.aliases)

def respondAll (suite : Suite) (ring : InMemoryKeyring) :
    List KeyringCall → InMemoryKeyring × List KeyringReply
  | [] => (ring, [])
  | call :: calls =>
    let (changed, reply) := ring.respond suite call
    let (last, replies) := changed.respondAll suite calls
    (last, reply :: replies)

end InMemoryKeyring

namespace SealedKeyring

/-- The keyring after a call for which `draw` was drawn, and the reply. -/
def respond (suite : Suite) (sealer : Sealer) (ring : SealedKeyring) (draw : SealDraw) :
    KeyringCall → SealedKeyring × KeyringReply
  | .add keyAlias pair certificate password =>
    match ring.add suite sealer draw keyAlias pair certificate password with
    | .ok changed => (changed, .done (.ok ()))
    | .error error => (ring, .done (.error error))
  | .trust certificate => (ring.trust certificate, .done (.ok ()))
  | .load keyAlias password => (ring, .loaded (ring.load sealer keyAlias password))
  | .trusted => (ring, .trusted ring.trusted)
  | .aliases => (ring, .aliases ring.aliases)

def respondAll (suite : Suite) (sealer : Sealer) (ring : SealedKeyring) :
    List (SealDraw × KeyringCall) → SealedKeyring × List KeyringReply
  | [] => (ring, [])
  | (draw, call) :: calls =>
    let (changed, reply) := ring.respond suite sealer draw call
    let (last, replies) := changed.respondAll suite sealer calls
    (last, reply :: replies)

end SealedKeyring

end Ebms
