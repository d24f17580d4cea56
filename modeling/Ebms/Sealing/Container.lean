import Ebms.Keyring.Basic

/-! # Sealed containers

A sealed container holds data under a password: a fixed mark, the version of the
layout, the salt of the key, the nonce of the encryption, and the encrypted data
with its tag.  What is wrong with a container is found in the order of its
layout; whether its password or its data is wrong cannot be told. -/

set_option autoImplicit false

namespace Ebms

def sealMark : Bytes := Bytes.ofText "AS4KS001"

def sealVersion : UInt8 := 1

def saltLength : Nat := 16

def nonceLength : Nat := 12

def sealHeaderLength : Nat := 8 + 1 + saltLength + nonceLength

def sealTagLength : Nat := 16

/-- What is drawn at random for one container. -/
structure SealDraw where
  salt : Bytes
  nonce : Bytes
  salt_length : salt.length = saltLength
  nonce_length : nonce.length = nonceLength

instance : Inhabited SealDraw :=
  ⟨⟨List.replicate saltLength 0, List.replicate nonceLength 0, by simp, by simp⟩⟩

namespace Sealer

def lock (s : Sealer) (draw : SealDraw) (password : String) (data : Bytes) : Bytes :=
  sealMark ++ sealVersion :: (draw.salt ++ draw.nonce
    ++ s.encrypt (s.deriveKey (Bytes.ofText password) draw.salt) draw.nonce data)

/-- What the layout of a container says against it, without its password. -/
def sealFault? (bytes : Bytes) : Option SealFault :=
  if bytes.length < 9 then some .tooShort
  else if bytes.take 8 ≠ sealMark then some .wrongMagic
  else if bytes.getD 8 0 ≠ sealVersion then some (.unsupportedVersion (bytes.getD 8 0))
  else if bytes.length < sealHeaderLength + sealTagLength then some .truncated
  else none

def unlock (s : Sealer) (password : String) (bytes : Bytes) : Except KeyringError Bytes :=
  match sealFault? bytes with
  | some fault => .error (.sealedData fault)
  | none =>
    let salt := (bytes.drop 9).take saltLength
    let nonce := (bytes.drop (9 + saltLength)).take nonceLength
    match s.decrypt (s.deriveKey (Bytes.ofText password) salt) nonce
        (bytes.drop sealHeaderLength) with
    | some data => .ok data
    | none => .error .wrongPassword

end Sealer

end Ebms
