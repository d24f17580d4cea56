import Ebms.Sealing.Container

/-! # Opening a container piece by piece

A container is taken apart at fixed places, and a key is made of the password only once
the container has turned out to have its mark, its version and its least length.  A piece
that reaches beyond the end of its container cannot be taken: there is no result at all
then, not even an error.  Making a key is the costly step, and every one is recorded. -/

set_option autoImplicit false

namespace Ebms

structure MadeKey where
  password : Bytes
  salt : Bytes
  deriving DecidableEq, Repr, Inhabited

/-- A computation that records the keys that it makes.  It fails, or breaks off without a
result. -/
abbrev Unsealing (α : Type) := ExceptT KeyringError (StateT (List MadeKey) Option) α

namespace Unsealing

/-- What comes of the computation when some keys were made before, and all keys made by its
end. -/
def runFrom {α : Type} (x : Unsealing α) (made : List MadeKey) :
    Option (Except KeyringError α × List MadeKey) :=
  x.run.run made

def slice (bytes : Bytes) (start stop : Nat) : Unsealing Bytes :=
  liftM (bytes.slice? start stop)

def byteAt (bytes : Bytes) (place : Nat) : Unsealing UInt8 :=
  liftM bytes[place]?

def makeKey (s : Sealer) (password : String) (salt : Bytes) : Unsealing Bytes := do
  modify (· ++ [{ password := Bytes.ofText password, salt }])
  pure (s.deriveKey (Bytes.ofText password) salt)

end Unsealing

namespace Sealer

open Unsealing in
def takeApart (s : Sealer) (password : String) (bytes : Bytes) : Unsealing Bytes := do
  if bytes.length < 9 then throw (.sealedData .tooShort)
  else if (← slice bytes 0 8) ≠ sealMark then throw (.sealedData .wrongMagic)
  else
    let version ← byteAt bytes 8
    if version ≠ sealVersion then throw (.sealedData (.unsupportedVersion version))
    else if bytes.length < sealHeaderLength + sealTagLength then throw (.sealedData .truncated)
    else
      let salt ← slice bytes 9 (9 + saltLength)
      let nonce ← slice bytes (9 + saltLength) sealHeaderLength
      let encrypted ← slice bytes sealHeaderLength bytes.length
      let key ← makeKey s password salt
      match s.decrypt key nonce encrypted with
      | some data => pure data
      | none => throw .wrongPassword

end Sealer

end Ebms
