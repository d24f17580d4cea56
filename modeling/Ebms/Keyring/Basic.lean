import Ebms.Certificate

/-! # Keyrings

A keyring holds key entries under aliases, each behind a password of its own,
and certificates that are trusted.  Signing and verification see no more of a
keyring than this. -/

set_option autoImplicit false

namespace Ebms

inductive SealFault where
  | tooShort
  | wrongMagic
  | unsupportedVersion (version : UInt8)
  | truncated
  deriving DecidableEq, Repr, Inhabited

def SealFault.message : SealFault → String
  | .tooShort => "File too short"
  | .wrongMagic => "Invalid magic header"
  | .unsupportedVersion version => "Unsupported version: " ++ Text.ofNat version.toNat
  | .truncated => "Truncated file"

inductive KeyringError where
  | missingEntry (keyAlias : String)
  | missingFile (path : String)
  | files (detail : String)
  | sealedData (fault : SealFault)
  /-- The opened document is not one of a keyring. -/
  | malformedDocument
  | foreignCertificate (keyAlias : String)
  | wrongSeedLength (length : Nat)
  | wrongPassword
  deriving DecidableEq, Repr, Inhabited

def KeyringError.notADocument : String := "not a keyring document"

def KeyringError.message : KeyringError → String
  | .missingEntry keyAlias => "Key not found: Key entry not found: " ++ keyAlias
  | .missingFile path => "Key not found: Keystore file not found: " ++ path
  | .files detail => "IO error: " ++ detail
  | .sealedData fault => "Decryption error: " ++ fault.message
  | .malformedDocument => "Serialization error: " ++ notADocument
  | .foreignCertificate keyAlias =>
    "Invalid key material: certificate for " ++ keyAlias ++ " does not match its keypair"
  | .wrongSeedLength length =>
    "Invalid key material: expected " ++ Text.ofNat keyLength ++ " byte seed, got "
      ++ Text.ofNat length
  | .wrongPassword => "Invalid password"

/-- A key pair with the certificate that publishes its public half. -/
structure KeyEntry where
  keyAlias : String
  pair : KeyPair
  certificate : Certificate

/-- What a store of keys offers. -/
structure Keyring where
  /-- The entry under an alias, unlocked with its password. -/
  entry : String → String → Except KeyringError KeyEntry
  aliases : List String
  trusted : List Certificate

end Ebms
