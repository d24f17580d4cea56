import Ebms.Datum
import Ebms.Files
import Ebms.Sealing.Container

/-! # Sealed keyrings

A keyring that is kept in a file: each secret seed is sealed under a password of
its own, and the document with all entries once more under that of the keyring.
Entries stand in the order in which they were added; one that replaces another
goes to the end. -/

set_option autoImplicit false

namespace Ebms

structure SealedKey where
  keyAlias : String
  certificate : Certificate
  sealedSeed : Bytes
  deriving DecidableEq, Repr, Inhabited

structure SealedKeyring where
  keys : List SealedKey
  trusted : List Certificate
  deriving DecidableEq, Repr, Inhabited

/-! ## Documents -/

def bytesToDatum (bytes : Bytes) : Datum := .list (bytes.map fun b => .integer b.toNat)

def bytesOfDatum? (d : Datum) : Option Bytes :=
  d.list? fun item => (item.below? 256).map UInt8.ofNat

namespace Certificate

def fieldNames : List String :=
  ["version", "serial_number", "subject", "issuer", "not_before", "not_after", "public_key",
    "signature"]

def toDatum (c : Certificate) : Datum :=
  .table [("version", .integer c.version.toNat), ("serial_number", .integer c.serial.toNat),
    ("subject", .text c.subject), ("issuer", .text c.issuer),
    ("not_before", .integer c.notBefore.toInt), ("not_after", .integer c.notAfter.toInt),
    ("public_key", bytesToDatum c.publicKey), ("signature", bytesToDatum c.signature)]

def secondsOfDatum? : Datum → Option Int64
  | .integer value =>
    if Datum.fitsInt64 value then some (Int64.ofInt value) else none
  | _ => none

def ofDatum? (d : Datum) : Option Certificate := do
  let fields ← d.fields? false fieldNames
  let version ← (← fields.lookup "version").below? UInt8.size
  let serial ← (← fields.lookup "serial_number").below? UInt64.size
  let subject ← (← fields.lookup "subject").text?
  let issuer ← (← fields.lookup "issuer").text?
  let notBefore ← secondsOfDatum? (← fields.lookup "not_before")
  let notAfter ← secondsOfDatum? (← fields.lookup "not_after")
  let publicKey ← bytesOfDatum? (← fields.lookup "public_key")
  let signature ← bytesOfDatum? (← fields.lookup "signature")
  some { version := UInt8.ofNat version, serial := UInt64.ofNat serial, subject, issuer,
         notBefore, notAfter, publicKey, signature }

end Certificate

namespace SealedKey

def toDatum (k : SealedKey) : Datum :=
  .table [("alias", .text k.keyAlias), ("certificate", k.certificate.toDatum),
    ("sealed_seed", bytesToDatum k.sealedSeed)]

def ofDatum? (d : Datum) : Option SealedKey := do
  let fields ← d.fields? false ["alias", "certificate", "sealed_seed"]
  let keyAlias ← (← fields.lookup "alias").text?
  let certificate ← Certificate.ofDatum? (← fields.lookup "certificate")
  let sealedSeed ← bytesOfDatum? (← fields.lookup "sealed_seed")
  some { keyAlias, certificate, sealedSeed }

end SealedKey

namespace SealedKeyring

def toDatum (ring : SealedKeyring) : Datum :=
  .table [("keys", .list (ring.keys.map SealedKey.toDatum)),
    ("trusted", .list (ring.trusted.map Certificate.toDatum))]

def ofDatum? (d : Datum) : Option SealedKeyring := do
  let fields ← d.fields? false ["keys", "trusted"]
  let keys ← (← fields.lookup "keys").list? SealedKey.ofDatum?
  let trusted ← (← fields.lookup "trusted").list? Certificate.ofDatum?
  some { keys, trusted }

def toBytes (ring : SealedKeyring) : Bytes := Bytes.ofText ring.toDatum.toJson.render

def ofBytes (bytes : Bytes) : Except KeyringError SealedKeyring :=
  match ((Bytes.text? bytes).bind Json.ofText?).bind fun json => ofDatum? (.ofJson json) with
  | some ring => .ok ring
  | none => .error .malformedDocument

/-! ## Entries -/

def empty : SealedKeyring := { keys := [], trusted := [] }

def add (suite : Suite) (sealer : Sealer) (draw : SealDraw) (ring : SealedKeyring)
    (keyAlias : String) (pair : KeyPair) (certificate : Certificate) (password : String) :
    Except KeyringError SealedKeyring :=
  if certificate.publicKey ≠ pair.publicKey suite then .error (.foreignCertificate keyAlias)
  else
    let entry : SealedKey :=
      { keyAlias, certificate, sealedSeed := sealer.lock draw password pair.seed }
    .ok { ring with keys := ring.keys.filter (·.keyAlias != keyAlias) ++ [entry] }

def trust (ring : SealedKeyring) (certificate : Certificate) : SealedKeyring :=
  { ring with trusted := ring.trusted ++ [certificate] }

/-- The entry under an alias, if the password opens its seed. -/
def load (sealer : Sealer) (ring : SealedKeyring) (keyAlias password : String) :
    Except KeyringError KeyEntry :=
  match ring.keys.find? (·.keyAlias == keyAlias) with
  | none => .error (.missingEntry keyAlias)
  | some key =>
    match sealer.unlock password key.sealedSeed with
    | .error error => .error error
    | .ok seed =>
      match KeyPair.ofSeed? seed with
      | some pair => .ok { keyAlias, pair, certificate := key.certificate }
      | none => .error (.wrongSeedLength seed.length)

def aliases (ring : SealedKeyring) : List String := ring.keys.map (·.keyAlias)

def toKeyring (sealer : Sealer) (ring : SealedKeyring) : Keyring :=
  { entry := ring.load sealer, aliases := ring.aliases, trusted := ring.trusted }

/-! ## Files -/

/-- The contents of the file that keeps the keyring under a password. -/
def toFile (sealer : Sealer) (draw : SealDraw) (ring : SealedKeyring) (password : String) :
    Bytes := sealer.lock draw password ring.toBytes

def ofFile (sealer : Sealer) (password : String) (contents : Bytes) :
    Except KeyringError SealedKeyring :=
  match sealer.unlock password contents with
  | .ok document => ofBytes document
  | .error error => .error error

def save (sealer : Sealer) (draw : SealDraw) (ring : SealedKeyring) (files : Files)
    (path password : String) : Except KeyringError Files :=
  match files.replace path (ring.toFile sealer draw password) with
  | .ok files => .ok files
  | .error fault => .error (.files fault.message)

def openFile (sealer : Sealer) (files : Files) (path password : String) :
    Except KeyringError SealedKeyring :=
  match files.read path with
  | .ok contents => ofFile sealer password contents
  | .error .missing => .error (.missingFile path)
  | .error fault => .error (.files fault.message)

end SealedKeyring

end Ebms
