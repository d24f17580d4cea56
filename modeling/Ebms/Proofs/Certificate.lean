import Ebms.Certificate
import Ebms.Proofs.Text.Encoding

/-! # Certificates are read as they were encoded

A word is read back from its eight bytes and a byte string from its length and
its bytes, whatever follows them.  Field by field this gives the certificate
back from its encoding. -/

set_option autoImplicit false

namespace Ebms

namespace Bytes

theorem length_ofNatLittleEndian (count value : Nat) :
    (ofNatLittleEndian count value).length = count := by
  induction count generalizing value with
  | zero => rfl
  | succ count inductionHypothesis =>
      rw [ofNatLittleEndian, List.length_cons, inductionHypothesis]

theorem littleEndian_ofNatLittleEndian {count value : Nat} (bound : value < Nat.pow 256 count) :
    littleEndian (ofNatLittleEndian count value) = value := by
  induction count generalizing value with
  | zero =>
      have none : value < 1 := bound
      rw [ofNatLittleEndian, littleEndian]
      omega
  | succ count inductionHypothesis =>
      have rest : value / 256 < Nat.pow 256 count :=
        (Nat.div_lt_iff_lt_mul (by decide)).mpr bound
      rw [ofNatLittleEndian, littleEndian, inductionHypothesis rest, UInt8.toNat_ofNat']
      omega

end Bytes

namespace Certificate

def FitsLength (bytes : Bytes) : Prop := bytes.length < UInt64.size

instance (bytes : Bytes) : Decidable (FitsLength bytes) :=
  inferInstanceAs (Decidable (bytes.length < UInt64.size))

/-- A certificate whose encoding is read: the current version, a key of the right
length, and byte strings whose lengths can be stated. -/
structure IsEncodable (c : Certificate) : Prop where
  version : c.version = currentVersion
  publicKey : c.publicKey.length = keyLength
  subject : FitsLength (Bytes.ofText c.subject)
  issuer : FitsLength (Bytes.ofText c.issuer)
  signature : FitsLength c.signature

theorem word?_encodeWord (word : UInt64) (rest : Bytes) :
    word? (encodeWord word ++ rest) = some (word, rest) := by
  have length : (encodeWord word).length = 8 := Bytes.length_ofNatLittleEndian 8 word.toNat
  have value : Bytes.littleEndian (encodeWord word) = word.toNat :=
    Bytes.littleEndian_ofNatLittleEndian word.toNat_lt
  rw [word?, List.take_left' length, List.drop_left' length, if_pos length, value,
    UInt64.ofNat_toNat]

theorem sized?_encodeSized {bytes : Bytes} (fits : FitsLength bytes) (rest : Bytes) :
    sized? (encodeSized bytes ++ rest) = some (bytes, rest) := by
  have length : (UInt64.ofNat bytes.length).toNat = bytes.length :=
    UInt64.toNat_ofNat_of_lt' fits
  rw [sized?, encodeSized, List.append_assoc, word?_encodeWord]
  simp [length]

theorem sizedText?_encodeSized {text : String} (fits : FitsLength (Bytes.ofText text))
    (rest : Bytes) :
    sizedText? (encodeSized (Bytes.ofText text) ++ rest) = some (text, rest) := by
  rw [sizedText?, sized?_encodeSized fits]
  simp

/-- The byte strings of a certificate that its signature covers can state their
lengths; all that fit in memory can. -/
structure FitsSigned (c : Certificate) : Prop where
  subject : FitsLength (Bytes.ofText c.subject)
  issuer : FitsLength (Bytes.ofText c.issuer)
  publicKey : FitsLength c.publicKey

structure Fits (c : Certificate) : Prop extends c.FitsSigned where
  signature : FitsLength c.signature

theorem IsEncodable.fits {c : Certificate} (encodable : c.IsEncodable) : c.Fits where
  subject := encodable.subject
  issuer := encodable.issuer
  publicKey := by
    rw [FitsLength, encodable.publicKey]
    decide
  signature := encodable.signature

theorem fields?_toBytes {c : Certificate} (fits : c.Fits) (rest : Bytes) :
    fields? (c.toBytes ++ rest) = some c := by
  rw [toBytes, signedBytes, List.append_assoc, List.cons_append, fields?]
  simp only [List.append_assoc, word?_encodeWord, sizedText?_encodeSized fits.subject,
    sizedText?_encodeSized fits.issuer, sized?_encodeSized fits.publicKey,
    sized?_encodeSized fits.signature, Option.bind_eq_bind, Option.bind_some,
    Int64.toInt64_toUInt64]

/-- Reading undoes encoding. -/
theorem ofBytes_append {c : Certificate} (encodable : c.IsEncodable) (rest : Bytes) :
    ofBytes (c.toBytes ++ rest) = .ok c := by
  rw [ofBytes, fields?_toBytes encodable.fits]
  simp [encodable.version, encodable.publicKey]

theorem ofBytes_toBytes {c : Certificate} (encodable : c.IsEncodable) :
    ofBytes c.toBytes = .ok c := by
  have read := ofBytes_append encodable []
  rwa [List.append_nil] at read

end Certificate

end Ebms
