import Ebms.Proofs.Certificate

/-! # A certificate has one encoding

Each reader takes exactly what its writer puts down: a word its eight bytes, a byte
string its length and that many bytes.  So bytes that are read as a certificate begin
with its encoding, nothing shorter is read at all, and the signed bytes fix every field
that they were made of. -/

set_option autoImplicit false

namespace Ebms

namespace Bytes

theorem littleEndian_lt (bytes : Bytes) : littleEndian bytes < Nat.pow 256 bytes.length := by
  induction bytes with
  | nil => decide
  | cons byte rest inductionHypothesis =>
      have small := byte.toNat_lt
      have power : Nat.pow 256 (byte :: rest).length = Nat.pow 256 rest.length * 256 := rfl
      rw [littleEndian, power]
      omega

theorem ofNatLittleEndian_littleEndian (bytes : Bytes) :
    ofNatLittleEndian bytes.length (littleEndian bytes) = bytes := by
  induction bytes with
  | nil => rfl
  | cons byte rest inductionHypothesis =>
      have small := byte.toNat_lt
      have low : (byte.toNat + 256 * littleEndian rest) % 256 = byte.toNat := by omega
      have high : (byte.toNat + 256 * littleEndian rest) / 256 = littleEndian rest := by omega
      rw [littleEndian, List.length_cons, ofNatLittleEndian, low, high, inductionHypothesis,
        UInt8.ofNat_toNat]

end Bytes

namespace Certificate

variable {bytes rest content : Bytes} {text : String} {word : UInt64} {c : Certificate}

/-! ## What the readers take -/

theorem word?_eq_some_iff : word? bytes = some (word, rest) ↔ bytes = encodeWord word ++ rest := by
  constructor
  · intro read
    unfold word? at read
    split at read
    case isTrue eight =>
      cases read
      have bound : Bytes.littleEndian (bytes.take 8) < UInt64.size := by
        have bound := Bytes.littleEndian_lt (bytes.take 8)
        rwa [eight] at bound
      have exact := Bytes.ofNatLittleEndian_littleEndian (bytes.take 8)
      rw [eight] at exact
      rw [encodeWord, UInt64.toNat_ofNat_of_lt' bound, exact, List.take_append_drop]
    case isFalse => cases read
  · rintro rfl
    exact word?_encodeWord word rest

theorem sized?_eq_some_iff :
    sized? bytes = some (content, rest) ↔
      FitsLength content ∧ bytes = encodeSized content ++ rest := by
  constructor
  · intro read
    obtain ⟨⟨length, after⟩, measured, taken⟩ := Option.bind_eq_some_iff.mp read
    obtain rfl := word?_eq_some_iff.mp measured
    simp only at taken
    split at taken
    case isTrue enough =>
      cases taken
      refine ⟨?_, ?_⟩
      · rw [FitsLength, enough]
        exact length.toNat_lt
      · rw [encodeSized, enough, UInt64.ofNat_toNat, List.append_assoc, List.take_append_drop]
    case isFalse => cases taken
  · rintro ⟨fits, rfl⟩
    exact sized?_encodeSized fits rest

theorem sizedText?_eq_some_iff :
    sizedText? bytes = some (text, rest) ↔
      FitsLength (Bytes.ofText text) ∧ bytes = encodeSized (Bytes.ofText text) ++ rest := by
  constructor
  · intro read
    obtain ⟨⟨content, after⟩, taken, read⟩ := Option.bind_eq_some_iff.mp read
    obtain ⟨found, spelled, same⟩ := Option.bind_eq_some_iff.mp read
    cases same
    obtain rfl := Bytes.ofText_of_text? spelled
    exact sized?_eq_some_iff.mp taken
  · rintro ⟨fits, rfl⟩
    exact sizedText?_encodeSized fits rest

theorem fields?_eq_some_iff : fields? bytes = some c ↔ c.Fits ∧ c.toBytes <+: bytes := by
  constructor
  · intro read
    cases bytes with
    | nil => cases read
    | cons version bytes =>
        obtain ⟨⟨serial, afterSerial⟩, serialRead, read⟩ := Option.bind_eq_some_iff.mp read
        obtain ⟨⟨subject, afterSubject⟩, subjectRead, read⟩ := Option.bind_eq_some_iff.mp read
        obtain ⟨⟨issuer, afterIssuer⟩, issuerRead, read⟩ := Option.bind_eq_some_iff.mp read
        obtain ⟨⟨notBefore, afterStart⟩, startRead, read⟩ := Option.bind_eq_some_iff.mp read
        obtain ⟨⟨notAfter, afterEnd⟩, endRead, read⟩ := Option.bind_eq_some_iff.mp read
        obtain ⟨⟨publicKey, afterKey⟩, keyRead, read⟩ := Option.bind_eq_some_iff.mp read
        obtain ⟨⟨signature, tail⟩, signatureRead, same⟩ := Option.bind_eq_some_iff.mp read
        cases same
        obtain ⟨signatureFits, rfl⟩ := sized?_eq_some_iff.mp signatureRead
        obtain ⟨keyFits, rfl⟩ := sized?_eq_some_iff.mp keyRead
        obtain rfl := word?_eq_some_iff.mp endRead
        obtain rfl := word?_eq_some_iff.mp startRead
        obtain ⟨issuerFits, rfl⟩ := sizedText?_eq_some_iff.mp issuerRead
        obtain ⟨subjectFits, rfl⟩ := sizedText?_eq_some_iff.mp subjectRead
        obtain rfl := word?_eq_some_iff.mp serialRead
        refine ⟨⟨⟨subjectFits, issuerFits, keyFits⟩, signatureFits⟩, tail, ?_⟩
        simp [toBytes, signedBytes]
  · rintro ⟨fits, rest, rfl⟩
    exact fields?_toBytes fits rest

theorem ofBytes_eq_ok_iff : ofBytes bytes = .ok c ↔ c.IsEncodable ∧ c.toBytes <+: bytes := by
  constructor
  · intro read
    unfold ofBytes at read
    split at read
    · cases read
    · rename_i found
      split at read
      · cases read
      · split at read
        · cases read
        · rename_i version length
          cases read
          obtain ⟨fits, starts⟩ := fields?_eq_some_iff.mp found
          exact ⟨⟨Decidable.not_not.mp version, Decidable.not_not.mp length, fits.subject,
            fits.issuer, fits.signature⟩, starts⟩
  · rintro ⟨encodable, rest, rfl⟩
    exact ofBytes_append encodable rest

/-! ## What follows for encodings -/

/-- A certificate that is read from a part of an encoding is the one encoded. -/
theorem eq_of_toBytes_prefix {other : Certificate} (fits : c.Fits) (otherFits : other.Fits)
    (starts : other.toBytes <+: c.toBytes) : other = c := by
  have read : fields? c.toBytes = some c := fields?_eq_some_iff.mpr ⟨fits, List.prefix_rfl⟩
  rw [fields?_eq_some_iff.mpr ⟨otherFits, starts⟩] at read
  exact Option.some.inj read

theorem ofBytes_of_truncated (fits : c.Fits) (starts : bytes <+: c.toBytes)
    (truncated : bytes ≠ c.toBytes) : ofBytes bytes = .error (.encoding .unreadable) := by
  have unread : fields? bytes = none := by
    rw [Option.eq_none_iff_forall_ne_some]
    intro other read
    obtain ⟨otherFits, inside⟩ := fields?_eq_some_iff.mp read
    have same := eq_of_toBytes_prefix fits otherFits (inside.trans starts)
    rw [same] at inside
    exact truncated (starts.eq_of_length_le inside.length_le)
  rw [ofBytes, unread]

/-- Signed bytes become an encoding with any signature, here the empty one. -/
theorem eq_of_signedBytes_eq {other : Certificate} (fits : c.FitsSigned)
    (otherFits : other.FitsSigned) (same : c.signedBytes = other.signedBytes) :
    { c with signature := [] } = { other with signature := [] } := by
  have unsigned : FitsLength [] := by decide
  refine eq_of_toBytes_prefix ⟨⟨otherFits.subject, otherFits.issuer, otherFits.publicKey⟩,
    unsigned⟩ ⟨⟨fits.subject, fits.issuer, fits.publicKey⟩, unsigned⟩ ?_
  have encodings : ({ c with signature := [] } : Certificate).toBytes =
      ({ other with signature := [] } : Certificate).toBytes :=
    congrArg (· ++ encodeSized []) same
  rewrite [encodings]
  exact List.prefix_rfl

/-- The encoding of a certificate is read back from the start of whatever it stands in,
it is what everything read begins with, no part of it is read, and the signed bytes fix
the fields. -/
theorem toBytes_isCanonical :
    (∀ (c : Certificate) (rest : Bytes), c.IsEncodable → ofBytes (c.toBytes ++ rest) = .ok c) ∧
      (∀ (bytes : Bytes) (c : Certificate), ofBytes bytes = .ok c → c.toBytes <+: bytes) ∧
      (∀ (c : Certificate) (bytes : Bytes), c.IsEncodable → bytes <+: c.toBytes →
        bytes ≠ c.toBytes → ofBytes bytes = .error (.encoding .unreadable)) ∧
      ∀ first second : Certificate, first.FitsSigned → second.FitsSigned →
        first.signedBytes = second.signedBytes →
        first.version = second.version ∧ first.serial = second.serial ∧
          first.subject = second.subject ∧ first.issuer = second.issuer ∧
          first.notBefore = second.notBefore ∧ first.notAfter = second.notAfter ∧
          first.publicKey = second.publicKey := by
  refine ⟨?_, ?_, ?_, ?_⟩
  · intro c rest encodable
    exact ofBytes_append encodable rest
  · intro bytes c read
    exact (ofBytes_eq_ok_iff.mp read).2
  · intro c bytes encodable starts truncated
    exact ofBytes_of_truncated encodable.fits starts truncated
  · intro first second firstFits secondFits same
    have fields := eq_of_signedBytes_eq firstFits secondFits same
    simp only [mk.injEq, and_true] at fields
    exact fields

/-- A certificate with an empty issuer, a subject beyond ASCII, and a window that begins
before 1970. -/
def sampleForeign : Certificate :=
  { version := currentVersion, serial := 7, subject := "CN=Bäcker", issuer := "",
    notBefore := -1, notAfter := 4102444800, publicKey := List.replicate keyLength 9,
    signature := [1, 2] }

/-- It is read in front of another byte, and no longer without its last one; with another
signature it has the same signed bytes. -/
theorem toBytes_isCanonical_sampleForeign :
    sampleForeign.IsEncodable ∧
      ofBytes (sampleForeign.toBytes ++ [0]) = .ok sampleForeign ∧
      ofBytes sampleForeign.toBytes.dropLast = .error (.encoding .unreadable) ∧
      ({ sampleForeign with signature := [] } : Certificate).signedBytes =
        sampleForeign.signedBytes ∧
      ({ sampleForeign with signature := [] } : Certificate).subject = sampleForeign.subject := by
  have encodable : sampleForeign.IsEncodable := by constructor <;> decide
  have signed := encodable.fits.toFitsSigned
  have unsigned : ({ sampleForeign with signature := [] } : Certificate).FitsSigned :=
    ⟨signed.subject, signed.issuer, signed.publicKey⟩
  obtain ⟨appended, -, truncated, fixed⟩ := toBytes_isCanonical
  refine ⟨encodable, appended _ _ encodable, ?_, rfl, (fixed _ _ unsigned signed rfl).2.2.1⟩
  exact truncated _ _ encodable (List.dropLast_prefix _) (by decide)

end Certificate

end Ebms
