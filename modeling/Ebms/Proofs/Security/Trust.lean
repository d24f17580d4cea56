import Ebms.Proofs.Security.Transit

/-! # Which certificates are trusted

A certificate is vouched for when it is pinned or was issued by the holder of a pinned
one.  What is compared with a pinned certificate is its issuer, its serial number, its
subject and its key: not its window of validity, and not its signature.  So a
certificate that a message brings along is accepted, too, when it restates a pinned one
with another window, and then its own window is the one that is checked. -/

set_option autoImplicit false

namespace Ebms

namespace Certificate

/-- The certificate is pinned, or the holder of a pinned one signed it. -/
def IsVouchedFor (suite : Suite) (trusted : List Certificate) (c : Certificate) : Prop :=
  c ∈ trusted ∨ ∃ anchor ∈ trusted, c.issuer = anchor.subject ∧
    suite.verify anchor.publicKey c.signedBytes c.signature = true

/-- Another certificate of the same name, number and key. -/
structure Restates (c anchor : Certificate) : Prop where
  issuer : c.issuer = anchor.issuer
  serial : c.serial = anchor.serial
  subject : c.subject = anchor.subject
  publicKey : c.publicKey = anchor.publicKey
  differs : c ≠ anchor

variable {suite : Suite} {trusted : List Certificate} {c anchor : Certificate}

theorem sameIdentity_iff : anchor.sameIdentity c = true ↔ c = anchor ∨ c.Restates anchor := by
  simp only [sameIdentity, hasIssuerSerial, Bool.and_eq_true, beq_iff_eq]
  constructor
  · rintro ⟨⟨⟨issuer, serial⟩, subject⟩, publicKey⟩
    by_cases same : c = anchor
    · exact .inl same
    · exact .inr ⟨issuer.symm, serial.symm, subject.symm, publicKey.symm, same⟩
  · rintro (rfl | restates)
    · exact ⟨⟨⟨rfl, rfl⟩, rfl⟩, rfl⟩
    · exact ⟨⟨⟨restates.issuer.symm, restates.serial.symm⟩, restates.subject.symm⟩,
        restates.publicKey.symm⟩

theorem isTrusted_iff :
    isTrusted suite trusted c = true ↔
      c.IsVouchedFor suite trusted ∨ ∃ anchor ∈ trusted, c.Restates anchor := by
  rw [isTrusted, List.any_eq_true]
  constructor
  · rintro ⟨anchor, pinned, vouches⟩
    rcases vouchesFor_iff.mp vouches with same | ⟨issuer, genuine⟩
    · rcases sameIdentity_iff.mp same with rfl | restates
      · exact .inl (.inl pinned)
      · exact .inr ⟨anchor, pinned, restates⟩
    · exact .inl (.inr ⟨anchor, pinned, issuer.symm, genuine⟩)
  · rintro ((pinned | ⟨anchor, pinned, issuer, genuine⟩) | ⟨anchor, pinned, restates⟩)
    · exact ⟨c, pinned, vouchesFor_iff.mpr (.inl c.sameIdentity_self)⟩
    · exact ⟨anchor, pinned, vouchesFor_iff.mpr (.inr ⟨issuer.symm, genuine⟩)⟩
    · exact ⟨anchor, pinned, vouchesFor_iff.mpr (.inl (sameIdentity_iff.mpr (.inr restates)))⟩

end Certificate

theorem mem_of_resolveCertificate {suite : Suite} {trusted : List Certificate}
    {token : Option SecurityToken} {key : KeyReference} {c : Certificate}
    (resolved : resolveCertificate suite trusted token key = .ok c)
    (indirect : key.kind ≠ .directReference) : c ∈ trusted := by
  cases key with
  | direct uri => exact absurd rfl indirect
  | issuerSerial issuer serial =>
      rw [resolveCertificate] at resolved
      split at resolved
      case h_1 found first =>
        cases resolved
        exact List.mem_of_find?_eq_some first
      case h_2 => cases resolved
  | keyIdentifier value =>
      rw [resolveCertificate] at resolved
      split at resolved
      case h_1 found first =>
        cases resolved
        exact List.mem_of_find?_eq_some first
      case h_2 => cases resolved

namespace Envelope

variable {suite : Suite} {credentials : Credentials} {now : Instant} {e : Envelope}
  {verified : Verified}

/-- The certificate of an accepted message is vouched for, or the message brought it
along and it restates a pinned one. -/
theorem isVouchedFor_or_restates (accepted : e.verify suite credentials now = .ok verified) :
    verified.certificate.IsVouchedFor suite credentials.trusted ∨
      verified.reference = .directReference ∧
        ∃ anchor ∈ credentials.trusted, verified.certificate.Restates anchor := by
  obtain ⟨header, signature, certificate, isAccepted, rfl⟩ := verify_eq_ok.mp accepted
  by_cases direct : signature.key.kind = .directReference
  · rcases Certificate.isTrusted_iff.mp isAccepted.trusted with vouched | restated
    · exact .inl vouched
    · exact .inr ⟨direct, restated⟩
  · exact .inl (.inl (mem_of_resolveCertificate isAccepted.resolved direct))

/-- The certificate of the verified order is vouched for. -/
theorem isVouchedFor_or_restates_sampleSigned :
    (∃ verified, sampleSigned.verify (Suite.standardFor samplePair)
        (sampleCredentials .issuerSerial) sampleArrival = .ok verified) ∧
      sampleCertificate.IsVouchedFor (Suite.standardFor samplePair)
        (sampleCredentials .issuerSerial).trusted := by
  have accepted := verify_like_sampleSigned (e := sampleSigned) rfl
    (sampleOrder_hasDistinctIds.congr rfl rfl rfl) (by decide)
  refine ⟨⟨_, accepted⟩, ?_⟩
  rcases isVouchedFor_or_restates accepted with vouched | ⟨direct, -⟩
  · exact vouched
  · cases direct

/-! ## A certificate with another window -/

/-- The sample certificate, its end put off by a century and its signature struck out. -/
def sampleProlonged : Certificate :=
  { sampleCertificate with notAfter := 4102444800, signature := [] }

def prolongedEntry : KeyEntry :=
  { sampleEntry with certificate := sampleProlonged }

def sampleLater : Instant := .ofSeconds 1800000000

def sampleOverdue : Envelope :=
  { sampleOrder with
    security :=
      some (sampleOrder.securityWith (Suite.standardFor samplePair)
        (sampleCredentials .directReference) prolongedEntry
        (sampleOrder.newTimestamp sampleLater (Span.ofSeconds 300))) }

theorem prolongedEntry_canSign : prolongedEntry.CanSign (Suite.standardFor samplePair) where
  encodable :=
    { sampleCertificate_isEncodable with
      signature := by
        unfold Certificate.FitsLength
        decide }
  publicHalf := sampleEntry_canSign.publicHalf
  accepts := sampleEntry_canSign.accepts

theorem sampleProlonged_restates : sampleProlonged.Restates sampleCertificate where
  issuer := rfl
  serial := rfl
  subject := rfl
  publicKey := rfl
  differs := by
    intro same
    have window := congrArg Certificate.notAfter same
    revert window
    decide

theorem verify_sampleOverdue :
    sampleOverdue.verify (Suite.standardFor samplePair) (sampleCredentials .directReference)
        sampleLater =
      .ok { certificate := sampleProlonged, reference := .directReference,
            hasTimestamp := true } := by
  have secured : sampleOverdue.security =
      some (sampleOverdue.securityWith (Suite.standardFor samplePair)
        (sampleCredentials .directReference) prolongedEntry
        (sampleOrder.newTimestamp sampleLater (Span.ofSeconds 300))) := rfl
  have recognized : (sampleCredentials .directReference).Recognizes (Suite.standardFor samplePair)
      .directReference sampleProlonged :=
    ⟨sampleCertificate, List.mem_singleton_self _,
      .inl (Certificate.sameIdentity_iff.mpr (.inr sampleProlonged_restates))⟩
  have timestampId : (sampleOrder.newTimestamp sampleLater (Span.ofSeconds 300)).id =
      "TS-" ++ sampleOverdue.idSuffix := rfl
  have current : ∀ expires ∈ (sampleOrder.newTimestamp sampleLater (Span.ofSeconds 300)).expires,
      expires.before sampleLater = false := by decide
  exact verify_securityWith secured (sampleOrder_hasDistinctIds.congr rfl rfl rfl) timestampId
    prolongedEntry_canSign rfl recognized (by decide) (by decide) current

theorem verify_standardFor_nil (pair : KeyPair) (key message : Bytes) :
    (Suite.standardFor pair).verify key message [] = false := by
  have invalid : Ed25519.verify key message [] = false := by
    unfold Ed25519.verify
    split
    · rfl
    · rw [if_neg (by simp)]
  have foreign : pair.sign Suite.standard message ≠ [] := by
    intro same
    have length : (pair.sign Suite.standard message).length = 64 := Ed25519.length_sign _ _
    rw [same] at length
    cases length
  have standard : Suite.standard.verify key message [] = false := invalid
  simp [Suite.standardFor, standard, foreign]

/-- The message is accepted after the only pinned certificate has expired, for a
certificate that nobody signed. -/
theorem not_isVouchedFor_sampleOverdue :
    (∃ verified, sampleOverdue.verify (Suite.standardFor samplePair)
        (sampleCredentials .directReference) sampleLater = .ok verified ∧
        verified.certificate = sampleProlonged) ∧
      ¬ sampleProlonged.IsVouchedFor (Suite.standardFor samplePair)
        (sampleCredentials .directReference).trusted := by
  refine ⟨⟨_, verify_sampleOverdue, rfl⟩, ?_⟩
  rintro (pinned | ⟨anchor, pinned, -, genuine⟩)
  · exact sampleProlonged_restates.differs (List.mem_singleton.mp pinned)
  · exact Bool.false_ne_true ((verify_standardFor_nil _ _ _).symm.trans genuine)

end Envelope

end Ebms
