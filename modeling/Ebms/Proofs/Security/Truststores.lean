import Ebms.Proofs.Security.Trust

/-! # More trusted certificates

A certificate stays trusted when others are trusted as well.  A message is still not
accepted by every larger list of trusted certificates: a reference to a key names the first
certificate that fits it, and what is checked of the message from then on is checked with
that one alone.  So what counts is which certificate comes first. -/

set_option autoImplicit false

namespace Ebms

def Credentials.trusting (credentials : Credentials) (trusted : List Certificate) : Credentials :=
  { credentials with trusted }

def Envelope.signer? (suite : Suite) (trusted : List Certificate) (e : Envelope) :
    Option Certificate := do
  let header ← e.security
  let signature ← header.signature
  (resolveCertificate suite trusted header.token signature.key).toOption

def Certificate.IsCurrent (c : Certificate) (now : Instant) : Prop :=
  c.notBefore.toInt ≤ now.seconds ∧ now.seconds ≤ c.notAfter.toInt

theorem checkWindow_eq_ok_iff {c : Certificate} {now : Instant} :
    checkWindow c now = .ok () ↔ c.IsCurrent now := by
  constructor
  · intro checked
    unfold checkWindow Certificate.checkValidity at checked
    by_cases early : now.seconds < c.notBefore.toInt
    · simp [early] at checked
    · by_cases late : c.notAfter.toInt < now.seconds
      · simp [early, late] at checked
      · exact ⟨Int.not_lt.mp early, Int.not_lt.mp late⟩
  · rintro ⟨begun, notOver⟩
    exact checkWindow_eq_ok begun notOver

/-- Whether a reference to a key fits a certificate.  A direct reference fits none, since
it points into the message. -/
def KeyReference.fits (suite : Suite) : KeyReference → Certificate → Bool
  | .direct _, _ => false
  | .issuerSerial issuer serial, c => c.hasIssuerSerial issuer serial
  | .keyIdentifier value, c => c.keyIdentifier suite == value

/-! ## What a larger list changes -/

section Larger

variable {suite : Suite} {trusted more : List Certificate} {token : Option SecurityToken}
  {key : KeyReference} {c found : Certificate}

theorem isTrusted_of_subset (larger : trusted ⊆ more) (vouched : isTrusted suite trusted c = true) :
    isTrusted suite more c = true := by
  rw [isTrusted, List.any_eq_true] at vouched ⊢
  obtain ⟨anchor, pinned, vouches⟩ := vouched
  exact ⟨anchor, larger pinned, vouches⟩

theorem resolveCertificate_of_direct (direct : key.kind = .directReference) :
    resolveCertificate suite more token key = resolveCertificate suite trusted token key := by
  cases key with
  | direct uri => rfl
  | issuerSerial issuer serial => cases direct
  | keyIdentifier value => cases direct

/-- Any other reference names the first trusted certificate that it fits. -/
theorem resolveCertificate_eq_ok_iff (indirect : key.kind ≠ .directReference) :
    resolveCertificate suite trusted token key = .ok c ↔
      trusted.find? (key.fits suite) = some c := by
  cases key with
  | direct uri => exact absurd rfl indirect
  | issuerSerial issuer serial =>
      have fits : KeyReference.fits suite (.issuerSerial issuer serial) =
          fun c => c.hasIssuerSerial issuer serial := rfl
      rw [resolveCertificate, fits]
      cases trusted.find? fun c => c.hasIssuerSerial issuer serial <;> simp
  | keyIdentifier value =>
      have fits : KeyReference.fits suite (.keyIdentifier value) =
          fun c => c.keyIdentifier suite == value := rfl
      rw [resolveCertificate, fits]
      cases trusted.find? fun c => c.keyIdentifier suite == value <;> simp

theorem exists_resolveCertificate_of_subset (larger : trusted ⊆ more)
    (resolved : resolveCertificate suite trusted token key = .ok c) :
    ∃ found, resolveCertificate suite more token key = .ok found := by
  by_cases direct : key.kind = .directReference
  · exact ⟨c, (resolveCertificate_of_direct direct).trans resolved⟩
  · have first := (resolveCertificate_eq_ok_iff direct).mp resolved
    have fits : (more.find? (key.fits suite)).isSome := by
      rw [List.find?_isSome]
      exact ⟨c, larger (List.mem_of_find?_eq_some first), List.find?_some first⟩
    obtain ⟨found, same⟩ := Option.isSome_iff_exists.mp fits
    exact ⟨found, (resolveCertificate_eq_ok_iff direct).mpr same⟩

theorem resolveCertificate_append (resolved : resolveCertificate suite trusted token key = .ok c)
    (added : List Certificate) :
    resolveCertificate suite (trusted ++ added) token key = .ok c := by
  by_cases direct : key.kind = .directReference
  · exact (resolveCertificate_of_direct direct).trans resolved
  · rw [resolveCertificate_eq_ok_iff direct] at resolved ⊢
    rw [List.find?_append, resolved, Option.some_or]

theorem isTrusted_of_resolveCertificate (larger : trusted ⊆ more)
    (resolved : resolveCertificate suite trusted token key = .ok c)
    (vouched : isTrusted suite trusted c = true)
    (named : resolveCertificate suite more token key = .ok found) :
    isTrusted suite more found = true := by
  by_cases direct : key.kind = .directReference
  · rw [resolveCertificate_of_direct direct, resolved] at named
    cases named
    exact isTrusted_of_subset larger vouched
  · exact isTrusted_of_mem (mem_of_resolveCertificate named direct)

end Larger

namespace Envelope

variable {suite : Suite} {credentials : Credentials} {now : Instant} {e : Envelope}
  {header : SecurityHeader} {signature : Signature} {certificate signer : Certificate}
  {trusted : List Certificate} {verified : Verified}

theorem IsAccepted.signer?_eq
    (accepted : e.IsAccepted suite credentials now header signature certificate)
    (named : resolveCertificate suite trusted header.token signature.key = .ok signer) :
    e.signer? suite trusted = some signer := by
  simp [signer?, accepted.hasHeader, accepted.hasSignature, named, Except.toOption]

/-- Of an accepted message everything but the signer is checked the same whoever is
trusted. -/
theorem IsAccepted.trusting
    (accepted : e.IsAccepted suite credentials now header signature certificate)
    (larger : credentials.trusted ⊆ trusted)
    (named : resolveCertificate suite trusted header.token signature.key = .ok signer)
    (current : signer.IsCurrent now)
    (genuine : suite.verify signer.publicKey signature.signedInfo.bytes signature.value = true) :
    e.IsAccepted suite (credentials.trusting trusted) now header signature signer :=
  { accepted with
    resolved := named
    trusted := isTrusted_of_resolveCertificate larger accepted.resolved accepted.trusted named
    window := checkWindow_eq_ok_iff.mpr current
    genuine }

/-- An accepted message is accepted with a larger list of trusted certificates exactly when
the certificate that its signature names there is current and has the key of the signature.
This is so when it is the certificate of before: always for a direct reference, and for
every reference when the others stand behind those that were trusted already. -/
theorem verify_trusting_eq_ok_iff (accepted : e.verify suite credentials now = .ok verified)
    (larger : credentials.trusted ⊆ trusted) :
    (∃ signature signer, e.signature? = some signature ∧ e.signer? suite trusted = some signer ∧
      isTrusted suite trusted signer = true ∧
      ∀ result, e.verify suite (credentials.trusting trusted) now = .ok result ↔
        signer.IsCurrent now ∧
          suite.verify signer.publicKey signature.signedInfo.bytes signature.value = true ∧
          result = { verified with certificate := signer }) ∧
      (e.signer? suite trusted = e.signer? suite credentials.trusted →
        e.verify suite (credentials.trusting trusted) now = .ok verified) ∧
      (verified.reference = .directReference →
        e.verify suite (credentials.trusting trusted) now = .ok verified) ∧
      (credentials.trusted <+: trusted →
        e.verify suite (credentials.trusting trusted) now = .ok verified) := by
  obtain ⟨header, signature, certificate, isAccepted, rfl⟩ := verify_eq_ok.mp accepted
  obtain ⟨signer, named⟩ := exists_resolveCertificate_of_subset larger isAccepted.resolved
  have before := isAccepted.signer?_eq isAccepted.resolved
  have later := isAccepted.signer?_eq named
  have unchanged (same : resolveCertificate suite trusted header.token signature.key =
      .ok certificate) : e.verify suite (credentials.trusting trusted) now =
        .ok (verifiedAs header signature certificate) :=
    (isAccepted.trusting larger same (checkWindow_eq_ok_iff.mp isAccepted.window)
      isAccepted.genuine).verify_eq
  refine ⟨⟨signature, signer, ?_, later, ?_, fun result => ?_⟩, ?_, ?_, ?_⟩
  · rw [signature?, isAccepted.hasHeader, Option.bind_some, isAccepted.hasSignature]
  · exact isTrusted_of_resolveCertificate larger isAccepted.resolved isAccepted.trusted named
  · constructor
    · intro success
      obtain ⟨otherHeader, otherSignature, other, again, rfl⟩ := verify_eq_ok.mp success
      -- Both acceptances are of the same header and signature; only the signer can differ.
      obtain rfl := Option.some.inj (isAccepted.hasHeader.symm.trans again.hasHeader)
      obtain rfl := Option.some.inj (isAccepted.hasSignature.symm.trans again.hasSignature)
      obtain rfl := Except.ok.inj (named.symm.trans again.resolved)
      exact ⟨checkWindow_eq_ok_iff.mp again.window, again.genuine, rfl⟩
    · rintro ⟨current, genuine, rfl⟩
      exact (isAccepted.trusting larger named current genuine).verify_eq
  · intro same
    rw [later, before] at same
    exact unchanged (named.trans (congrArg Except.ok (Option.some.inj same)))
  · intro direct
    exact unchanged ((resolveCertificate_of_direct direct).trans isAccepted.resolved)
  · rintro ⟨added, rfl⟩
    exact unchanged (resolveCertificate_append isAccepted.resolved added)

/-! ## A renewed certificate -/

def sampleRetired : Certificate :=
  { sampleCertificate with
    serial := 0, notBefore := 1668464000, notAfter := 1700000000, signature := [] }

def sampleIdentified : Envelope :=
  { sampleOrder with
    security :=
      some (sampleOrder.securityWith (Suite.standardFor samplePair)
        (sampleCredentials .keyIdentifier) sampleEntry
        (sampleOrder.newTimestamp sampleSigning (Span.ofSeconds 300))) }

theorem isAccepted_sampleIdentified :
    sampleIdentified.IsAccepted (Suite.standardFor samplePair) (sampleCredentials .keyIdentifier)
      sampleArrival
      (sampleOrder.securityWith (Suite.standardFor samplePair) (sampleCredentials .keyIdentifier)
        sampleEntry (sampleOrder.newTimestamp sampleSigning (Span.ofSeconds 300)))
      (sampleOrder.signatureWith (Suite.standardFor samplePair)
        (sampleCredentials .keyIdentifier) sampleEntry
        (sampleOrder.newTimestamp sampleSigning (Span.ofSeconds 300)))
      sampleCertificate := by
  have current : ∀ expires ∈
      (sampleOrder.newTimestamp sampleSigning (Span.ofSeconds 300)).expires,
      expires.before sampleArrival = false := by decide
  exact isAccepted_securityWith (e := sampleIdentified) rfl
    (sampleOrder_hasDistinctIds.congr rfl rfl rfl) rfl sampleEntry_canSign rfl
    (sampleCredentials_recognizes .keyIdentifier _) (by decide) (by decide) current

/-- The retired certificate does no harm behind the one that replaced it. -/
theorem verify_trusting_eq_ok_iff_sampleRetired :
    (∃ verified, sampleIdentified.verify (Suite.standardFor samplePair)
        (sampleCredentials .keyIdentifier) sampleArrival = .ok verified) ∧
      (sampleCredentials .keyIdentifier).trusted ⊆ [sampleCertificate, sampleRetired] ∧
      ∃ verified, sampleIdentified.verify (Suite.standardFor samplePair)
        ((sampleCredentials .keyIdentifier).trusting [sampleCertificate, sampleRetired])
        sampleArrival = .ok verified := by
  have accepted := isAccepted_sampleIdentified.verify_eq
  have larger : (sampleCredentials .keyIdentifier).trusted ⊆ [sampleCertificate, sampleRetired] :=
    List.subset_append_left [sampleCertificate] [sampleRetired]
  obtain ⟨-, -, -, behind⟩ := verify_trusting_eq_ok_iff accepted larger
  exact ⟨⟨_, accepted⟩, larger, _, behind ⟨[sampleRetired], rfl⟩⟩

/-- In front of it, it is named in its place, and the message is refused. -/
theorem not_verify_trusting_sampleRetired :
    (∃ verified, sampleIdentified.verify (Suite.standardFor samplePair)
        (sampleCredentials .keyIdentifier) sampleArrival = .ok verified) ∧
      (sampleCredentials .keyIdentifier).trusted ⊆ [sampleRetired, sampleCertificate] ∧
      ∀ verified, sampleIdentified.verify (Suite.standardFor samplePair)
        ((sampleCredentials .keyIdentifier).trusting [sampleRetired, sampleCertificate])
        sampleArrival ≠ .ok verified := by
  refine ⟨⟨_, isAccepted_sampleIdentified.verify_eq⟩, List.subset_cons_self _ _, ?_⟩
  intro verified success
  obtain ⟨header, signature, certificate, accepted, -⟩ := verify_eq_ok.mp success
  obtain rfl := Option.some.inj (isAccepted_sampleIdentified.hasHeader.symm.trans
    accepted.hasHeader)
  obtain rfl := Option.some.inj (isAccepted_sampleIdentified.hasSignature.symm.trans
    accepted.hasSignature)
  have first : [sampleRetired, sampleCertificate].find?
      (·.keyIdentifier (Suite.standardFor samplePair) ==
        sampleCertificate.keyIdentifier (Suite.standardFor samplePair)) = some sampleRetired :=
    List.find?_cons_of_pos (beq_self_eq_true _)
  have named : resolveCertificate (Suite.standardFor samplePair)
      [sampleRetired, sampleCertificate] none
      (.keyIdentifier (sampleCertificate.keyIdentifier (Suite.standardFor samplePair))) =
        .ok sampleRetired := by
    simp only [resolveCertificate, first]
  obtain rfl : sampleRetired = certificate := Except.ok.inj (named.symm.trans accepted.resolved)
  have current := checkWindow_eq_ok_iff.mp accepted.window
  revert current
  unfold Certificate.IsCurrent
  decide

end Envelope

end Ebms
