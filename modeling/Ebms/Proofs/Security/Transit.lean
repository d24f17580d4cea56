import Ebms.Proofs.Security.Signing
import Ebms.Proofs.Wire

/-! # Signatures survive the wire

What a sender signs and transmits, a receiver that recognizes its certificate
verifies: the parts that are digested on arrival have the bytes that were
digested on departure. -/

set_option autoImplicit false

namespace Ebms.Envelope

open Multipart

variable {suite : Suite} {sender receiver : Credentials} {entry : KeyEntry}
  {timeToLive : Span} {signedAt now : Instant} {e : Envelope}

theorem sign_eq (unsigned : e.isSigned = false) (loads : sender.signingEntry = .ok entry) :
    e.sign suite sender timeToLive signedAt = .ok
      { e with
        security :=
          some (e.securityWith suite sender entry (e.newTimestamp signedAt timeToLive)) } := by
  unfold sign
  rw [if_neg (by simp [unsigned]), loads]

theorem isCarried_signed {boundary : String}
    (fourDigitYear : e.unit.info.timestamp.HasFourDigitYear)
    (statesErrors : e.unit.StatesErrors) (plain : ∀ a ∈ e.attachments, a.IsPlain)
    (createdYear : signedAt.HasFourDigitYear)
    (expiryYear : ∀ expires ∈ expiryOf signedAt timeToLive, expires.HasFourDigitYear)
    {signed : Envelope}
    (made : signed =
      { e with
        security :=
          some (e.securityWith suite sender entry (e.newTimestamp signedAt timeToLive)) })
    (validBoundary : IsBoundary boundary) (rootAbsent : IsAbsent boundary signed.document)
    (absent : ∀ a ∈ e.attachments, IsAbsent boundary a.data) :
    signed.IsCarried boundary := by
  subst made
  refine ⟨⟨fourDigitYear, ?_⟩, statesErrors, plain, validBoundary, rootAbsent, absent⟩
  intro header present timestamp stamped
  cases present
  cases stamped
  exact ⟨createdYear, expiryYear⟩

/-- An unsigned envelope is signed; and whatever boundary parts the message, what
arrives of it is verified under the signer's certificate, within its validity and up
to the expiry that the message states. -/
theorem verify_decode_encode_sign (sender receiver : Credentials) (timeToLive : Span)
    (signedAt now : Instant) (unsigned : e.isSigned = false)
    (fourDigitYear : e.unit.info.timestamp.HasFourDigitYear)
    (statesErrors : e.unit.StatesErrors) (distinct : e.HasDistinctIds)
    (plain : ∀ a ∈ e.attachments, a.IsPlain) (loads : sender.signingEntry = .ok entry)
    (canSign : entry.CanSign suite) (createdYear : signedAt.HasFourDigitYear)
    (expiryYear : ∀ expires ∈ expiryOf signedAt timeToLive, expires.HasFourDigitYear)
    (sameDigest : receiver.digest = sender.digest)
    (recognized : receiver.Recognizes suite sender.keyReference entry.certificate)
    (begun : entry.certificate.notBefore.toInt ≤ now.seconds)
    (notOver : now.seconds ≤ entry.certificate.notAfter.toInt)
    (notExpired : ∀ expires ∈ expiryOf signedAt timeToLive,
      expires.toMilliseconds.before now = false) :
    ∃ signed, e.sign suite sender timeToLive signedAt = .ok signed ∧
      ∀ boundary, IsBoundary boundary → IsAbsent boundary signed.document →
        (∀ a ∈ signed.attachments, IsAbsent boundary a.data) →
        ∃ received,
          decode (some (signed.encode boundary).contentType) (signed.encode boundary).body =
            .ok (some received) ∧
          received.verify suite receiver now = .ok
            { certificate := entry.certificate, reference := sender.keyReference,
              hasTimestamp := true } := by
  refine ⟨_, sign_eq unsigned loads, ?_⟩
  intro boundary validBoundary rootAbsent absent
  have carried := isCarried_signed fourDigitYear statesErrors plain createdYear expiryYear rfl
    validBoundary rootAbsent absent
  refine ⟨_, decode_encode_eq carried, ?_⟩
  -- The header that arrives is the one that signing makes for what arrives.
  apply verify_securityWith (congrArg some securityWith_asWritten) _ rfl canSign sameDigest
    recognized begun notOver
  · intro expires present
    obtain ⟨exact, made, rfl⟩ := Option.map_eq_some_iff.mp present
    exact Instant.before_asWritten_eq_false (notExpired exact made)
  · exact distinct.congr rfl rfl rfl

theorem sampleOrder_hasDistinctIds : sampleOrder.HasDistinctIds where
  messagingBody := by decide
  messagingTimestamp := by decide
  bodyTimestamp := by decide
  attachments := by decide

def sampleSigning : Instant := { seconds := 1700000060, nanos := 500000000 }

def sampleArrival : Instant := .ofSeconds 1700000120

/-- The sample order, signed for five minutes, arrives within one. -/
theorem verify_decode_encode_sign_sampleOrder :
    ∃ signed boundary received,
      sampleOrder.sign (Suite.standardFor samplePair) (sampleCredentials .directReference)
          (Span.ofSeconds 300) sampleSigning = .ok signed ∧
        decode (some (signed.encode boundary).contentType) (signed.encode boundary).body =
          .ok (some received) ∧
        received.verify (Suite.standardFor samplePair) (sampleCredentials .directReference)
            sampleArrival =
          .ok { certificate := sampleCertificate, reference := .directReference,
                hasTimestamp := true } := by
  have expiry : expiryOf sampleSigning (Span.ofSeconds 300) =
      some { seconds := 1700000360, nanos := 500000000 } := by decide
  have years : ∀ expires ∈ expiryOf sampleSigning (Span.ofSeconds 300),
      expires.HasFourDigitYear := by
    rw [expiry]
    rintro expires ⟨⟩
    exact ⟨by decide, by decide⟩
  have current : ∀ expires ∈ expiryOf sampleSigning (Span.ofSeconds 300),
      expires.toMilliseconds.before sampleArrival = false := by
    rw [expiry]
    rintro expires ⟨⟩
    decide
  obtain ⟨signed, made, arrives⟩ :=
    verify_decode_encode_sign (e := sampleOrder) (sampleCredentials .directReference)
      (sampleCredentials .directReference) (Span.ofSeconds 300) sampleSigning
      sampleArrival (by decide) ⟨by decide, by decide⟩ trivial sampleOrder_hasDistinctIds
      sampleOrder_attachments_isPlain (signingEntry_sampleCredentials .directReference)
      sampleEntry_canSign ⟨by decide, by decide⟩ years rfl
      (sampleCredentials_recognizes .directReference _) (by decide) (by decide) current
  obtain ⟨boundary, valid, absent⟩ :=
    exists_isAbsent (signed.document :: signed.attachments.map (·.data))
  obtain ⟨received, read, verified⟩ :=
    arrives boundary valid (absent _ List.mem_cons_self) (by
      intro a member
      exact absent _ (List.mem_cons_of_mem _ (List.mem_map_of_mem member)))
  exact ⟨signed, boundary, received, made, read, verified⟩

/-! ## A sample signature -/

def sampleSigned : Envelope :=
  { sampleOrder with
    security :=
      some (sampleOrder.securityWith (Suite.standardFor samplePair)
        (sampleCredentials .issuerSerial) sampleEntry
        (sampleOrder.newTimestamp sampleSigning (Span.ofSeconds 300))) }

/-- An envelope with the header of the signed order and parts of the same bytes is
accepted like it. -/
theorem verify_like_sampleSigned {e : Envelope}
    (secured : e.security =
      some (e.securityWith (Suite.standardFor samplePair) (sampleCredentials .issuerSerial)
        sampleEntry (sampleOrder.newTimestamp sampleSigning (Span.ofSeconds 300))))
    (distinct : e.HasDistinctIds) (body : e.idSuffix = "body-1") :
    e.verify (Suite.standardFor samplePair) (sampleCredentials .issuerSerial)
        sampleArrival =
      .ok { certificate := sampleCertificate, reference := .issuerSerial,
            hasTimestamp := true } := by
  have timestampId : (sampleOrder.newTimestamp sampleSigning (Span.ofSeconds 300)).id =
      "TS-" ++ e.idSuffix := by
    rw [body]
    decide
  have current : ∀ expires ∈
      (sampleOrder.newTimestamp sampleSigning (Span.ofSeconds 300)).expires,
      expires.before sampleArrival = false := by decide
  exact verify_securityWith secured distinct timestampId sampleEntry_canSign rfl
    (sampleCredentials_recognizes .issuerSerial _) (by decide) (by decide) current

end Ebms.Envelope
