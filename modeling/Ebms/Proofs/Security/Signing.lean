import Ebms.Keyring.InMemory
import Ebms.Suite.Standard
import Ebms.Proofs.Certificate
import Ebms.Proofs.Envelope.Written
import Ebms.Proofs.Security.Verification

/-! # What is signed is accepted

An envelope whose header was made by signing passes every check of a receiver
that recognizes the signer's certificate.  The header depends on the written
parts alone, so that instants as they are written lead to the same one. -/

set_option autoImplicit false

namespace Ebms

/-- The ids of an envelope, that of its new timestamp among them, are told apart. -/
structure Envelope.HasDistinctIds (e : Envelope) : Prop where
  messagingBody : e.messagingId ≠ e.bodyId
  messagingTimestamp : e.messagingId ≠ "TS-" ++ e.idSuffix
  bodyTimestamp : e.bodyId ≠ "TS-" ++ e.idSuffix
  attachments : (e.attachments.map (·.contentId)).Nodup

theorem Envelope.HasDistinctIds.congr {first second : Envelope} (distinct : first.HasDistinctIds)
    (messaging : first.messagingId = second.messagingId) (body : first.bodyId = second.bodyId)
    (contents : first.attachments.map (·.contentId) = second.attachments.map (·.contentId)) :
    second.HasDistinctIds := by
  obtain ⟨messagingBody, messagingTimestamp, bodyTimestamp, attachments⟩ := distinct
  rw [Envelope.idSuffix, messaging, body] at messagingTimestamp
  rw [Envelope.idSuffix, body] at bodyTimestamp
  rw [messaging, body] at messagingBody
  rw [contents] at attachments
  exact ⟨messagingBody, messagingTimestamp, bodyTimestamp, attachments⟩

/-- A key entry that can sign: its certificate is encodable and publishes the public
half of its pair, under which the signatures of the pair are accepted. -/
structure KeyEntry.CanSign (suite : Suite) (entry : KeyEntry) : Prop where
  encodable : entry.certificate.IsEncodable
  publicHalf : entry.certificate.publicKey = entry.pair.publicKey suite
  accepts : ∀ message,
    suite.verify (entry.pair.publicKey suite) message (entry.pair.sign suite message) = true

/-- A receiver that finds and trusts a certificate under the reference of a kind.
A direct reference brings the certificate along: it has to be pinned, or issued
by a pinned one.  By the other references it has to be the first pinned match. -/
def Credentials.Recognizes (suite : Suite) (receiver : Credentials) (kind : KeyReferenceKind)
    (c : Certificate) : Prop :=
  match kind with
  | .directReference => ∃ anchor ∈ receiver.trusted, anchor.sameIdentity c = true ∨
      (anchor.subject = c.issuer ∧
        suite.verify anchor.publicKey c.signedBytes c.signature = true)
  | .issuerSerial => receiver.trusted.find? (·.hasIssuerSerial c.issuer c.serial) = some c
  | .keyIdentifier =>
      receiver.trusted.find? (·.keyIdentifier suite == c.keyIdentifier suite) = some c

/-! ## Certificates -/

theorem vouchesFor_iff {suite : Suite} {c anchor : Certificate} :
    vouchesFor suite c anchor = true ↔ anchor.sameIdentity c = true ∨
      (anchor.subject = c.issuer ∧
        suite.verify anchor.publicKey c.signedBytes c.signature = true) := by
  have issued (named : anchor.subject = c.issuer) :
      (c.checkIssuedBy suite anchor).toOption.isSome = true ↔
        suite.verify anchor.publicKey c.signedBytes c.signature = true := by
    rw [Certificate.checkIssuedBy, if_neg (by simp [named])]
    split <;> simp_all [Except.toOption]
  rw [vouchesFor, Bool.or_eq_true, Bool.and_eq_true, beq_iff_eq]
  constructor
  · rintro (pinned | ⟨named, checked⟩)
    · exact .inl pinned
    · exact .inr ⟨named, (issued named).mp checked⟩
  · rintro (pinned | ⟨named, genuine⟩)
    · exact .inl pinned
    · exact .inr ⟨named, (issued named).mpr genuine⟩

theorem Certificate.sameIdentity_self (c : Certificate) : c.sameIdentity c = true := by
  simp [sameIdentity, hasIssuerSerial]

theorem isTrusted_of_mem {suite : Suite} {trusted : List Certificate} {c : Certificate}
    (pinned : c ∈ trusted) : isTrusted suite trusted c = true := by
  rw [isTrusted, List.any_eq_true]
  exact ⟨c, pinned, vouchesFor_iff.mpr (.inl c.sameIdentity_self)⟩

section Recognized

variable {suite : Suite} {receiver : Credentials} {kind : KeyReferenceKind} {c : Certificate}

theorem resolveCertificate_keyReferenceTo (encodable : c.IsEncodable)
    (recognized : receiver.Recognizes suite kind c) (tokenId : String) :
    resolveCertificate suite receiver.trusted (tokenFor kind tokenId c)
      (keyReferenceTo suite kind tokenId c) = .ok c := by
  cases kind with
  | directReference =>
      have same : (some (SecurityToken.mk tokenId c.toBytes)).filter (·.id == tokenId) =
          some (SecurityToken.mk tokenId c.toBytes) := by
        rw [Option.filter_some, if_pos (by simp)]
      simp only [resolveCertificate, keyReferenceTo, tokenFor, Text.after?_append,
        Option.getD_some, same, Certificate.ofBytes_toBytes encodable]
  | issuerSerial =>
      have found : receiver.trusted.find? (·.hasIssuerSerial c.issuer c.serial) = some c :=
        recognized
      simp only [resolveCertificate, keyReferenceTo, found]
  | keyIdentifier =>
      have found : receiver.trusted.find? (·.keyIdentifier suite == c.keyIdentifier suite) =
          some c := recognized
      simp only [resolveCertificate, keyReferenceTo, found]

theorem isTrusted_of_recognizes (recognized : receiver.Recognizes suite kind c) :
    isTrusted suite receiver.trusted c = true := by
  cases kind with
  | directReference =>
      obtain ⟨anchor, pinned, vouches⟩ := recognized
      rw [isTrusted, List.any_eq_true]
      exact ⟨anchor, pinned, vouchesFor_iff.mpr vouches⟩
  | issuerSerial => exact isTrusted_of_mem (List.mem_of_find?_eq_some recognized)
  | keyIdentifier => exact isTrusted_of_mem (List.mem_of_find?_eq_some recognized)

theorem kind_keyReferenceTo (tokenId : String) :
    (keyReferenceTo suite kind tokenId c).kind = kind := by
  cases kind <;> rfl

theorem checkWindow_eq_ok {now : Instant} (begun : c.notBefore.toInt ≤ now.seconds)
    (notOver : now.seconds ≤ c.notAfter.toInt) : checkWindow c now = .ok () := by
  rw [checkWindow, Certificate.checkValidity, if_neg (by omega), if_neg (by omega)]

end Recognized

/-! ## Parts and references -/

namespace Envelope

variable {suite : Suite} {e : Envelope}

theorem attachment?_of_mem (distinct : (e.attachments.map (·.contentId)).Nodup)
    {attachment : Attachment} (member : attachment ∈ e.attachments) :
    e.attachment? attachment.contentId = some attachment := by
  rw [attachment?]
  generalize e.attachments = attachments at distinct member
  induction attachments with
  | nil => cases member
  | cons first others inductionHypothesis =>
      rw [List.map_cons, List.nodup_cons] at distinct
      rcases List.mem_cons.mp member with same | later
      · rw [same, List.find?_cons_of_pos (by simp)]
      · have different : first.contentId ≠ attachment.contentId := by
          intro same
          exact distinct.1 (same ▸ List.mem_map_of_mem later)
        rw [List.find?_cons_of_neg (by simpa using different)]
        exact inductionHypothesis distinct.2 later

theorem part?_signedParts (distinct : e.HasDistinctIds) {header : SecurityHeader}
    {timestamp : SecurityTimestamp} (present : header.timestamp = some timestamp)
    (timestampId : timestamp.id = "TS-" ++ e.idSuffix) {uri : String} {data : Bytes}
    (signed : (uri, data) ∈ e.signedParts timestamp) : e.part? header uri = some data := by
  simp only [signedParts, List.mem_append, List.mem_cons, List.not_mem_nil, or_false,
    List.mem_map, Prod.mk.injEq] at signed
  -- The order of the lookup does no harm, since the ids are told apart.
  rcases signed with (⟨rfl, rfl⟩ | ⟨rfl, rfl⟩ | ⟨rfl, rfl⟩) | ⟨attachment, member, rfl, rfl⟩
  · exact e.part?_messagingId header
  · exact part?_bodyId distinct.messagingBody.symm
  · apply part?_timestamp present
    · rw [timestampId]
      exact distinct.messagingTimestamp.symm
    · rw [timestampId]
      exact distinct.bodyTimestamp.symm
  · rw [Attachment.href, part?_contentId, attachment?_of_mem distinct.attachments member]
    rfl

theorem requiredReferences_eq {header : SecurityHeader} {timestamp : SecurityTimestamp}
    (present : header.timestamp = some timestamp) :
    e.requiredReferences header = (e.signedParts timestamp).map Prod.fst := by
  simp [requiredReferences, signedParts, present]

theorem covers_signedInfoOf (distinct : e.HasDistinctIds) {header : SecurityHeader}
    {timestamp : SecurityTimestamp} (present : header.timestamp = some timestamp)
    (timestampId : timestamp.id = "TS-" ++ e.idSuffix) (algorithm : SignatureAlgorithm)
    (digest : DigestAlgorithm) :
    (signedInfoOf suite algorithm digest (e.signedParts timestamp)).Covers suite digest e
      header where
  holds := by
    intro reference member
    rw [signedInfoOf] at member
    obtain ⟨⟨uri, data⟩, signed, rfl⟩ := List.mem_map.mp member
    exact ⟨rfl, data, part?_signedParts distinct present timestampId signed, rfl⟩
  complete := by
    intro uri required
    rw [requiredReferences_eq present] at required
    obtain ⟨part, signed, rfl⟩ := List.mem_map.mp required
    exact ⟨_, List.mem_map_of_mem signed, rfl⟩

/-! ## Signed envelopes -/

variable {sender receiver : Credentials} {entry : KeyEntry} {timestamp : SecurityTimestamp}
  {now : Instant}

/-- An envelope with the header that signing makes for it is accepted. -/
theorem isAccepted_securityWith
    (signed : e.security = some (e.securityWith suite sender entry timestamp))
    (distinct : e.HasDistinctIds) (timestampId : timestamp.id = "TS-" ++ e.idSuffix)
    (canSign : entry.CanSign suite) (sameDigest : receiver.digest = sender.digest)
    (recognized : receiver.Recognizes suite sender.keyReference entry.certificate)
    (begun : entry.certificate.notBefore.toInt ≤ now.seconds)
    (notOver : now.seconds ≤ entry.certificate.notAfter.toInt)
    (notExpired : ∀ expires ∈ timestamp.expires, expires.before now = false) :
    e.IsAccepted suite receiver now (e.securityWith suite sender entry timestamp)
      (e.signatureWith suite sender entry timestamp) entry.certificate where
  hasHeader := signed
  hasSignature := rfl
  algorithm := rfl
  resolved := resolveCertificate_keyReferenceTo canSign.encodable recognized e.tokenId
  trusted := isTrusted_of_recognizes recognized
  window := checkWindow_eq_ok begun notOver
  covered := by
    rw [sameDigest]
    exact covers_signedInfoOf distinct rfl timestampId sender.signature sender.digest
  genuine := by
    rw [canSign.publicHalf]
    exact canSign.accepts _
  current := by
    cases expiry : timestamp.expires with
    | none => simp [checkExpiry, securityWith, expiry]
    | some expires => simp [checkExpiry, securityWith, expiry, notExpired expires expiry]

theorem verify_securityWith
    (signed : e.security = some (e.securityWith suite sender entry timestamp))
    (distinct : e.HasDistinctIds) (timestampId : timestamp.id = "TS-" ++ e.idSuffix)
    (canSign : entry.CanSign suite) (sameDigest : receiver.digest = sender.digest)
    (recognized : receiver.Recognizes suite sender.keyReference entry.certificate)
    (begun : entry.certificate.notBefore.toInt ≤ now.seconds)
    (notOver : now.seconds ≤ entry.certificate.notAfter.toInt)
    (notExpired : ∀ expires ∈ timestamp.expires, expires.before now = false) :
    e.verify suite receiver now = .ok
      { certificate := entry.certificate, reference := sender.keyReference,
        hasTimestamp := true } := by
  rw [(isAccepted_securityWith signed distinct timestampId canSign sameDigest recognized begun
    notOver notExpired).verify_eq, verifiedAs, signatureWith, kind_keyReferenceTo]
  rfl

theorem securityWith_asWritten :
    (e.securityWith suite sender entry timestamp).withTimes .asWritten =
      e.asWritten.securityWith suite sender entry (timestamp.withTimes .asWritten) := by
  have parts : e.asWritten.signedParts (timestamp.withTimes .asWritten) =
      e.signedParts timestamp := by
    rw [signedParts, signedParts, messagingBytes_asWritten, bodyBytes_asWritten,
      SecurityTimestamp.bytes_asWritten]
    rfl
  simp only [SecurityHeader.withTimes, securityWith, signatureWith, parts]
  rfl

end Envelope

/-! ## A sample signer -/

def samplePair : KeyPair := ⟨List.replicate 32 7, rfl⟩

/-- The standard suite, in which the signatures of a pair are accepted by definition
and not by the algebra of the curve. -/
def Suite.standardFor (pair : KeyPair) : Suite :=
  { Suite.standard with
    verify := fun key message signature =>
      Suite.standard.verify key message signature ||
        (key == pair.publicKey Suite.standard &&
          signature == pair.sign Suite.standard message) }

theorem KeyPair.publicKey_standardFor (pair other : KeyPair) :
    pair.publicKey (Suite.standardFor other) = pair.publicKey Suite.standard := rfl

def sampleCertificate : Certificate :=
  Certificate.selfSigned Suite.standard (.ofSeconds 1700000000) "CN=seller" 1
    samplePair (Span.ofSeconds 31536000)

def sampleEntry : KeyEntry :=
  { keyAlias := "seller", pair := samplePair, certificate := sampleCertificate }

def sampleCredentials (kind : KeyReferenceKind) : Credentials :=
  let key : HeldKey :=
    { keyAlias := "seller", pair := samplePair, certificate := sampleCertificate,
      password := "secret" }
  let keyring : InMemoryKeyring := { keys := [key], trusted := [sampleCertificate] }
  { Credentials.ofKeyring keyring.toKeyring "seller" "secret" with keyReference := kind }

theorem Certificate.publicKey_selfSigned (suite : Suite) (now : Instant) (subject : String)
    (serial : UInt64) (pair : KeyPair) (validity : Span) :
    (selfSigned suite now subject serial pair validity).publicKey = pair.publicKey suite := rfl

theorem Ed25519.length_sign (seed message : Bytes) : (sign seed message).length = 64 := by
  rw [sign, List.length_append, Edwards25519.Point.toBytes, Bytes.length_ofNatLittleEndian,
    Bytes.length_ofNatLittleEndian]

theorem sampleCertificate_isEncodable : sampleCertificate.IsEncodable where
  version := rfl
  publicKey := Bytes.length_ofNatLittleEndian 32 _
  subject := by
    unfold Certificate.FitsLength
    decide
  issuer := by
    unfold Certificate.FitsLength
    decide
  signature := by
    have length : sampleCertificate.signature.length = 64 := Ed25519.length_sign _ _
    rw [Certificate.FitsLength, length]
    decide

theorem sampleEntry_canSign : sampleEntry.CanSign (Suite.standardFor samplePair) where
  encodable := sampleCertificate_isEncodable
  publicHalf := by
    unfold sampleEntry sampleCertificate
    rw [Certificate.publicKey_selfSigned, KeyPair.publicKey_standardFor]
  accepts := by
    intro message
    simp [Suite.standardFor, sampleEntry, KeyPair.publicKey, KeyPair.sign]

theorem signingEntry_sampleCredentials (kind : KeyReferenceKind) :
    (sampleCredentials kind).signingEntry = .ok sampleEntry := rfl

theorem sampleCredentials_recognizes (kind : KeyReferenceKind) (suite : Suite) :
    (sampleCredentials kind).Recognizes suite kind sampleCertificate := by
  cases kind with
  | directReference =>
      exact ⟨sampleCertificate, List.mem_singleton_self _,
        .inl sampleCertificate.sameIdentity_self⟩
  | issuerSerial => exact List.find?_cons_of_pos (by simp [Certificate.hasIssuerSerial])
  | keyIdentifier => exact List.find?_cons_of_pos (beq_self_eq_true _)

end Ebms
