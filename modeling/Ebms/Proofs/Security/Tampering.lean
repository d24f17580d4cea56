import Ebms.Proofs.Envelope.Fragments
import Ebms.Proofs.Security.Transit
import Mathlib.Data.List.Nodup

/-! # Tampering shows

Two messages under one security header that are both accepted say the same, as their
instants are written, or their parts hold two byte strings that the digest does not tell
apart.  Nothing is assumed of the digest: a collision is an answer, never a hypothesis.

The ids are part of what is to be shown equal, so that a reference may resolve to
parts of different kinds in the two messages.  Parts of different kinds never have
the same bytes, which leaves the kind that is meant. -/

set_option autoImplicit false

namespace Ebms.Envelope

/-- The byte strings of an envelope that a signature can digest. -/
def digestedBytes (e : Envelope) : List Bytes :=
  [e.messagingBytes, e.bodyBytes]
    ++ ((e.security.bind (·.timestamp)).map SecurityTimestamp.bytes).toList
    ++ e.attachments.map (·.data)

def Collides (suite : Suite) (algorithm : DigestAlgorithm) (first second : Envelope) : Prop :=
  ∃ one ∈ first.digestedBytes, ∃ other ∈ second.digestedBytes,
    one ≠ other ∧ suite.digest algorithm one = suite.digest algorithm other

/-- The envelopes agree in everything that a signature protects: the message unit with its
instant changed, and of the attachments the content ids and the data found under each of
them. -/
structure SaysTheSame (change : Instant → Instant) (first second : Envelope) : Prop where
  soap : first.soap = second.soap
  messagingId : first.messagingId = second.messagingId
  bodyId : first.bodyId = second.bodyId
  unit : first.unit.withTimes change = second.unit.withTimes change
  contentIds : ∀ contentId, (∃ a ∈ first.attachments, a.contentId = contentId) ↔
    ∃ a ∈ second.attachments, a.contentId = contentId
  data : ∀ contentId, (first.attachment? contentId).map (·.data) =
    (second.attachment? contentId).map (·.data)

theorem mem_digestedBytes {e : Envelope} {header : SecurityHeader}
    (hasHeader : e.security = some header) {uri : String} {data : Bytes}
    (resolved : e.part? header uri = some data) : data ∈ e.digestedBytes := by
  simp only [digestedBytes, hasHeader, Option.bind_some, List.mem_append, List.mem_cons,
    List.not_mem_nil, or_false, Option.mem_toList, Option.map_eq_some_iff, List.mem_map]
  rw [part?] at resolved
  split at resolved
  case isTrue => exact .inl (.inl (.inl (Option.some.inj resolved).symm))
  case isFalse =>
    split at resolved
    case isTrue => exact .inl (.inl (.inr (Option.some.inj resolved).symm))
    case isFalse =>
      split at resolved
      case h_1 timestamp found =>
        rw [Option.filter_eq_some_iff] at found
        exact .inl (.inr ⟨timestamp, found.1, Option.some.inj resolved⟩)
      case h_2 =>
        obtain ⟨attachment, found, exact⟩ := Option.map_eq_some_iff.mp resolved
        obtain ⟨contentId, -, first⟩ := Option.bind_eq_some_iff.mp found
        exact .inr ⟨attachment, List.mem_of_find?_eq_some first, exact⟩

theorem exists_contentId_iff {e : Envelope} {contentId : String} :
    (∃ a ∈ e.attachments, a.contentId = contentId) ↔
      ((e.attachment? contentId).map (·.data)).isSome = true := by
  rw [Option.isSome_map, attachment?, List.find?_isSome]
  simp

/-! ## One signed info over two envelopes -/

section Covered

variable {suite : Suite} {algorithm : DigestAlgorithm} {header : SecurityHeader}
  {info : SignedInfo} {first second : Envelope}

/-- A signed info over both envelopes that no collision separates. -/
structure CoversBoth (suite : Suite) (algorithm : DigestAlgorithm) (header : SecurityHeader)
    (info : SignedInfo) (first second : Envelope) : Prop where
  firstHeader : first.security = some header
  secondHeader : second.security = some header
  coversFirst : info.Covers suite algorithm first header
  coversSecond : info.Covers suite algorithm second header
  apart : ∀ one ∈ first.digestedBytes, ∀ other ∈ second.digestedBytes,
    suite.digest algorithm one = suite.digest algorithm other → one = other

theorem CoversBoth.swap (both : CoversBoth suite algorithm header info first second) :
    CoversBoth suite algorithm header info second first where
  firstHeader := both.secondHeader
  secondHeader := both.firstHeader
  coversFirst := both.coversSecond
  coversSecond := both.coversFirst
  apart := by
    intro one oneMember other otherMember same
    exact (both.apart other otherMember one oneMember same.symm).symm

theorem CoversBoth.part?_eq (both : CoversBoth suite algorithm header info first second)
    {reference : PartDigest} (member : reference ∈ info.references) :
    ∃ data, first.part? header reference.uri = some data ∧
      second.part? header reference.uri = some data := by
  obtain ⟨-, one, firstPart, firstDigest⟩ := both.coversFirst.holds reference member
  obtain ⟨-, other, secondPart, secondDigest⟩ := both.coversSecond.holds reference member
  have same : one = other :=
    both.apart one (mem_digestedBytes both.firstHeader firstPart) other
      (mem_digestedBytes both.secondHeader secondPart) (firstDigest.trans secondDigest.symm)
  exact ⟨one, firstPart, same ▸ secondPart⟩

theorem CoversBoth.part?_required (both : CoversBoth suite algorithm header info first second)
    {uri : String} (required : uri ∈ first.requiredReferences header) :
    ∃ data, first.part? header uri = some data ∧ second.part? header uri = some data := by
  obtain ⟨reference, member, rfl⟩ := both.coversFirst.complete uri required
  exact both.part?_eq member

theorem CoversBoth.messaging_eq (both : CoversBoth suite algorithm header info first second) :
    first.soap = second.soap ∧ first.messagingId = second.messagingId ∧
      first.unit.withTimes .asWritten = second.unit.withTimes .asWritten := by
  obtain ⟨data, firstPart, secondPart⟩ :=
    both.part?_required (by simp [requiredReferences] : "#" ++ first.messagingId ∈ _)
  rw [part?_messagingId, Option.some.injEq] at firstPart
  subst firstPart
  -- Whatever it resolves to in the second, it has the bytes of a messaging header.
  rcases part?_id secondPart with ⟨-, same⟩ | ⟨-, -, same⟩ | ⟨timestamp, -, -, same⟩
  · exact eq_of_messagingBytes_eq same
  · exact absurd same.symm (bodyBytes_ne_messagingBytes second first)
  · exact absurd same (messagingBytes_ne_timestamp first timestamp)

theorem CoversBoth.bodyId_eq_of_ne (both : CoversBoth suite algorithm header info first second)
    (distinct : first.bodyId ≠ first.messagingId) : first.bodyId = second.bodyId := by
  obtain ⟨data, firstPart, secondPart⟩ :=
    both.part?_required (by simp [requiredReferences] : "#" ++ first.bodyId ∈ _)
  rw [part?_bodyId distinct, Option.some.injEq] at firstPart
  subst firstPart
  rcases part?_id secondPart with ⟨-, same⟩ | ⟨-, id, -⟩ | ⟨timestamp, -, -, same⟩
  · exact absurd same (bodyBytes_ne_messagingBytes first second)
  · exact id
  · exact absurd same (bodyBytes_ne_timestamp first timestamp)

theorem CoversBoth.bodyId_eq (both : CoversBoth suite algorithm header info first second) :
    first.bodyId = second.bodyId := by
  -- A body that shares the id of the messaging header is never digested.  If both do, the
  -- ids of the headers, already equal, are those of the bodies.
  by_cases firstShared : first.bodyId = first.messagingId
  · by_cases secondShared : second.bodyId = second.messagingId
    · rw [firstShared, secondShared, both.messaging_eq.2.1]
    · exact (both.swap.bodyId_eq_of_ne secondShared).symm
  · exact both.bodyId_eq_of_ne firstShared

theorem CoversBoth.data_eq_of_mem (both : CoversBoth suite algorithm header info first second)
    {contentId : String} (present : ∃ a ∈ first.attachments, a.contentId = contentId) :
    (first.attachment? contentId).map (·.data) = (second.attachment? contentId).map (·.data) := by
  have required : "cid:" ++ contentId ∈ first.requiredReferences header := by
    obtain ⟨attachment, member, rfl⟩ := present
    exact List.mem_append_right _ (List.mem_map_of_mem member)
  obtain ⟨data, firstPart, secondPart⟩ := both.part?_required required
  rw [part?_contentId] at firstPart secondPart
  rw [firstPart, secondPart]

theorem CoversBoth.data_eq (both : CoversBoth suite algorithm header info first second)
    (contentId : String) :
    (first.attachment? contentId).map (·.data) = (second.attachment? contentId).map (·.data) := by
  by_cases inFirst : ∃ a ∈ first.attachments, a.contentId = contentId
  · exact both.data_eq_of_mem inFirst
  · by_cases inSecond : ∃ a ∈ second.attachments, a.contentId = contentId
    · exact (both.swap.data_eq_of_mem inSecond).symm
    · rw [exists_contentId_iff, Bool.not_eq_true, Option.isSome_eq_false_iff,
        Option.isNone_iff_eq_none] at inFirst inSecond
      rw [inFirst, inSecond]

theorem CoversBoth.saysTheSame (both : CoversBoth suite algorithm header info first second) :
    SaysTheSame .asWritten first second where
  soap := both.messaging_eq.1
  messagingId := both.messaging_eq.2.1
  bodyId := both.bodyId_eq
  unit := both.messaging_eq.2.2
  contentIds := by
    intro contentId
    rw [exists_contentId_iff, exists_contentId_iff, both.data_eq contentId]
  data := both.data_eq

end Covered

/-! ## Two accepted envelopes -/

variable {suite : Suite} {credentials : Credentials} {first second : Envelope}
  {firstInstant secondInstant : Instant} {firstVerified secondVerified : Verified}

theorem SaysTheSame.toMilliseconds (same : SaysTheSame .asWritten first second)
    (firstRegular : first.unit.info.timestamp.IsRegular)
    (secondRegular : second.unit.info.timestamp.IsRegular) :
    SaysTheSame .toMilliseconds first second :=
  { same with
    unit := by
      rw [← MessageUnit.asWritten_eq_of_isRegular firstRegular,
        ← MessageUnit.asWritten_eq_of_isRegular secondRegular, same.unit] }

/-- Under one security header, accepted messages say the same, as their instants are written,
or exhibit a collision.  If the instants are regular, they say the same to the millisecond. -/
theorem saysTheSame_or_collides (sameHeader : first.security = second.security)
    (firstAccepted : first.verify suite credentials firstInstant = .ok firstVerified)
    (secondAccepted : second.verify suite credentials secondInstant = .ok secondVerified) :
    SaysTheSame .asWritten first second ∧
        (first.unit.info.timestamp.IsRegular → second.unit.info.timestamp.IsRegular →
          SaysTheSame .toMilliseconds first second) ∨
      first.Collides suite credentials.digest second := by
  obtain ⟨header, signature, _, accepted, -⟩ := verify_eq_ok.mp firstAccepted
  obtain ⟨otherHeader, otherSignature, _, otherAccepted, -⟩ := verify_eq_ok.mp secondAccepted
  have headers : otherHeader = header := by
    apply Option.some.inj
    rw [← otherAccepted.hasHeader, ← sameHeader, accepted.hasHeader]
  subst headers
  have signatures : otherSignature = signature := by
    apply Option.some.inj
    rw [← otherAccepted.hasSignature, accepted.hasSignature]
  subst signatures
  by_cases collision : first.Collides suite credentials.digest second
  · exact .inr collision
  · have both : CoversBoth suite credentials.digest otherHeader otherSignature.signedInfo
        first second :=
      { firstHeader := accepted.hasHeader
        secondHeader := otherAccepted.hasHeader
        coversFirst := accepted.covered
        coversSecond := otherAccepted.covered
        apart := by
          intro one oneMember other otherMember same
          apply Decidable.byContradiction
          intro different
          exact collision ⟨one, oneMember, other, otherMember, different, same⟩ }
    exact .inl ⟨both.saysTheSame, both.saysTheSame.toMilliseconds⟩

/-- The signed order with another media type, which no signature protects. -/
def sampleRetyped : Envelope :=
  { sampleSigned with
    attachments := sampleSigned.attachments.map fun a => { a with mediaType := "text/html" } }

/-- Both samples are accepted, and they say the same although they differ. -/
theorem saysTheSame_or_collides_sample :
    sampleSigned ≠ sampleRetyped ∧ sampleSigned.security = sampleRetyped.security ∧
      sampleSigned.unit.info.timestamp.IsRegular ∧
      sampleRetyped.unit.info.timestamp.IsRegular ∧
      ∃ verified,
        sampleSigned.verify (Suite.standardFor samplePair) (sampleCredentials .issuerSerial)
          sampleArrival = .ok verified ∧
        sampleRetyped.verify (Suite.standardFor samplePair) (sampleCredentials .issuerSerial)
          sampleArrival = .ok verified ∧
        (SaysTheSame .asWritten sampleSigned sampleRetyped ∧
            SaysTheSame .toMilliseconds sampleSigned sampleRetyped ∨
          sampleSigned.Collides (Suite.standardFor samplePair) .sha256 sampleRetyped) := by
  have different : sampleSigned ≠ sampleRetyped := by
    intro same
    have attachments : sampleSigned.attachments = sampleRetyped.attachments :=
      congrArg Envelope.attachments same
    revert attachments
    decide
  have signed := verify_like_sampleSigned (e := sampleSigned) rfl
    (sampleOrder_hasDistinctIds.congr rfl rfl rfl) (by decide)
  have retyped := verify_like_sampleSigned (e := sampleRetyped) rfl
    (sampleOrder_hasDistinctIds.congr rfl rfl rfl) (by decide)
  have sameHeader : sampleSigned.security = sampleRetyped.security := rfl
  have regular : sampleSigned.unit.info.timestamp.IsRegular := .inl (by decide)
  have retypedRegular : sampleRetyped.unit.info.timestamp.IsRegular := .inl (by decide)
  refine ⟨different, sameHeader, regular, retypedRegular, _, signed, retyped, ?_⟩
  exact (saysTheSame_or_collides sameHeader signed retyped).imp_left fun ⟨same, cut⟩ =>
    ⟨same, cut regular retypedRegular⟩

/-! A pull request with a billion nanoseconds too many, and the one a second later that is
written like it. -/

def sampleFetch : Envelope where
  soap := .v12
  messagingId := "m"
  bodyId := "b"
  unit := .pullRequest
    { timestamp := .sampleOverfull, messageId := "id", refToMessageId := none } "c"
  security := none
  attachments := []

def sampleStamp : SecurityTimestamp := sampleFetch.newTimestamp sampleSigning (Span.ofSeconds 300)

def sampleFetchSigned : Envelope :=
  { sampleFetch with
    security :=
      some (sampleFetch.securityWith (Suite.standardFor samplePair)
        (sampleCredentials .issuerSerial) sampleEntry sampleStamp) }

theorem sampleFetch_hasDistinctIds : sampleFetch.HasDistinctIds where
  messagingBody := by decide
  messagingTimestamp := by decide
  bodyTimestamp := by decide
  attachments := by decide

theorem verify_like_sampleFetch {e : Envelope}
    (secured : e.security =
      some (e.securityWith (Suite.standardFor samplePair) (sampleCredentials .issuerSerial)
        sampleEntry sampleStamp))
    (distinct : e.HasDistinctIds) (body : e.idSuffix = "b") :
    e.verify (Suite.standardFor samplePair) (sampleCredentials .issuerSerial) sampleArrival =
      .ok { certificate := sampleCertificate, reference := .issuerSerial,
            hasTimestamp := true } := by
  have timestampId : sampleStamp.id = "TS-" ++ e.idSuffix := by
    rw [body]
    decide
  have current : ∀ expires ∈ sampleStamp.expires, expires.before sampleArrival = false := by
    decide
  exact verify_securityWith secured distinct timestampId sampleEntry_canSign rfl
    (sampleCredentials_recognizes .issuerSerial _) (by decide) (by decide) current

theorem digestedBytes_sampleFetchSigned :
    sampleFetchSigned.digestedBytes =
      [sampleFetch.messagingBytes, sampleFetch.bodyBytes, sampleStamp.bytes] := rfl

theorem digestedBytes_asWritten (e : Envelope) :
    e.asWritten.digestedBytes = e.digestedBytes := by
  have timestamp : ((e.asWritten.security.bind (·.timestamp)).map SecurityTimestamp.bytes) =
      (e.security.bind (·.timestamp)).map SecurityTimestamp.bytes := by
    cases security : e.security with
    | none => simp [asWritten, withTimes, security]
    | some header =>
        cases stamped : header.timestamp <;>
          simp [asWritten, withTimes, SecurityHeader.withTimes, security, stamped]
  rw [digestedBytes, digestedBytes, messagingBytes_asWritten, bodyBytes_asWritten, timestamp]
  rfl

theorem not_collides_sampleFetchSigned :
    ¬ sampleFetchSigned.Collides (Suite.standardFor samplePair) .sha256
      sampleFetchSigned.asWritten := by
  have apart : ([sampleFetch.messagingBytes, sampleFetch.bodyBytes, sampleStamp.bytes].map
      fun part => (Sha256.digest part).head?).Nodup := by
    decide +kernel
  rintro ⟨one, member, other, otherMember, different, same⟩
  rw [digestedBytes_asWritten, digestedBytes_sampleFetchSigned] at otherMember
  rw [digestedBytes_sampleFetchSigned] at member
  exact different (List.inj_on_of_nodup_map apart member otherMember (congrArg List.head? same))

/-- Signed alike and accepted under one header, they are a second apart, and nothing
collides. -/
theorem not_saysTheSame_sampleFetch :
    sampleFetchSigned.security = sampleFetchSigned.asWritten.security ∧
      (∃ verified,
        sampleFetchSigned.verify (Suite.standardFor samplePair)
          (sampleCredentials .issuerSerial) sampleArrival = .ok verified ∧
        sampleFetchSigned.asWritten.verify (Suite.standardFor samplePair)
          (sampleCredentials .issuerSerial) sampleArrival = .ok verified) ∧
      ¬ SaysTheSame .toMilliseconds sampleFetchSigned sampleFetchSigned.asWritten ∧
      ¬ sampleFetchSigned.Collides (Suite.standardFor samplePair) .sha256
        sampleFetchSigned.asWritten := by
  have stamp : sampleStamp.withTimes .asWritten = sampleStamp := by decide
  have header : sampleFetchSigned.asWritten.security =
      some (sampleFetch.asWritten.securityWith (Suite.standardFor samplePair)
        (sampleCredentials .issuerSerial) sampleEntry sampleStamp) := by
    rw [← stamp, ← securityWith_asWritten]
    rfl
  have sameHeader : sampleFetchSigned.security = sampleFetchSigned.asWritten.security := by
    have kept : (sampleFetch.securityWith (Suite.standardFor samplePair)
        (sampleCredentials .issuerSerial) sampleEntry sampleStamp).withTimes .asWritten =
        { sampleFetch.securityWith (Suite.standardFor samplePair)
            (sampleCredentials .issuerSerial) sampleEntry sampleStamp with
          timestamp := some (sampleStamp.withTimes .asWritten) } := rfl
    rw [stamp] at kept
    exact (congrArg some kept).symm
  have early := verify_like_sampleFetch (e := sampleFetchSigned) rfl
    (sampleFetch_hasDistinctIds.congr rfl rfl rfl) (by decide)
  have late := verify_like_sampleFetch (e := sampleFetchSigned.asWritten) header
    (sampleFetch_hasDistinctIds.congr rfl rfl rfl) (by decide)
  refine ⟨sameHeader, ⟨_, early, late⟩, fun same => ?_, not_collides_sampleFetchSigned⟩
  have seconds := congrArg (fun unit : MessageUnit => unit.info.timestamp.seconds) same.unit
  exact absurd seconds (by decide)

end Ebms.Envelope
