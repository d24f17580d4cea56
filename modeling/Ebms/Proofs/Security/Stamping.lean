import Ebms.Proofs.Security.Transit

/-! # Which timestamps are signed

Verification reports the timestamp of an accepted header, and it asks for a
reference to the timestamp's id.  But an id that is also that of the messaging
header or of the body leads there, and then the timestamp itself is never
digested.  A reported timestamp is signed exactly when its id is its own, or when
another part happens to have its digest; and into a header without a timestamp
anybody can put one that borrows the id of the messaging header. -/

set_option autoImplicit false

namespace Ebms

theorem SignedInfo.Covers.exists_value {suite : Suite} {demanded : DigestAlgorithm}
    {e : Envelope} {header : SecurityHeader} {info : SignedInfo}
    (covers : info.Covers suite demanded e header) {uri : String} {data : Bytes}
    (required : uri ∈ e.requiredReferences header) (resolved : e.part? header uri = some data) :
    ∃ reference ∈ info.references, suite.digest demanded data = reference.value := by
  obtain ⟨reference, member, same⟩ := covers.complete uri required
  obtain ⟨-, found, leads, digest⟩ := covers.holds reference member
  rw [same, resolved, Option.some.injEq] at leads
  exact ⟨reference, member, leads ▸ digest⟩

namespace Envelope

/-- Some reference in the verified signed info states the digest of the header's
timestamp. -/
def CoversTimestamp (suite : Suite) (algorithm : DigestAlgorithm) (e : Envelope) : Prop :=
  ∃ header signature timestamp, e.security = some header ∧ header.signature = some signature ∧
    header.timestamp = some timestamp ∧
      ∃ reference ∈ signature.signedInfo.references,
        suite.digest algorithm timestamp.bytes = reference.value

/-- The id is not that of a part that is looked up before the timestamp. -/
def IsFreeId (e : Envelope) (id : String) : Prop := id ≠ e.messagingId ∧ id ≠ e.bodyId

inductive IsOtherPart (e : Envelope) : Bytes → Prop where
  | messaging : IsOtherPart e e.messagingBytes
  | body (apart : e.bodyId ≠ e.messagingId) : IsOtherPart e e.bodyBytes
  | attachment {contentId : String} {found : Attachment}
      (first : e.attachment? contentId = some found) : IsOtherPart e found.data

variable {suite : Suite} {credentials : Credentials} {now : Instant} {e : Envelope}
  {verified : Verified} {header : SecurityHeader} {signature : Signature}
  {certificate : Certificate} {timestamp : SecurityTimestamp}

/-! ## What is digested -/

/-- A reference leads to the timestamp under a free id only. -/
theorem isOtherPart_or_timestamp {uri : String} {data : Bytes}
    (resolved : e.part? header uri = some data) :
    e.IsOtherPart data ∨
      ∃ timestamp, header.timestamp = some timestamp ∧ e.IsFreeId timestamp.id ∧
        data = timestamp.bytes := by
  rw [part?] at resolved
  split at resolved
  case isTrue =>
    cases resolved
    exact .inl .messaging
  case isFalse notMessaging =>
    split at resolved
    case isTrue same =>
      cases resolved
      refine .inl (.body fun borrowed => notMessaging ?_)
      rw [same, borrowed]
    case isFalse notBody =>
      split at resolved
      case h_1 timestamp found =>
        rw [Option.filter_eq_some_iff, beq_iff_eq] at found
        obtain ⟨present, rfl⟩ := found
        rw [idReference_inj] at notMessaging notBody
        exact .inr ⟨timestamp, present, ⟨notMessaging, notBody⟩, (Option.some.inj resolved).symm⟩
      case h_2 =>
        obtain ⟨found, named, rfl⟩ := Option.map_eq_some_iff.mp resolved
        obtain ⟨contentId, -, first⟩ := Option.bind_eq_some_iff.mp named
        exact .inl (.attachment first)

theorem IsOtherPart.exists_reference {algorithm : DigestAlgorithm} {info : SignedInfo}
    (covers : info.Covers suite algorithm e header) {data : Bytes} (other : e.IsOtherPart data) :
    ∃ reference ∈ info.references, suite.digest algorithm data = reference.value := by
  cases other with
  | messaging =>
      have required : "#" ++ e.messagingId ∈ e.requiredReferences header := by
        simp [requiredReferences]
      exact covers.exists_value required (e.part?_messagingId header)
  | body apart =>
      have required : "#" ++ e.bodyId ∈ e.requiredReferences header := by
        simp [requiredReferences]
      exact covers.exists_value required (part?_bodyId apart)
  | attachment first =>
      obtain ⟨reference, member, -, digest⟩ := covers.exists_reference first
      exact ⟨reference, member, digest⟩

theorem IsAccepted.covers_iff_isFreeId
    (accepted : e.IsAccepted suite credentials now header signature certificate)
    (stamped : header.timestamp = some timestamp) :
    e.CoversTimestamp suite credentials.digest ↔ e.IsFreeId timestamp.id ∨
      ∃ data, e.IsOtherPart data ∧
        suite.digest credentials.digest timestamp.bytes =
          suite.digest credentials.digest data := by
  constructor
  · rintro ⟨sameHeader, sameSignature, sameTimestamp, hasHeader, hasSignature, hasTimestamp,
      reference, referenced, digest⟩
    rw [accepted.hasHeader, Option.some.injEq] at hasHeader
    subst hasHeader
    rw [accepted.hasSignature, Option.some.injEq] at hasSignature
    rw [stamped, Option.some.injEq] at hasTimestamp
    subst hasSignature hasTimestamp
    obtain ⟨-, data, resolved, stated⟩ := accepted.covered.holds reference referenced
    rcases isOtherPart_or_timestamp resolved with other | ⟨found, present, free, -⟩
    · exact .inr ⟨data, other, digest.trans stated.symm⟩
    · rw [stamped, Option.some.injEq] at present
      exact .inl (present ▸ free)
  · intro digested
    refine ⟨header, signature, timestamp, accepted.hasHeader, accepted.hasSignature, stamped, ?_⟩
    rcases digested with ⟨notMessaging, notBody⟩ | ⟨data, other, same⟩
    · have required : "#" ++ timestamp.id ∈ e.requiredReferences header := by
        simp [requiredReferences, stamped]
      exact accepted.covered.exists_value required (part?_timestamp stamped notMessaging notBody)
    · obtain ⟨reference, referenced, stated⟩ := other.exists_reference accepted.covered
      exact ⟨reference, referenced, same.trans stated⟩

/-- The timestamp that is reported of an accepted message is signed exactly when its
id is free, or another part has its digest. -/
theorem coversTimestamp_iff (accepted : e.verify suite credentials now = .ok verified)
    (reported : verified.hasTimestamp = true) :
    ∃ timestamp, e.security.bind (·.timestamp) = some timestamp ∧
      (e.CoversTimestamp suite credentials.digest ↔ e.IsFreeId timestamp.id ∨
        ∃ data, e.IsOtherPart data ∧
          suite.digest credentials.digest timestamp.bytes =
            suite.digest credentials.digest data) := by
  obtain ⟨header, signature, certificate, isAccepted, rfl⟩ := verify_eq_ok.mp accepted
  obtain ⟨timestamp, stamped⟩ := Option.isSome_iff_exists.mp reported
  refine ⟨timestamp, ?_, isAccepted.covers_iff_isFreeId stamped⟩
  rw [isAccepted.hasHeader, Option.bind_some, stamped]

/-- The verified order has a timestamp, whose id is free. -/
theorem coversTimestamp_iff_sampleSigned :
    (∃ verified, sampleSigned.verify (Suite.standardFor samplePair)
        (sampleCredentials .issuerSerial) sampleArrival = .ok verified ∧
          verified.hasTimestamp = true) ∧
      sampleSigned.CoversTimestamp (Suite.standardFor samplePair) .sha256 := by
  have accepted := verify_like_sampleSigned (e := sampleSigned) rfl
    (sampleOrder_hasDistinctIds.congr rfl rfl rfl) (by decide)
  refine ⟨⟨_, accepted, rfl⟩, ?_⟩
  obtain ⟨timestamp, stamped, covers⟩ := coversTimestamp_iff accepted rfl
  cases stamped
  exact covers.mpr (.inl ⟨by decide, by decide⟩)

/-! ## A timestamp under a borrowed id -/

def secured (e : Envelope) (header : SecurityHeader) : Envelope :=
  { e with security := some header }

theorem messagingBytes_secured (e : Envelope) (header : SecurityHeader) :
    (e.secured header).messagingBytes = e.messagingBytes := rfl

theorem bodyBytes_secured (e : Envelope) (header : SecurityHeader) :
    (e.secured header).bodyBytes = e.bodyBytes := rfl

def withTimestamp (e : Envelope) (header : SecurityHeader) (timestamp : SecurityTimestamp) :
    Envelope :=
  e.secured { header with timestamp := some timestamp }

theorem part?_withTimestamp (unstamped : header.timestamp = none)
    (borrowed : timestamp.id = e.messagingId) (uri : String) :
    (e.withTimestamp header timestamp).part? { header with timestamp := some timestamp } uri =
      e.part? header uri := by
  unfold part?
  by_cases messaging : uri = "#" ++ e.messagingId
  · rw [if_pos messaging]
    exact if_pos messaging
  · have notStamped : (uri == "#" ++ timestamp.id) = false := by
      rw [borrowed, beq_eq_false_iff_ne]
      exact messaging
    have sameParts : (e.withTimestamp header timestamp).attachment? = e.attachment? := rfl
    rw [unstamped, sameParts]
    simp only [Option.filter_some, notStamped, Option.filter_none]
    rfl

/-- A timestamp that borrows the id of the messaging header escapes every check of the
references. -/
theorem IsAccepted.withTimestamp
    (accepted : e.IsAccepted suite credentials now header signature certificate)
    (unstamped : header.timestamp = none) (borrowed : timestamp.id = e.messagingId)
    (current : checkExpiry now (some timestamp) = .ok ()) :
    (e.withTimestamp header timestamp).IsAccepted suite credentials now
      { header with timestamp := some timestamp } signature certificate :=
  { accepted with
    hasHeader := rfl
    current
    covered :=
      { holds := by
          intro reference member
          rw [part?_withTimestamp unstamped borrowed]
          exact accepted.covered.holds reference member
        complete := by
          intro uri required
          apply accepted.covered.complete
          simp only [requiredReferences, Envelope.withTimestamp, secured, borrowed, unstamped,
            Option.map_some, Option.map_none, Option.toList_some, Option.toList_none,
            List.append_nil, List.mem_append, List.mem_singleton] at required ⊢
          rcases required with (header | again) | attached
          · exact .inl header
          · exact .inl (again ▸ List.mem_cons_self)
          · exact .inr attached } }

theorem verify_withTimestamp (accepted : e.verify suite credentials now = .ok verified)
    (hasHeader : e.security = some header) (unstamped : header.timestamp = none)
    (borrowed : timestamp.id = e.messagingId)
    (current : checkExpiry now (some timestamp) = .ok ()) :
    (e.withTimestamp header timestamp).verify suite credentials now =
      .ok { verified with hasTimestamp := true } := by
  obtain ⟨found, signature, certificate, isAccepted, rfl⟩ := verify_eq_ok.mp accepted
  obtain rfl := Option.some.inj (hasHeader.symm.trans isAccepted.hasHeader)
  exact (isAccepted.withTimestamp unstamped borrowed current).verify_eq

/-! ## A sample without a timestamp -/

def unstampedInfo (suite : Suite) (e : Envelope) : SignedInfo :=
  signedInfoOf suite .ed25519 .sha256
    [("#" ++ e.messagingId, e.messagingBytes), ("#" ++ e.bodyId, e.bodyBytes)]

def unstampedSignature (suite : Suite) (entry : KeyEntry) (e : Envelope) : Signature :=
  { id := "SIG-1"
    signedInfo := e.unstampedInfo suite
    value := entry.pair.sign suite (e.unstampedInfo suite).bytes
    key := keyReferenceTo suite .issuerSerial e.tokenId entry.certificate }

def unstampedSecurity (suite : Suite) (entry : KeyEntry) (e : Envelope) : SecurityHeader :=
  { timestamp := none, token := none, signature := some (e.unstampedSignature suite entry) }

theorem covers_unstampedInfo (unstamped : header.timestamp = none)
    (distinct : e.bodyId ≠ e.messagingId) (bare : e.attachments = []) :
    (e.unstampedInfo suite).Covers suite .sha256 (e.secured header) header where
  holds := by
    intro reference member
    simp only [unstampedInfo, signedInfoOf, List.map_cons, List.map_nil, List.mem_cons,
      List.not_mem_nil, or_false] at member
    rcases member with rfl | rfl
    · exact ⟨rfl, _, (e.secured header).part?_messagingId header, rfl⟩
    · exact ⟨rfl, _, part?_bodyId (e := e.secured header) distinct, rfl⟩
  complete := by
    intro uri required
    simp only [requiredReferences, secured, unstamped, bare, Option.map_none, Option.toList_none,
      List.map_nil, List.append_nil, List.mem_cons, List.not_mem_nil, or_false] at required
    rcases required with rfl | rfl
    · exact ⟨_, List.mem_cons_self, rfl⟩
    · exact ⟨_, List.mem_cons_of_mem _ List.mem_cons_self, rfl⟩

theorem isAccepted_unstamped {entry : KeyEntry} (canSign : entry.CanSign suite)
    (recognized : credentials.Recognizes suite .issuerSerial entry.certificate)
    (algorithm : credentials.signature = .ed25519) (digest : credentials.digest = .sha256)
    (distinct : e.bodyId ≠ e.messagingId) (bare : e.attachments = [])
    (begun : entry.certificate.notBefore.toInt ≤ now.seconds)
    (notOver : now.seconds ≤ entry.certificate.notAfter.toInt) :
    (e.secured (e.unstampedSecurity suite entry)).IsAccepted suite credentials now
      (e.unstampedSecurity suite entry) (e.unstampedSignature suite entry)
      entry.certificate where
  hasHeader := rfl
  hasSignature := rfl
  algorithm := algorithm.symm
  resolved := resolveCertificate_keyReferenceTo canSign.encodable recognized e.tokenId
  trusted := isTrusted_of_recognizes recognized
  window := checkWindow_eq_ok begun notOver
  covered := by
    rw [digest]
    exact covers_unstampedInfo rfl distinct bare
  genuine := by
    rw [canSign.publicHalf]
    exact canSign.accepts _
  current := rfl

def samplePull : Envelope where
  soap := .v12
  messagingId := "eb-1"
  bodyId := "body-1"
  unit := .pullRequest
    { timestamp := { seconds := 1700000000, nanos := 123000000 }, messageId := "m-1",
      refToMessageId := none } "urn:mpc:default"
  security := none
  attachments := []

def sampleUnstampedHeader : SecurityHeader :=
  samplePull.unstampedSecurity (Suite.standardFor samplePair) sampleEntry

theorem verify_sampleUnstamped :
    (samplePull.secured sampleUnstampedHeader).verify (Suite.standardFor samplePair)
        (sampleCredentials .issuerSerial) sampleArrival =
      .ok { certificate := sampleCertificate, reference := .issuerSerial,
            hasTimestamp := false } :=
  (isAccepted_unstamped sampleEntry_canSign (sampleCredentials_recognizes .issuerSerial _) rfl rfl
    (by decide) rfl (by decide) (by decide)).verify_eq

def sampleBorrower : SecurityTimestamp :=
  { id := "eb-1", created := .ofSeconds 1700000060, expires := none }

def sampleStamped : Envelope :=
  (samplePull.secured sampleUnstampedHeader).withTimestamp sampleUnstampedHeader sampleBorrower

theorem verify_sampleStamped :
    sampleStamped.verify (Suite.standardFor samplePair) (sampleCredentials .issuerSerial)
        sampleArrival =
      .ok { certificate := sampleCertificate, reference := .issuerSerial,
            hasTimestamp := true } :=
  verify_withTimestamp verify_sampleUnstamped rfl rfl rfl rfl

/-- The request is accepted with a timestamp that nobody signed, and this one is
reported. -/
theorem not_coversTimestamp_sampleStamped :
    (∃ verified, sampleStamped.verify (Suite.standardFor samplePair)
        (sampleCredentials .issuerSerial) sampleArrival = .ok verified ∧
          verified.hasTimestamp = true) ∧
      ¬ sampleStamped.CoversTimestamp (Suite.standardFor samplePair) .sha256 := by
  refine ⟨⟨_, verify_sampleStamped, rfl⟩, ?_⟩
  have digests : ∀ data ∈ [samplePull.messagingBytes, samplePull.bodyBytes],
      Suite.standard.digest .sha256 sampleBorrower.bytes ≠
        Suite.standard.digest .sha256 data := by decide +kernel
  intro covers
  obtain ⟨header, signature, certificate, isAccepted, -⟩ := verify_eq_ok.mp verify_sampleStamped
  obtain rfl := Option.some.inj isAccepted.hasHeader
  rcases (isAccepted.covers_iff_isFreeId rfl).mp covers with ⟨free, -⟩ | ⟨data, other, same⟩
  · exact free rfl
  · cases other with
    | messaging =>
        rw [sampleStamped, withTimestamp, messagingBytes_secured, messagingBytes_secured] at same
        exact digests _ List.mem_cons_self same
    | body =>
        rw [sampleStamped, withTimestamp, bodyBytes_secured, bodyBytes_secured] at same
        exact digests _ (List.mem_cons_of_mem _ List.mem_cons_self) same
    | attachment first => cases first

end Envelope

end Ebms
