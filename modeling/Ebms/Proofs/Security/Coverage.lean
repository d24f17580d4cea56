import Ebms.Proofs.Security.Transit

/-! # Which attachments a signature covers

The check of the references asks for a reference to every content id, and it
digests the first attachment of each.  An attachment behind another one of its
content id is never digested: an accepted message covers all of its attachments
exactly when each of them has the digest of one that is found by its id.  This
is so whenever no two attachments share their content id, and it is not so in
general. -/

set_option autoImplicit false

namespace Ebms.Envelope

/-- The data of every attachment has the digest that some reference by content id
in the verified signed info states. -/
def CoversAttachments (suite : Suite) (algorithm : DigestAlgorithm) (e : Envelope) : Prop :=
  ∃ signature, e.signature? = some signature ∧
    ∀ a ∈ e.attachments, ∃ reference ∈ signature.signedInfo.references,
      (∃ contentId, reference.uri = "cid:" ++ contentId) ∧
        suite.digest algorithm a.data = reference.value

/-- The data of every attachment has the digest of data that is found under some
content id. -/
def FindsAttachments (suite : Suite) (algorithm : DigestAlgorithm) (e : Envelope) : Prop :=
  ∀ a ∈ e.attachments, ∃ contentId found, e.attachment? contentId = some found ∧
    suite.digest algorithm a.data = suite.digest algorithm found.data

variable {suite : Suite} {credentials : Credentials} {now : Instant} {e : Envelope}
  {verified : Verified} {header : SecurityHeader} {signature : Signature}
  {certificate : Certificate}

theorem findsAttachments_of_nodup {algorithm : DigestAlgorithm}
    (distinct : (e.attachments.map (·.contentId)).Nodup) :
    e.FindsAttachments suite algorithm := by
  intro attachment member
  exact ⟨attachment.contentId, attachment, attachment?_of_mem distinct member, rfl⟩

theorem IsAccepted.covers_iff_finds
    (accepted : e.IsAccepted suite credentials now header signature certificate) :
    e.CoversAttachments suite credentials.digest ↔
      e.FindsAttachments suite credentials.digest := by
  have hasSignature : e.signature? = some signature := by
    rw [signature?, accepted.hasHeader, Option.bind_some, accepted.hasSignature]
  constructor
  · rintro ⟨other, present, covered⟩ attachment member
    rw [hasSignature, Option.some.injEq] at present
    subst present
    obtain ⟨reference, referenced, ⟨contentId, uri⟩, digest⟩ := covered attachment member
    obtain ⟨-, data, resolved, stated⟩ := accepted.covered.holds reference referenced
    rw [uri, part?_contentId, Option.map_eq_some_iff] at resolved
    obtain ⟨found, first, exact⟩ := resolved
    refine ⟨contentId, found, first, ?_⟩
    rw [digest, ← stated, exact]
  · intro finds
    refine ⟨signature, hasSignature, ?_⟩
    intro attachment member
    obtain ⟨contentId, found, first, same⟩ := finds attachment member
    obtain ⟨reference, referenced, uri, digest⟩ := accepted.covered.exists_reference first
    exact ⟨reference, referenced, ⟨contentId, uri⟩, same.trans digest⟩

/-- An accepted message covers its attachments exactly when each of them has the
digest of one that is found. -/
theorem coversAttachments_iff (accepted : e.verify suite credentials now = .ok verified) :
    e.CoversAttachments suite credentials.digest ↔
      e.FindsAttachments suite credentials.digest := by
  obtain ⟨header, signature, certificate, isAccepted, -⟩ := verify_eq_ok.mp accepted
  exact isAccepted.covers_iff_finds

/-- The verified order covers its only attachment, which is found. -/
theorem coversAttachments_iff_sampleSigned :
    (∃ verified, sampleSigned.verify (Suite.standardFor samplePair)
        (sampleCredentials .issuerSerial) sampleArrival = .ok verified) ∧
      (sampleSigned.CoversAttachments (Suite.standardFor samplePair) .sha256 ↔
        sampleSigned.FindsAttachments (Suite.standardFor samplePair) .sha256) := by
  have accepted := verify_like_sampleSigned (e := sampleSigned) rfl
    (sampleOrder_hasDistinctIds.congr rfl rfl rfl) (by decide)
  exact ⟨⟨_, accepted⟩, coversAttachments_iff accepted⟩

/-- Among distinct content ids nothing escapes the signature. -/
theorem coversAttachments_of_nodup (accepted : e.verify suite credentials now = .ok verified)
    (distinct : (e.attachments.map (·.contentId)).Nodup) :
    e.CoversAttachments suite credentials.digest := by
  obtain ⟨header, signature, certificate, isAccepted, -⟩ := verify_eq_ok.mp accepted
  exact isAccepted.covers_iff_finds.mpr (findsAttachments_of_nodup distinct)

/-! ## An attachment behind another one -/

def withAttachment (e : Envelope) (extra : Attachment) : Envelope :=
  { e with attachments := e.attachments ++ [extra] }

variable {extra found : Attachment}

theorem attachment?_withAttachment (hidden : e.attachment? extra.contentId = some found)
    (contentId : String) :
    (e.withAttachment extra).attachment? contentId = e.attachment? contentId := by
  rw [attachment?, withAttachment, List.find?_append]
  by_cases same : extra.contentId = contentId
  · subst same
    rw [attachment?] at hidden
    rw [attachment?, hidden]
    rfl
  · rw [List.find?_cons_of_neg (by simpa using same), List.find?_nil, Option.or_none]
    rfl

theorem part?_withAttachment (hidden : e.attachment? extra.contentId = some found)
    (uri : String) : (e.withAttachment extra).part? header uri = e.part? header uri := by
  have lookup : (e.withAttachment extra).attachment? = e.attachment? :=
    funext (attachment?_withAttachment hidden)
  unfold part?
  rw [lookup]
  rfl

/-- What is added under a content id that is taken escapes every check. -/
theorem IsAccepted.withAttachment
    (accepted : e.IsAccepted suite credentials now header signature certificate)
    (hidden : e.attachment? extra.contentId = some found) :
    (e.withAttachment extra).IsAccepted suite credentials now header signature certificate :=
  { accepted with
    covered :=
      { holds := by
          intro reference member
          rw [part?_withAttachment hidden]
          exact accepted.covered.holds reference member
        complete := by
          intro uri required
          have split : (e.withAttachment extra).requiredReferences header =
              e.requiredReferences header ++ ["cid:" ++ extra.contentId] := by
            simp [requiredReferences, Envelope.withAttachment, Attachment.href]
          rw [split, List.mem_append, List.mem_singleton] at required
          rcases required with old | rfl
          · exact accepted.covered.complete uri old
          · obtain ⟨reference, member, same, -⟩ := accepted.covered.exists_reference hidden
            exact ⟨reference, member, same⟩ } }

theorem verify_withAttachment (accepted : e.verify suite credentials now = .ok verified)
    (hidden : e.attachment? extra.contentId = some found) :
    (e.withAttachment extra).verify suite credentials now = .ok verified := by
  obtain ⟨header, signature, certificate, isAccepted, rfl⟩ := verify_eq_ok.mp accepted
  exact (isAccepted.withAttachment hidden).verify_eq

def sampleForgery : Attachment :=
  { contentId := "p1@test", mediaType := "text/plain", data := [0x6E, 0x6F] }

/-- The order is accepted with the forgery in it, whose digest no reference states. -/
theorem not_coversAttachments_sampleForgery :
    (∃ verified, (sampleSigned.withAttachment sampleForgery).verify
        (Suite.standardFor samplePair) (sampleCredentials .issuerSerial) sampleArrival =
          .ok verified) ∧
      ¬ (sampleSigned.withAttachment sampleForgery).CoversAttachments
        (Suite.standardFor samplePair) .sha256 := by
  have accepted := verify_like_sampleSigned (e := sampleSigned) rfl
    (sampleOrder_hasDistinctIds.congr rfl rfl rfl) (by decide)
  have hidden : sampleSigned.attachment? sampleForgery.contentId =
      some { contentId := "p1@test", mediaType := "text/plain", data := [0x68, 0x69] } := by
    decide
  have forged := verify_withAttachment accepted hidden
  refine ⟨⟨_, forged⟩, ?_⟩
  intro covers
  obtain ⟨header, signature, certificate, isAccepted, -⟩ := verify_eq_ok.mp forged
  obtain ⟨contentId, found, first, same⟩ := isAccepted.covers_iff_finds.mp covers sampleForgery
    (List.mem_append_right _ (List.mem_singleton_self _))
  -- Only the signed attachment is found, and its digest is another one.
  rw [attachment?_withAttachment hidden] at first
  have signed : found.data = [0x68, 0x69] := by
    have member := List.mem_of_find?_eq_some first
    rw [List.mem_singleton.mp member]
  rw [signed] at same
  revert same
  decide +kernel

end Ebms.Envelope
