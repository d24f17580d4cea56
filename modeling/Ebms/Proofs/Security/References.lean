import Ebms.Security.Verification
import Ebms.Proofs.Outcome
import Ebms.Proofs.Text.Cutting

/-! # What references resolve to

A reference by id names the messaging header, the body or the timestamp, in this
order where ids collide; a reference by content id names the first attachment of
that id.  The check of the references succeeds exactly when each of them states
the digest of the part it resolves to and every part is referenced. -/

set_option autoImplicit false

namespace Ebms

@[simp] theorem idReference_inj {first second : String} :
    "#" ++ first = "#" ++ second ↔ first = second := by
  constructor
  · intro same
    have rest := congrArg (Text.after? "#") same
    rw [Text.after?_append, Text.after?_append] at rest
    exact Option.some.inj rest
  · intro same
    rw [same]

theorem contentReference_ne_idReference (contentId id : String) :
    "cid:" ++ contentId ≠ "#" ++ id := by
  intro same
  have start := congrArg (fun text : String => text.toList.head?) same
  simp [String.toList_append] at start

theorem after?_idReference (id : String) : Text.after? "cid:" ("#" ++ id) = none := by
  cases read : Text.after? "cid:" ("#" ++ id) with
  | none => rfl
  | some contentId =>
      exact absurd (Text.eq_append_of_after? read).symm
        (contentReference_ne_idReference contentId id)

namespace Envelope

variable (e : Envelope) (header : SecurityHeader)

theorem part?_messagingId : e.part? header ("#" ++ e.messagingId) = some e.messagingBytes := by
  rw [part?, if_pos rfl]

theorem part?_contentId (contentId : String) :
    e.part? header ("cid:" ++ contentId) = (e.attachment? contentId).map (·.data) := by
  have noTimestamp : (header.timestamp.filter fun t => "cid:" ++ contentId == "#" ++ t.id) =
      none := by
    simp [Option.filter_eq_none_iff, contentReference_ne_idReference]
  rw [part?, if_neg (contentReference_ne_idReference _ _),
    if_neg (contentReference_ne_idReference _ _), noTimestamp, Text.after?_append]
  rfl

variable {e header}

theorem part?_bodyId (distinct : e.bodyId ≠ e.messagingId) :
    e.part? header ("#" ++ e.bodyId) = some e.bodyBytes := by
  rw [part?, if_neg (by simpa using distinct), if_pos rfl]

theorem part?_timestamp {timestamp : SecurityTimestamp}
    (present : header.timestamp = some timestamp) (notMessaging : timestamp.id ≠ e.messagingId)
    (notBody : timestamp.id ≠ e.bodyId) :
    e.part? header ("#" ++ timestamp.id) = some timestamp.bytes := by
  rw [part?, if_neg (by simpa using notMessaging), if_neg (by simpa using notBody), present,
    Option.filter_some, if_pos (by simp)]

theorem part?_id {id : String} {data : Bytes} (resolved : e.part? header ("#" ++ id) = some data) :
    (id = e.messagingId ∧ data = e.messagingBytes) ∨
      (id ≠ e.messagingId ∧ id = e.bodyId ∧ data = e.bodyBytes) ∨
      ∃ timestamp, header.timestamp = some timestamp ∧ id = timestamp.id ∧
        data = timestamp.bytes := by
  rw [part?] at resolved
  split at resolved
  case isTrue same =>
    exact .inl ⟨idReference_inj.mp same, (Option.some.inj resolved).symm⟩
  case isFalse notMessaging =>
    rw [idReference_inj] at notMessaging
    split at resolved
    case isTrue same =>
      exact .inr (.inl ⟨notMessaging, idReference_inj.mp same, (Option.some.inj resolved).symm⟩)
    case isFalse =>
      split at resolved
      case h_1 timestamp found =>
        rw [Option.filter_eq_some_iff, beq_iff_eq, idReference_inj] at found
        exact .inr (.inr ⟨timestamp, found.1, found.2, (Option.some.inj resolved).symm⟩)
      case h_2 =>
        rw [after?_idReference] at resolved
        cases resolved

end Envelope

/-! ## The check of the references -/

/-- The signed info states the digest of each part that it references, and it
references every part. -/
structure SignedInfo.Covers (suite : Suite) (demanded : DigestAlgorithm) (e : Envelope)
    (header : SecurityHeader) (info : SignedInfo) : Prop where
  holds : ∀ reference ∈ info.references, reference.algorithm = demanded ∧
    ∃ data, e.part? header reference.uri = some data ∧
      suite.digest demanded data = reference.value
  complete : ∀ uri ∈ e.requiredReferences header, ∃ reference ∈ info.references,
    reference.uri = uri

variable {suite : Suite} {demanded : DigestAlgorithm} {e : Envelope} {header : SecurityHeader}

theorem checkReference_eq_ok {reference : PartDigest} :
    checkReference suite demanded e header reference = .ok () ↔
      reference.algorithm = demanded ∧ ∃ data, e.part? header reference.uri = some data ∧
        suite.digest demanded data = reference.value := by
  rw [checkReference]
  split
  case isTrue mismatch => simp [mismatch]
  case isFalse exact =>
    rw [Decidable.not_not] at exact
    cases e.part? header reference.uri <;> simp [exact]

theorem checkReferences_eq_ok {info : SignedInfo} :
    checkReferences suite demanded e header info = .ok () ↔
      info.Covers suite demanded e header := by
  have each : info.references.forM (checkReference suite demanded e header) = .ok () ↔
      ∀ reference ∈ info.references, reference.algorithm = demanded ∧
        ∃ data, e.part? header reference.uri = some data ∧
          suite.digest demanded data = reference.value := by
    simp only [forM_eq_ok, checkReference_eq_ok]
  rw [checkReferences, bind_eq_ok]
  constructor
  · rintro ⟨_, holds, complete⟩
    refine ⟨each.mp holds, ?_⟩
    split at complete
    case h_1 => cases complete
    case h_2 none =>
      intro uri required
      have covered := List.find?_eq_none.mp none uri required
      simpa using covered
  · intro covers
    have none : (e.requiredReferences header).find?
        (fun uri => !info.references.any (·.uri == uri)) = none := by
      rw [List.find?_eq_none]
      intro uri required
      simpa using covers.complete uri required
    refine ⟨(), each.mpr covers.holds, ?_⟩
    rw [none]

theorem SignedInfo.Covers.exists_reference {info : SignedInfo}
    (covers : info.Covers suite demanded e header) {contentId : String} {found : Attachment}
    (first : e.attachment? contentId = some found) :
    ∃ reference ∈ info.references, reference.uri = "cid:" ++ contentId ∧
      suite.digest demanded found.data = reference.value := by
  have named : found.contentId = contentId := by
    simpa using List.find?_some first
  have required : "cid:" ++ contentId ∈ e.requiredReferences header := by
    rw [← named]
    exact List.mem_append_right _ (List.mem_map_of_mem (List.mem_of_find?_eq_some first))
  obtain ⟨reference, member, uri⟩ := covers.complete _ required
  obtain ⟨-, data, resolved, digest⟩ := covers.holds reference member
  rw [uri, Envelope.part?_contentId, first, Option.map_some, Option.some.injEq] at resolved
  exact ⟨reference, member, uri, resolved ▸ digest⟩

end Ebms
