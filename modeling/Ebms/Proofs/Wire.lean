import Ebms.Wire
import Ebms.Proofs.Envelope.Documents
import Ebms.Proofs.Multipart.Messages

/-! # Messages survive the wire

An envelope that has been written, with or without attachments around it, is
read back exactly, with its instants as they are written. -/

set_option autoImplicit false

namespace Ebms

open Multipart

/-- An envelope that a message parted by the boundary carries unchanged. -/
structure Envelope.IsCarried (boundary : String) (e : Envelope) : Prop where
  fourDigitYears : e.HasFourDigitYears
  statesErrors : e.unit.StatesErrors
  plainAttachments : ∀ a ∈ e.attachments, a.IsPlain
  validBoundary : IsBoundary boundary
  absentFromDocument : IsAbsent boundary e.document
  absentFromAttachments : ∀ a ∈ e.attachments, IsAbsent boundary a.data

theorem isMultipart_of_toList {text : String} {front rest : List Char}
    (shape : text.toList = front ++ rest) (exact : front = "multipart/related".toList) :
    isMultipart text = true := by
  have noBlank : (front ++ rest).dropWhile Text.isBlank = front ++ rest := by
    have start : front = 'm' :: "ultipart/related".toList := by
      rw [exact]
      decide
    rw [start, List.cons_append, List.dropWhile_cons_of_neg (by decide)]
  have lower : front.map Char.toLower = front := by
    rw [exact]
    decide
  rw [isMultipart, Text.startsWith, ← exact, Text.asciiLower, Text.stripStart, shape, noBlank,
    String.toList_ofList, String.toList_ofList, List.map_append, lower,
    List.isPrefixOf_iff_prefix]
  exact List.prefix_append _ _

theorem isMultipart_contentType (boundary soapType : String) :
    isMultipart (contentType boundary soapType) = true := by
  have shape : (contentType boundary soapType).toList = "multipart/related".toList ++
      ("; boundary=\"" ++ boundary ++ "\"; type=\"" ++ soapType ++ "\"; start=\"<"
        ++ rootContentId ++ ">\"").toList := by
    have first : "multipart/related; boundary=\"".toList =
        "multipart/related".toList ++ "; boundary=\"".toList := by decide
    unfold contentType
    simp only [String.toList_append, List.append_assoc]
    rw [first, List.append_assoc]
  exact isMultipart_of_toList shape rfl

theorem isMultipart_mediaType (soap : SoapVersion) :
    isMultipart (soap.mediaType ++ "; charset=UTF-8") = false := by
  cases soap <;> decide

theorem not_all_isBlankByte {body : Bytes} {first : UInt8} (start : body.head? = some first)
    (notBlank : isBlankByte first = false) : body.all isBlankByte = false := by
  cases body with
  | nil => cases start
  | cons byte rest =>
      rw [List.head?_cons, Option.some.injEq] at start
      simp [start, notBlank]

theorem head?_document (e : Envelope) : e.document.head? = some 0x3C := by
  have declaration : Markup.declaration = 0x3C :: Markup.declaration.tail := by decide
  rw [Envelope.document, Markup.document, declaration]
  rfl

theorem head?_write (boundary soapType : String) (soap : Bytes) (attachments : List Attachment) :
    (write boundary soapType soap attachments).head? = some 0x2D := by
  rw [write_eq]
  rfl

theorem decodeRelated_eq_ok {contentType : String} {body : Bytes} {e : Envelope} :
    decodeRelated contentType body = .ok e ↔
      ∃ related envelope, read contentType body = .ok related ∧
        Envelope.ofDocument related.root = .ok envelope ∧
        { envelope with attachments := related.attachments } = e := by
  unfold decodeRelated
  cases read contentType body with
  | error fault =>
      constructor
      · intro success
        cases success
      · rintro ⟨related, envelope, none, -, -⟩
        cases none
  | ok related =>
      simp only [bind_eq_ok]
      constructor
      · rintro ⟨envelope, document, same⟩
        exact ⟨related, envelope, rfl, document, Except.ok.inj same⟩
      · rintro ⟨found, envelope, same, document, rfl⟩
        cases same
        exact ⟨envelope, document, rfl⟩

namespace Envelope

variable {boundary : String} {e : Envelope}

theorem decode_encode_of_nil (noAttachments : e.attachments = []) :
    decode (some (e.encode boundary).contentType) (e.encode boundary).body =
      (ofDocument e.document).map some := by
  have empty : e.attachments.isEmpty = true := List.isEmpty_iff.mpr noAttachments
  have nonblank := not_all_isBlankByte (head?_document e) (by decide)
  rw [encode, if_pos empty]
  simp only [decode, nonblank, Bool.false_eq_true, if_false, Option.filter_some,
    isMultipart_mediaType]

theorem decode_encode_of_ne_nil (someAttachments : e.attachments ≠ []) :
    decode (some (e.encode boundary).contentType) (e.encode boundary).body =
      (decodeRelated (contentType boundary e.soap.mediaType)
        (write boundary e.soap.mediaType e.document e.attachments)).map some := by
  have nonempty : ¬ e.attachments.isEmpty = true := by
    rwa [List.isEmpty_iff]
  have nonblank := not_all_isBlankByte
    (head?_write boundary e.soap.mediaType e.document e.attachments) (by decide)
  rw [encode, if_neg nonempty]
  simp only [decode, nonblank, Bool.false_eq_true, if_false, Option.filter_some,
    isMultipart_contentType, if_true]

theorem decode_encode_eq (carried : e.IsCarried boundary) :
    decode (some (e.encode boundary).contentType) (e.encode boundary).body =
      .ok (some e.asWritten) := by
  have document := ofDocument_document carried.fourDigitYears carried.statesErrors
  by_cases noAttachments : e.attachments = []
  · have whole : { e.asWritten with attachments := [] } = e.asWritten := by
      rw [← noAttachments]
      rfl
    rw [decode_encode_of_nil noAttachments, document, whole]
    rfl
  · have parts := read_write carried.validBoundary e.soap carried.plainAttachments
      carried.absentFromDocument carried.absentFromAttachments
    rw [decode_encode_of_ne_nil noAttachments, map_eq_ok]
    exact ⟨e.asWritten, decodeRelated_eq_ok.mpr ⟨_, _, parts, document, rfl⟩, rfl⟩

/-- Reading undoes writing: all but the instants is as it was, these are cut to milliseconds if
they are regular, and what signatures digest is the same before and after. -/
theorem decode_encode (carried : e.IsCarried boundary) :
    ∃ received, decode (some (e.encode boundary).contentType) (e.encode boundary).body =
        .ok (some received) ∧
      received = e.asWritten ∧ (received = e.toMilliseconds ↔ e.IsRegular) ∧
      received.messagingBytes = e.messagingBytes ∧
      received.bodyBytes = e.bodyBytes ∧
      (received.security.bind (·.timestamp)).map SecurityTimestamp.bytes =
        (e.security.bind (·.timestamp)).map SecurityTimestamp.bytes ∧
      received.signature?.map (·.signedInfo.bytes) = e.signature?.map (·.signedInfo.bytes) := by
  refine ⟨e.asWritten, decode_encode_eq carried, rfl, e.asWritten_eq_toMilliseconds_iff,
    e.messagingBytes_asWritten, e.bodyBytes_asWritten, ?_, ?_⟩
  · cases security : e.security with
    | none => simp [asWritten, withTimes, security]
    | some header =>
        cases timestamp : header.timestamp <;>
          simp [asWritten, withTimes, SecurityHeader.withTimes, security, timestamp]
  · cases security : e.security with
    | none => simp [asWritten, withTimes, signature?, security]
    | some header =>
        simp [asWritten, withTimes, SecurityHeader.withTimes, signature?, security]

def sampleOrder : Envelope where
  soap := .v12
  messagingId := "eb-1"
  bodyId := "body-1"
  unit := .user
    { info :=
        { timestamp := { seconds := 1700000000, nanos := 123456789 }, messageId := "m-1",
          refToMessageId := none }
      channel := none
      sender := { id := "seller", idType := none, role := "supplier" }
      receiver := { id := "buyer", idType := none, role := "customer" }
      agreement := none
      service := "orders"
      serviceType := none
      action := "submit"
      conversation := "c-1"
      properties := []
      parts := [{ href := "cid:p1@test", properties := [] }] }
  security := none
  attachments := [{ contentId := "p1@test", mediaType := "text/plain", data := [0x68, 0x69] }]

theorem sampleOrder_attachments_isPlain : ∀ a ∈ sampleOrder.attachments, a.IsPlain := by
  intro a member
  rw [sampleOrder, List.mem_singleton] at member
  subst member
  exact
    { idNoBreak := by unfold HasNoBreak; decide
      idPlain := ⟨by decide, by decide⟩
      typeNoBreak := by unfold HasNoBreak; decide
      typeTrimmed := by decide }

theorem isCarried_sampleOrder {t : Instant} (fourDigitYear : t.HasFourDigitYear)
    (absent : IsAbsent "MIMEBoundary_7f" (sampleOrder.withTimes fun _ => t).document) :
    (sampleOrder.withTimes fun _ => t).IsCarried "MIMEBoundary_7f" where
  fourDigitYears := by
    refine ⟨fourDigitYear, ?_⟩
    intro header present
    cases present
  statesErrors := trivial
  plainAttachments := sampleOrder_attachments_isPlain
  validBoundary := isBoundary_of_word (by decide)
  absentFromDocument := absent
  absentFromAttachments := by
    intro a member
    have only : a ∈ sampleOrder.attachments := member
    rw [sampleOrder, List.mem_singleton] at only
    subst only
    exact isAbsent_of_byte (by decide : 0x5F ∈ Bytes.ofText "MIMEBoundary_7f") (by decide)

theorem decode_encode_sampleOrder :
    sampleOrder.IsCarried "MIMEBoundary_7f" ∧
      ∃ received, decode (some (sampleOrder.encode "MIMEBoundary_7f").contentType)
          (sampleOrder.encode "MIMEBoundary_7f").body = .ok (some received) ∧
        received = sampleOrder.asWritten ∧
        (received = sampleOrder.toMilliseconds ↔ sampleOrder.IsRegular) ∧
        received.messagingBytes = sampleOrder.messagingBytes ∧
        received.bodyBytes = sampleOrder.bodyBytes ∧
        (received.security.bind (·.timestamp)).map SecurityTimestamp.bytes =
          (sampleOrder.security.bind (·.timestamp)).map SecurityTimestamp.bytes ∧
        received.signature?.map (·.signedInfo.bytes) =
          sampleOrder.signature?.map (·.signedInfo.bytes) := by
  have carried : sampleOrder.IsCarried "MIMEBoundary_7f" :=
    isCarried_sampleOrder (t := { seconds := 1700000000, nanos := 123456789 })
      ⟨by decide, by decide⟩
      (isAbsent_of_byte (by decide : 0x5F ∈ Bytes.ofText "MIMEBoundary_7f") (by decide +kernel))
  exact ⟨carried, decode_encode carried⟩

def sampleOverfull : Envelope := sampleOrder.withTimes fun _ => .sampleOverfull

/-- It is read back a second later. -/
theorem decode_encode_ne_sampleOverfull :
    sampleOverfull.IsCarried "MIMEBoundary_7f" ∧
      ∃ received, decode (some (sampleOverfull.encode "MIMEBoundary_7f").contentType)
          (sampleOverfull.encode "MIMEBoundary_7f").body = .ok (some received) ∧
        received.unit.info.timestamp = { seconds := 1700006165, nanos := 333000000 } ∧
        received ≠ sampleOverfull.toMilliseconds := by
  have carried : sampleOverfull.IsCarried "MIMEBoundary_7f" :=
    isCarried_sampleOrder ⟨by decide, by decide⟩
      (isAbsent_of_byte (by decide : 0x5F ∈ Bytes.ofText "MIMEBoundary_7f") (by decide +kernel))
  refine ⟨carried, sampleOverfull.asWritten, decode_encode_eq carried, by decide, fun same => ?_⟩
  have time := congrArg (fun e : Envelope => e.unit.info.timestamp.seconds) same
  exact absurd time (by decide)

end Envelope

end Ebms
