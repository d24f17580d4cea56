import Ebms.Proofs.Received
import Ebms.Proofs.Envelope.Refusals

/-! # What framing makes of attachments

Content ids and media types stand in the header lines of their part as they are, with
nothing escaped.  So a line break in one of them starts a header line of its own, and
blanks and brackets at its ends are taken for those of the line.  What it spoils is its
own part and no other: parts are told apart by the boundary alone. -/

set_option autoImplicit false

namespace Ebms

open Multipart

/-! ## One attachment -/

/-- What is read from the part that is written for an attachment. -/
def Attachment.reframed (a : Attachment) : Except MultipartFault Attachment :=
  Part.ofBytes (pieceOfAttachment a).content >>= Part.attachment

namespace Attachment

variable {a read : Attachment}

theorem isPlain_of_reframed (success : a.reframed = .ok read) : read.IsPlain := by
  obtain ⟨part, made, success⟩ := bind_eq_ok.mp success
  exact isPlain_of_attachment (isClean_of_ofBytes made) success

/-- Without line breaks the data are safe, and of the header values nothing is lost but
blanks and brackets at their ends. -/
theorem reframed_of_noBreak (typeNoBreak : HasNoBreak a.mediaType)
    (idNoBreak : HasNoBreak a.contentId) :
    a.reframed = .ok
      { contentId := stripBrackets a.contentId
        mediaType := Text.trim a.mediaType
        data := a.data } := by
  rw [reframed, pieceOfAttachment, ofBytes_pieceOf typeNoBreak idNoBreak, ok_bind]
  rfl

theorem reframed_eq_self_iff : a.reframed = .ok a ↔ a.IsPlain := by
  constructor
  · exact isPlain_of_reframed
  · intro plain
    rw [reframed_of_noBreak plain.typeNoBreak plain.idNoBreak, plain.typeTrimmed,
      stripBrackets_eq_self plain.idPlain]

end Attachment

/-! ## Whole messages -/

theorem isQuiet_of_isAbsent {boundary : String} {piece : Piece}
    (absent : IsAbsent boundary piece.content) : piece.IsQuiet (delimiterOf boundary) where
  head := by
    refine quiet_of_isAbsent (fun inside => absent (inside.trans ?_)) _ _
    exact (List.prefix_append_of_prefix (List.prefix_append _ _)).isInfix
  data := by
    refine quiet_of_isAbsent (fun inside => absent (inside.trans ?_)) _ _
    exact (List.suffix_append _ _).isInfix

theorem read_write_eq_ok {boundary : String} (valid : IsBoundary boundary) (version : SoapVersion)
    {soap : Bytes} {attachments : List Attachment} (rootAbsent : IsAbsent boundary soap)
    (absent : ∀ a ∈ attachments, IsAbsent boundary (pieceOfAttachment a).content)
    {related : Related} :
    Multipart.read (contentType boundary version.mediaType)
        (write boundary version.mediaType soap attachments) = .ok related ↔
      related.root = soap ∧ attachments.mapM Attachment.reframed = .ok related.attachments := by
  have quiet : ∀ a ∈ attachments, (pieceOfAttachment a).IsQuiet (delimiterOf boundary) :=
    fun a member => isQuiet_of_isAbsent (absent a member)
  unfold Attachment.reframed
  rw [read_write_eq valid version rootAbsent quiet, bind_eq_ok, mapM_bind_eq_ok]
  constructor
  · rintro ⟨parts, listed, success⟩
    obtain ⟨made, each, same⟩ := bind_eq_ok.mp success
    cases same
    exact ⟨rfl, parts, listed, each⟩
  · rintro ⟨rfl, parts, listed, each⟩
    exact ⟨parts, listed, by rw [each, ok_bind]⟩

namespace Envelope

variable {boundary : String} {e : Envelope} {received : Option Envelope}

/-- Which messages are read, and as what: whatever the header values, every attachment is
at its place, read from its own part, and all else is what was written. -/
theorem decode_encode_eq_ok (validBoundary : IsBoundary boundary)
    (absentFromDocument : IsAbsent boundary e.document)
    (absentFromParts : ∀ a ∈ e.attachments, IsAbsent boundary (pieceOfAttachment a).content) :
    decode (some (e.encode boundary).contentType) (e.encode boundary).body = .ok received ↔
      (e.HasFourDigitYears ∧ e.unit.StatesErrors) ∧
        ∃ attachments, e.attachments.mapM Attachment.reframed = .ok attachments ∧
          received = some { e.asWritten with attachments } := by
  by_cases noAttachments : e.attachments = []
  · simp only [decode_encode_of_nil noAttachments, map_eq_ok, ofDocument_document_eq_ok,
      noAttachments]
    constructor
    · rintro ⟨envelope, ⟨readable, rfl⟩, rfl⟩
      exact ⟨readable, [], rfl, rfl⟩
    · rintro ⟨readable, attachments, none, rfl⟩
      cases none
      exact ⟨_, ⟨readable, rfl⟩, rfl⟩
  · simp only [decode_encode_of_ne_nil noAttachments, map_eq_ok, decodeRelated_eq_ok,
      read_write_eq_ok validBoundary e.soap absentFromDocument absentFromParts]
    constructor
    · rintro ⟨envelope, ⟨related, parsed, ⟨root, reframed⟩, document, rfl⟩, rfl⟩
      rw [root, ofDocument_document_eq_ok] at document
      obtain ⟨readable, rfl⟩ := document
      exact ⟨readable, related.attachments, reframed, rfl⟩
    · rintro ⟨readable, attachments, reframed, rfl⟩
      have document := ofDocument_document_eq_ok.mpr ⟨readable, rfl⟩
      exact ⟨_, ⟨{ root := e.document, attachments }, _, ⟨rfl, reframed⟩, document, rfl⟩, rfl⟩

/-- A message that is read at all gives its envelope back, as written, exactly when framing
carries every attachment unchanged; otherwise the attachments differ, one by one, and nothing
else. -/
theorem decode_encode_eq_iff (validBoundary : IsBoundary boundary)
    (absentFromDocument : IsAbsent boundary e.document)
    (absentFromParts : ∀ a ∈ e.attachments, IsAbsent boundary (pieceOfAttachment a).content)
    (decoded : decode (some (e.encode boundary).contentType) (e.encode boundary).body =
      .ok received) :
    (received = some e.asWritten ↔ ∀ a ∈ e.attachments, a.IsPlain) ∧
      (e.IsRegular → (received = some e.toMilliseconds ↔ ∀ a ∈ e.attachments, a.IsPlain)) ∧
      ∃ attachments, e.attachments.mapM Attachment.reframed = .ok attachments ∧
        received = some { e.asWritten with attachments } := by
  obtain ⟨-, attachments, reframed, rfl⟩ :=
    (decode_encode_eq_ok validBoundary absentFromDocument absentFromParts).mp decoded
  have whole : some { e.asWritten with attachments } = some e.asWritten ↔
      ∀ a ∈ e.attachments, a.IsPlain := by
    constructor
    · intro same
      -- Whatever is received is plain, and the attachments received are the ones sent.
      rw [same] at decoded
      exact (of_decode decoded).2.2
    · intro plain
      have kept : e.attachments.mapM Attachment.reframed = .ok (e.attachments.map id) :=
        mapM_eq_ok_map fun a member => Attachment.reframed_eq_self_iff.mpr (plain a member)
      rw [kept, List.map_id] at reframed
      rw [← Except.ok.inj reframed]
      rfl
  refine ⟨whole, fun regular => ?_, attachments, reframed, rfl⟩
  rw [← e.asWritten_eq_toMilliseconds_iff.mpr regular]
  exact whole

/-! The sample with a second attachment, where the content id of the first closes its
brackets and goes on with header lines of its own. -/

def sampleSmuggled : Envelope :=
  { sampleOrder.toMilliseconds with
    attachments :=
      [{ contentId := "p1@test>\r\nContent-Type: text/html\r\nX-Note: <x"
         mediaType := "text/plain", data := [0x68, 0x69] },
        { contentId := "p2@test", mediaType := "text/plain", data := [0x6E, 0x6F] }] }

def sampleOverridden : Envelope :=
  { sampleOrder.toMilliseconds with
    attachments :=
      [{ contentId := "p1@test", mediaType := "text/html", data := [0x68, 0x69] },
        { contentId := "p2@test", mediaType := "text/plain", data := [0x6E, 0x6F] }] }

theorem sampleSmuggled_isAbsent :
    IsAbsent "MIMEBoundary_7f" sampleSmuggled.document ∧
      ∀ a ∈ sampleSmuggled.attachments,
        IsAbsent "MIMEBoundary_7f" (pieceOfAttachment a).content := by
  have underscore : 0x5F ∈ Bytes.ofText "MIMEBoundary_7f" := by decide
  refine ⟨isAbsent_of_byte underscore (by decide +kernel), fun a member => ?_⟩
  rw [sampleSmuggled, List.mem_cons, List.mem_singleton] at member
  rcases member with rfl | rfl <;> exact isAbsent_of_byte underscore (by decide +kernel)

theorem decode_encode_sampleSmuggled :
    decode (some (sampleSmuggled.encode "MIMEBoundary_7f").contentType)
        (sampleSmuggled.encode "MIMEBoundary_7f").body = .ok (some sampleOverridden) := by
  obtain ⟨absentFromDocument, absentFromParts⟩ := sampleSmuggled_isAbsent
  have fourDigitYears : sampleSmuggled.HasFourDigitYears := by
    refine ⟨⟨by decide, by decide⟩, ?_⟩
    intro header present
    cases present
  have reframed : sampleSmuggled.attachments.mapM Attachment.reframed =
      .ok sampleOverridden.attachments :=
    eq_ok_of_toOption (by decide +kernel)
  exact (decode_encode_eq_ok (isBoundary_of_word (by decide)) absentFromDocument
    absentFromParts).mpr ⟨⟨fourDigitYears, trivial⟩, _, reframed, rfl⟩

theorem decode_encode_eq_iff_sampleSmuggled :
    IsBoundary "MIMEBoundary_7f" ∧ IsAbsent "MIMEBoundary_7f" sampleSmuggled.document ∧
      (∀ a ∈ sampleSmuggled.attachments,
        IsAbsent "MIMEBoundary_7f" (pieceOfAttachment a).content) ∧
      decode (some (sampleSmuggled.encode "MIMEBoundary_7f").contentType)
          (sampleSmuggled.encode "MIMEBoundary_7f").body = .ok (some sampleOverridden) ∧
      (some sampleOverridden = some sampleSmuggled.asWritten ↔
        ∀ a ∈ sampleSmuggled.attachments, a.IsPlain) ∧
      (sampleSmuggled.IsRegular →
        (some sampleOverridden = some sampleSmuggled.toMilliseconds ↔
          ∀ a ∈ sampleSmuggled.attachments, a.IsPlain)) ∧
      ∃ attachments, sampleSmuggled.attachments.mapM Attachment.reframed = .ok attachments ∧
        some sampleOverridden = some { sampleSmuggled.asWritten with attachments } := by
  have validBoundary : IsBoundary "MIMEBoundary_7f" := isBoundary_of_word (by decide)
  obtain ⟨absentFromDocument, absentFromParts⟩ := sampleSmuggled_isAbsent
  exact ⟨validBoundary, absentFromDocument, absentFromParts, decode_encode_sampleSmuggled,
    decode_encode_eq_iff validBoundary absentFromDocument absentFromParts
      decode_encode_sampleSmuggled⟩

/-- A content id can override the media type of its attachment. -/
theorem decode_encode_ne_sampleSmuggled :
    IsBoundary "MIMEBoundary_7f" ∧ IsAbsent "MIMEBoundary_7f" sampleSmuggled.document ∧
      (∀ a ∈ sampleSmuggled.attachments,
        IsAbsent "MIMEBoundary_7f" (pieceOfAttachment a).content) ∧
      decode (some (sampleSmuggled.encode "MIMEBoundary_7f").contentType)
          (sampleSmuggled.encode "MIMEBoundary_7f").body = .ok (some sampleOverridden) ∧
      sampleOverridden ≠ sampleSmuggled.toMilliseconds := by
  obtain ⟨absentFromDocument, absentFromParts⟩ := sampleSmuggled_isAbsent
  exact ⟨isBoundary_of_word (by decide), absentFromDocument, absentFromParts,
    decode_encode_sampleSmuggled, by decide +kernel⟩

end Envelope

end Ebms
