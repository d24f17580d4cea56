import Ebms.Proofs.Multipart.Headers
import Ebms.Proofs.Multipart.Parameters

/-! # Multipart messages are read as they were written

A written body gives back its SOAP document and every attachment with its exact
data, as long as the boundary occurs in none of them and names nothing that a
content type would take for its own punctuation. -/

set_option autoImplicit false

namespace Ebms

open Multipart

/-- An attachment that framing carries unchanged. -/
structure Attachment.IsPlain (a : Attachment) : Prop where
  idNoBreak : HasNoBreak a.contentId
  idPlain : IsPlainId a.contentId
  typeNoBreak : HasNoBreak a.mediaType
  typeTrimmed : Text.trim a.mediaType = a.mediaType

namespace Multipart

/-- A boundary without the characters that end it where it stands: the quotation
mark and the semicolon of a content type, and line breaks. -/
def IsBoundary (boundary : String) : Prop :=
  ∀ c ∈ boundary.toList, c ∉ [';', '"', '\r', '\n']

theorem isBoundary_of_word {boundary : String}
    (word : boundary.toList.all (fun c => c.isAlphanum || c == '_') = true) :
    IsBoundary boundary := by
  intro c inside reserved
  have wordChar := List.all_eq_true.mp word c inside
  simp only [List.mem_cons, List.not_mem_nil, or_false] at reserved
  rcases reserved with rfl | rfl | rfl | rfl <;> revert wordChar <;> decide

def IsAbsent (boundary : String) (bytes : Bytes) : Prop :=
  ¬ Bytes.ofText boundary <:+: bytes

theorem isAbsent_of_byte {boundary : String} {bytes : Bytes} {byte : UInt8}
    (inBoundary : byte ∈ Bytes.ofText boundary) (notInBytes : byte ∉ bytes) :
    IsAbsent boundary bytes := by
  intro occurs
  exact notInBytes (occurs.subset inBoundary)

/-- There is a boundary for all byte strings: one longer than any of them. -/
theorem exists_isAbsent (parts : List Bytes) :
    ∃ boundary, IsBoundary boundary ∧ ∀ bytes ∈ parts, IsAbsent boundary bytes := by
  let boundary := String.ofList (List.replicate (parts.flatten.length + 1) 'b')
  have length : (Bytes.ofText boundary).length = parts.flatten.length + 1 := by
    simp [boundary, Bytes.ofText_ofList, String.utf8EncodeChar]
  refine ⟨boundary, ?_, ?_⟩
  · intro c member
    rw [String.toList_ofList] at member
    rw [List.eq_of_mem_replicate member]
    decide
  · intro bytes member occurs
    have short : bytes.length ≤ parts.flatten.length :=
      (List.sublist_flatten_of_mem member).length_le
    have long := occurs.length_le
    omega

def delimiterOf (boundary : String) : Bytes := dashes ++ Bytes.ofText boundary

theorem not_mem_boundary {boundary : String} (valid : IsBoundary boundary) {byte : UInt8}
    (ascii : byte.toNat < 128) (reserved : Char.ofNat byte.toNat ∈ [';', '"', '\r', '\n']) :
    byte ∉ Bytes.ofText boundary := by
  intro member
  obtain ⟨c, inside, code⟩ := Bytes.mem_ofText member ascii
  apply valid c inside
  rwa [← code, Char.ofNat_toNat] at reserved

theorem oneLine_delimiterOf {boundary : String} (valid : IsBoundary boundary) :
    OneLine (delimiterOf boundary) where
  nonempty := by simp [delimiterOf, dashes]
  noReturn := by
    have absent := not_mem_boundary valid (by decide : (0x0D : UInt8).toNat < 128) (by decide)
    simp [delimiterOf, dashes, absent]
  noFeed := by
    have absent := not_mem_boundary valid (by decide : (0x0A : UInt8).toNat < 128) (by decide)
    simp [delimiterOf, dashes, absent]

/-! ## The parameters of a content type -/

def writtenType (boundary soapType : String) : ContentType :=
  { mediaType := "multipart/related"
    parameters :=
      [{ name := " boundary", value := boundary, quoted := true, blanks := "" },
        { name := " type", value := soapType, quoted := true, blanks := "" },
        { name := " start", value := "<root.message@as4-core>", quoted := true, blanks := "" }] }

theorem text_writtenType (boundary soapType : String) :
    (writtenType boundary soapType).text = contentType boundary soapType := by
  have quoted (name value : String) :
      Parameter.text { name, value, quoted := true, blanks := "" } =
        name ++ ("=" ++ ("\"" ++ (value ++ "\""))) := by
    simp [Parameter.text, String.append_assoc]
  have first : "multipart/related; boundary=\"" =
      "multipart/related" ++ (";" ++ (" boundary" ++ ("=" ++ "\""))) := by decide
  have second : "\"; type=\"" = "\"" ++ (";" ++ (" type" ++ ("=" ++ "\""))) := by decide
  have third : "\"; start=\"<" ++ (rootContentId ++ ">\"") =
      "\"" ++ (";" ++ (" start" ++ ("=" ++ ("\"" ++ ("<root.message@as4-core>" ++ "\""))))) := by
    decide
  unfold writtenType ContentType.text contentType
  -- Both sides are compared only when they are the same pieces in the same order: texts that
  -- differ are compared character by character.
  rewrite [List.map_cons, List.map_cons, List.map_singleton, quoted, quoted, quoted,
    String.intercalate_cons_cons, String.intercalate_cons_cons, String.intercalate_cons_cons,
    String.intercalate_singleton, first, second]
  simp only [String.append_assoc]
  rewrite [third]
  rfl

theorem writtenType_isWellFormed {boundary : String} (valid : IsBoundary boundary)
    (version : SoapVersion) : (writtenType boundary version.mediaType).IsWellFormed where
  mediaType := by
    have noMark : ';' ∉ "multipart/related".toList := by decide
    exact noMark
  parameters := by
    intro p member
    simp only [writtenType, List.mem_cons, List.not_mem_nil, or_false] at member
    rcases member with rfl | rfl | rfl
    · have name : ';' ∉ " boundary".toList ∧ '=' ∉ " boundary".toList := by decide
      have noMark : ';' ∉ boundary.toList := fun inside => valid _ inside (by decide)
      have noQuote : '"' ∉ boundary.toList := fun inside => valid _ inside (by decide)
      exact ⟨name, ⟨noMark, noQuote⟩, rfl⟩
    · have name : ';' ∉ " type".toList ∧ '=' ∉ " type".toList := by decide
      exact ⟨name, by cases version <;> decide, rfl⟩
    · exact ⟨by decide, by decide, by decide⟩

theorem parameter?_boundary {boundary : String} (valid : IsBoundary boundary)
    (version : SoapVersion) :
    parameter? (contentType boundary version.mediaType) "boundary" = some boundary := by
  have named : Text.sameIgnoringCase (Text.trim " boundary") "boundary" = true := by decide
  rw [← text_writtenType, parameter?_text (writtenType_isWellFormed valid version)]
  simp [writtenType, ContentType.find?, Parameter.isNamed, named, Parameter.stated]

theorem parameter?_start {boundary : String} (valid : IsBoundary boundary)
    (version : SoapVersion) :
    (parameter? (contentType boundary version.mediaType) "start").map stripBrackets =
      some rootContentId := by
  have noBoundary : Text.sameIgnoringCase (Text.trim " boundary") "start" = false := by decide
  have noType : Text.sameIgnoringCase (Text.trim " type") "start" = false := by decide
  have named : Text.sameIgnoringCase (Text.trim " start") "start" = true := by decide
  have id : stripBrackets "<root.message@as4-core>" = rootContentId := by decide
  rw [← text_writtenType, parameter?_text (writtenType_isWellFormed valid version)]
  simp [writtenType, ContentType.find?, Parameter.isNamed, noBoundary, noType, named,
    Parameter.stated, id]

/-! ## Written bodies -/

def pieceOfAttachment (a : Attachment) : Piece := pieceOf a.mediaType a.contentId a.data

def partOfAttachment (a : Attachment) : Part :=
  { mediaType := some a.mediaType, contentId := some a.contentId, data := a.data }

def rootAttachment (soapType : String) (soap : Bytes) : Attachment :=
  { contentId := rootContentId, mediaType := soapType ++ "; charset=UTF-8", data := soap }

theorem writePart_eq (boundary mediaType contentId : String) (data : Bytes) :
    writePart boundary mediaType contentId data =
      (pieceOf mediaType contentId data).bytes (delimiterOf boundary) := by
  have marks : Bytes.ofText "--" = dashes := by decide
  have type : Bytes.ofText "\r\nContent-Type: " =
      lineBreak ++ Bytes.ofText "Content-Type: " := by decide
  have middle : Bytes.ofText "\r\nContent-Transfer-Encoding: binary\r\nContent-ID: <" =
      lineBreak ++ (Bytes.ofText encodingLine ++ (lineBreak ++ Bytes.ofText "Content-ID: <")) := by
    decide
  have last : Bytes.ofText ">\r\n\r\n" = Bytes.ofText ">" ++ (lineBreak ++ lineBreak) := by decide
  unfold writePart pieceOf Piece.bytes Piece.content delimiterOf
  simp only [Bytes.ofText_append, ofText_headText, typeLine, idLine, List.append_assoc]
  rw [marks, type, middle, last]
  simp only [List.append_assoc]

theorem write_eq (boundary soapType : String) (soap : Bytes) (attachments : List Attachment) :
    write boundary soapType soap attachments =
      ((rootAttachment soapType soap :: attachments).map pieceOfAttachment).flatMap
          (Piece.bytes (delimiterOf boundary)) ++ closing (delimiterOf boundary) := by
  have marks : Bytes.ofText "--" = dashes := by decide
  have parts : attachments.flatMap (fun a => writePart boundary a.mediaType a.contentId a.data) =
      (attachments.map pieceOfAttachment).flatMap (Piece.bytes (delimiterOf boundary)) := by
    rw [List.flatMap_map]
    simp only [writePart_eq, pieceOfAttachment]
  rw [write, parts, writePart_eq, List.map_cons, List.flatMap_cons, closing, delimiterOf]
  simp only [Bytes.ofText_append, marks, List.append_assoc]
  rfl

theorem quiet_of_isAbsent {boundary : String} {bytes : Bytes} (absent : IsAbsent boundary bytes)
    (afterReturn atLineStart : Bool) :
    Quiet (delimiterOf boundary) afterReturn atLineStart bytes := by
  apply quiet_of_absent
  intro inside
  exact absent ((List.suffix_append dashes _).isInfix.trans inside)

theorem isQuiet_pieceOf {boundary : String} (valid : IsBoundary boundary)
    {mediaType contentId : String} (typeNoBreak : HasNoBreak mediaType)
    (idNoBreak : HasNoBreak contentId) {data : Bytes} (absent : IsAbsent boundary data) :
    (pieceOf mediaType contentId data).IsQuiet (delimiterOf boundary) := by
  have oneLine := oneLine_delimiterOf valid
  obtain ⟨typeStart, encodingStart, idStart⟩ := head?_lines mediaType contentId
  have different {line : Bytes} (start : line.head? = some 0x43) :
      line.head? ≠ (delimiterOf boundary).head? := by
    have dash : (delimiterOf boundary).head? = some 0x2D := rfl
    rw [start, dash]
    decide
  constructor
  · have type := quiet_line (typeLine_noBreak typeNoBreak)
      (different typeStart) oneLine.nonempty
    have encoding := quiet_line encodingLine_noBreak
      (different encodingStart) oneLine.nonempty
    have id := quiet_line (idLine_noBreak idNoBreak)
      (different idStart) oneLine.nonempty
    have head := quiet_append_break oneLine type (quiet_append_break oneLine encoding id)
    rwa [← ofText_headText] at head
  · exact quiet_of_isAbsent absent _ _

theorem isPlain_rootAttachment (version : SoapVersion) (soap : Bytes) :
    (rootAttachment version.mediaType soap).IsPlain := by
  have noFeed : (0x0A : UInt8) ∉ Bytes.ofText rootContentId := by decide
  have typeNoFeed : (0x0A : UInt8) ∉ Bytes.ofText (version.mediaType ++ "; charset=UTF-8") := by
    cases version <;> decide
  have trimmed : Text.trim (version.mediaType ++ "; charset=UTF-8") =
      version.mediaType ++ "; charset=UTF-8" := by
    cases version <;> decide
  have idPlain : IsPlainId rootContentId := ⟨by decide, by decide⟩
  exact ⟨noBreak_of_noFeed noFeed, idPlain, noBreak_of_noFeed typeNoFeed, trimmed⟩

theorem ofBytes_pieceOfAttachment {a : Attachment} (plain : a.IsPlain) :
    Part.ofBytes (pieceOfAttachment a).content = .ok (partOfAttachment a) := by
  rw [pieceOfAttachment, ofBytes_pieceOf plain.typeNoBreak plain.idNoBreak, plain.typeTrimmed,
    stripBrackets_eq_self plain.idPlain]
  rfl

/-- What is read from a written body, when no line of its parts begins with the delimiter:
every part is read by itself, and the first of them is the root. -/
theorem read_write_eq {boundary : String} (valid : IsBoundary boundary) (version : SoapVersion)
    {soap : Bytes} {attachments : List Attachment} (rootAbsent : IsAbsent boundary soap)
    (quiet : ∀ a ∈ attachments, (pieceOfAttachment a).IsQuiet (delimiterOf boundary)) :
    read (contentType boundary version.mediaType)
        (write boundary version.mediaType soap attachments) =
      (do
        let parts ← attachments.mapM fun a => Part.ofBytes (pieceOfAttachment a).content
        let attachments ← parts.mapM Part.attachment
        .ok { root := soap, attachments }) := by
  let root := rootAttachment version.mediaType soap
  let pieces := (root :: attachments).map pieceOfAttachment
  have rootPlain : root.IsPlain := isPlain_rootAttachment version soap
  have rootQuiet : (pieceOfAttachment root).IsQuiet (delimiterOf boundary) :=
    isQuiet_pieceOf valid rootPlain.typeNoBreak rootPlain.idNoBreak rootAbsent
  have itemsQuiet : ∀ a ∈ root :: attachments,
      (pieceOfAttachment a).IsQuiet (delimiterOf boundary) :=
    List.forall_mem_cons.mpr ⟨rootQuiet, quiet⟩
  have piecesQuiet : ∀ piece ∈ pieces, piece.IsQuiet (delimiterOf boundary) :=
    List.forall_mem_map.mpr itemsQuiet
  have offsets : delimiterOffsets (write boundary version.mediaType soap attachments)
      (delimiterOf boundary) = startsFrom (delimiterOf boundary) 0 pieces := by
    rw [write_eq, delimiterOffsets, offsetsFrom_pieces (oneLine_delimiterOf valid) piecesQuiet]
    rfl
  have parts : partsAt (write boundary version.mediaType soap attachments)
      (delimiterOf boundary).length (startsFrom (delimiterOf boundary) 0 pieces) =
        (pieces.mapM fun piece => Part.ofBytes piece.content).map fun parts => (parts, true) := by
    rw [write_eq]
    exact partsAt_pieces pieces []
  obtain ⟨tail, starts⟩ := startsFrom_eq (delimiterOf boundary) 0 pieces
  rw [starts, delimiterOf] at offsets
  rw [starts, delimiterOf, List.mapM_map, List.mapM_cons] at parts
  simp only [Function.comp_apply, ofBytes_pieceOfAttachment rootPlain, ok_bind] at parts
  rw [read, parameter?_boundary valid version]
  simp only [parameter?_start valid version, offsets, parts]
  have index (others : List Part) :
      (partOfAttachment root :: others).findIdx? (·.contentId == some rootContentId) =
        some 0 := by
    simp [root, partOfAttachment, rootAttachment, List.findIdx?_cons]
  have others : attachments.mapM ((fun piece => Part.ofBytes piece.content) ∘ pieceOfAttachment) =
      attachments.mapM fun a => Part.ofBytes (pieceOfAttachment a).content := rfl
  rw [others]
  cases attachments.mapM fun a => Part.ofBytes (pieceOfAttachment a).content with
  | error fault => rfl
  | ok read =>
      simp only [pure, Except.pure, ok_bind, Except.map, assemble, index,
        List.getElem?_cons_zero, List.eraseIdx_cons_zero]
      rfl

theorem read_write {boundary : String} (valid : IsBoundary boundary) (version : SoapVersion)
    {soap : Bytes} {attachments : List Attachment} (plain : ∀ a ∈ attachments, a.IsPlain)
    (rootAbsent : IsAbsent boundary soap)
    (absent : ∀ a ∈ attachments, IsAbsent boundary a.data) :
    read (contentType boundary version.mediaType)
        (write boundary version.mediaType soap attachments) =
      .ok { root := soap, attachments } := by
  have quiet : ∀ a ∈ attachments, (pieceOfAttachment a).IsQuiet (delimiterOf boundary) := by
    intro a member
    exact isQuiet_pieceOf valid (plain a member).typeNoBreak (plain a member).idNoBreak
      (absent a member)
  have parts : attachments.mapM (fun a => Part.ofBytes (pieceOfAttachment a).content) =
      .ok (attachments.map partOfAttachment) :=
    mapM_eq_ok_map fun a member => ofBytes_pieceOfAttachment (plain a member)
  have others : (attachments.map partOfAttachment).mapM Part.attachment = .ok attachments := by
    apply mapM_map_self
    intro a _
    rfl
  rw [read_write_eq valid version rootAbsent quiet, parts, ok_bind, others, ok_bind]

end Multipart

end Ebms
