import Ebms.Proofs.Multipart.Messages
import Ebms.Proofs.Multipart.Parameters

/-! # Multipart bodies of any sender

A body consists of sections between delimiter lines, with a preamble before and an
epilogue after them.  Reading it needs no more than that a line begins with the delimiter
where it delimits and nowhere else: the sections are found, each of them with the fields
of its header and with its data untouched, and the root among them is the one that the
start parameter names, or the first one. -/

set_option autoImplicit false

namespace Ebms.Multipart

/-! ## Bodies -/

/-- What stands between two delimiters, with the blanks behind the first of them. -/
structure Section where
  padding : Bytes
  fields : List Field
  data : Bytes

namespace Section

variable (s : Section)

def piece : PaddedPiece :=
  { head := Bytes.ofText (Field.text s.fields), data := s.data, padding := s.padding }

def mediaType : Option String := Field.find? s.fields "content-type"

def contentId : Option String := (Field.find? s.fields "content-id").map stripBrackets

def attachment? : Option Attachment :=
  s.contentId.map fun contentId =>
    { contentId, mediaType := s.mediaType.getD defaultMediaType, data := s.data }

/-- A section with a header of at least one field, in which the delimiter begins no line. -/
structure IsWellFormed (delimiter : Bytes) : Prop where
  padding : IsPadding s.padding
  header : s.fields ≠ []
  fields : ∀ f ∈ s.fields, f.IsWellFormed
  content : BeginsNoLine delimiter s.piece.content

def part : Part := { mediaType := s.mediaType, contentId := s.contentId, data := s.data }

end Section

structure Body where
  preamble : Bytes
  sections : List Section
  epilogue : Bytes

namespace Body

variable (b : Body) (delimiter : Bytes)

def bytes : Bytes :=
  b.preamble ++ (paddedBytes delimiter (b.sections.map Section.piece) ++
    (delimiter ++ (dashes ++ b.epilogue)))

/-- A body with at least one section, and with a preamble that consists of whole lines none
of which begins with the delimiter.  Of the epilogue nothing is asked. -/
structure IsWellFormed : Prop where
  preamble : b.preamble = [] ∨ lineBreak <:+ b.preamble
  quiet : BeginsNoLine delimiter b.preamble
  nonempty : b.sections ≠ []
  sections : ∀ s ∈ b.sections, s.IsWellFormed delimiter

end Body

/-- Of some sections, the root is the first one with the content id that the start parameter
names, or the very first if there is no start parameter. -/
def IsRoot (start : Option String) (before : List Section) (root : Section) : Prop :=
  match start with
  | none => before = []
  | some id => root.contentId = some id ∧ ∀ s ∈ before, s.contentId ≠ some id

/-! ## Finding the sections -/

variable {delimiter : Bytes} {b : Body}

theorem Section.ofBytes_content (s : Section) (wellFormed : s.IsWellFormed delimiter) :
    Part.ofBytes s.piece.content = .ok s.part :=
  Field.ofBytes_text wellFormed.header wellFormed.fields s.data

theorem offsetsFrom_preamble (oneLine : OneLine delimiter) {preamble : Bytes}
    (whole : preamble = [] ∨ lineBreak <:+ preamble) (quiet : BeginsNoLine delimiter preamble)
    (rest : Bytes) :
    offsetsFrom delimiter [] 0 0 false true (preamble ++ rest) =
      offsetsFrom delimiter [] preamble.length 0 false true rest := by
  rcases whole with rfl | ⟨lines, rfl⟩
  · rfl
  · have shape : lines ++ lineBreak ++ rest = lines ++ 0x0D :: 0x0A :: rest := by
      simp [lineBreak]
    have length : (lines ++ lineBreak).length = 0 + lines.length + 2 := by
      simp [lineBreak]
    rw [shape, offsetsFrom_quiet oneLine (Nat.zero_le _) quiet.left.quiet, length]

/-- All delimiters of the sections are found, then the last one, and whatever the epilogue
may hold. -/
theorem exists_delimiterOffsets (oneLine : OneLine delimiter)
    (wellFormed : b.IsWellFormed delimiter) :
    ∃ later, delimiterOffsets (b.bytes delimiter) delimiter =
      paddedStarts delimiter b.preamble.length (b.sections.map Section.piece) ++
        (b.preamble.length + (paddedBytes delimiter (b.sections.map Section.piece)).length) ::
          later := by
  have padded : ∀ piece ∈ b.sections.map Section.piece, IsPadding piece.padding :=
    List.forall_mem_map.mpr fun s member => (wellFormed.sections s member).padding
  have quiet : ∀ piece ∈ b.sections.map Section.piece,
      Quiet delimiter false true piece.content :=
    List.forall_mem_map.mpr fun s member => (wellFormed.sections s member).content.quiet
  rw [delimiterOffsets, Body.bytes,
    offsetsFrom_preamble oneLine wellFormed.preamble wellFormed.quiet,
    offsetsFrom_padded oneLine padded quiet]
  obtain ⟨first, others, shape⟩ := List.exists_cons_of_ne_nil oneLine.nonempty
  have starts : delimiter.isPrefixOf (first :: (others ++ (dashes ++ b.epilogue))) = true := by
    rw [List.isPrefixOf_iff_prefix, shape]
    exact List.prefix_append _ _
  have cons : delimiter ++ (dashes ++ b.epilogue) =
      first :: (others ++ (dashes ++ b.epilogue)) := by rw [shape]; rfl
  rw [cons, offsetsFrom, if_pos starts, if_pos rfl, offsetsFrom_found, List.append_nil,
    List.reverse_cons, List.reverse_reverse, List.append_assoc]
  exact ⟨_, rfl⟩

theorem partsAt_body (wellFormed : b.IsWellFormed delimiter) (later : List Nat) :
    partsAt (b.bytes delimiter) delimiter.length
        (paddedStarts delimiter b.preamble.length (b.sections.map Section.piece) ++
          (b.preamble.length + (paddedBytes delimiter (b.sections.map Section.piece)).length) ::
            later) = .ok (b.sections.map Section.part, true) := by
  have padded : ∀ piece ∈ b.sections.map Section.piece, IsPadding piece.padding :=
    List.forall_mem_map.mpr fun s member => (wellFormed.sections s member).padding
  have each : (b.sections.map Section.piece).mapM (fun piece => Part.ofBytes piece.content) =
      .ok (b.sections.map Section.part) := by
    rw [List.mapM_map]
    exact mapM_eq_ok_map fun s member => s.ofBytes_content (wellFormed.sections s member)
  rw [Body.bytes, partsAt_padded padded, each]
  rfl

/-! ## Choosing the root -/

section Root

variable {start : Option String} {before after : List Section} {root : Section}

theorem findIdx?_root {id : String} (named : root.contentId = some id)
    (others : ∀ s ∈ before, s.contentId ≠ some id) :
    ((before ++ root :: after).map Section.part).findIdx? (·.contentId == some id) =
      some before.length := by
  induction before with
  | nil => simp [List.findIdx?_cons, Section.part, named]
  | cons s rest inductionHypothesis =>
      obtain ⟨other, othersRest⟩ := List.forall_mem_cons.mp others
      rw [List.cons_append, List.map_cons, List.findIdx?_cons, inductionHypothesis othersRest]
      simp [Section.part, other]

theorem assemble_of_isRoot (isRoot : IsRoot start before root) :
    assemble start ((before ++ root :: after).map Section.part) =
      (((before ++ after).map Section.part).mapM Part.attachment).map fun attachments =>
        { root := root.data, attachments } := by
  have chosen : ((before ++ root :: after).map Section.part)[before.length]? = some root.part := by
    simp
  have left : ((before ++ root :: after).map Section.part).eraseIdx before.length =
      (before ++ after).map Section.part := by
    simp [List.eraseIdx_append_of_length_le]
  unfold assemble
  cases start with
  | none =>
      obtain rfl : before = [] := isRoot
      rw [List.length_nil] at chosen left
      simp only [ok_bind, chosen, left]
      cases (([] ++ after).map Section.part).mapM Part.attachment <;> rfl
  | some id =>
      obtain ⟨named, others⟩ := isRoot
      simp only [findIdx?_root named others, ok_bind, chosen, left]
      cases ((before ++ after).map Section.part).mapM Part.attachment <;> rfl

theorem assemble_of_absent {sections : List Section} {id : String}
    (absent : ∀ s ∈ sections, s.contentId ≠ some id) :
    assemble (some id) (sections.map Section.part) = .error (.missingStart id) := by
  have none : (sections.map Section.part).findIdx? (·.contentId == some id) = none := by
    rw [List.findIdx?_eq_none_iff]
    exact List.forall_mem_map.mpr fun s member => by simp [Section.part, absent s member]
  simp only [assemble, none]
  rfl

end Root

theorem attachment_part (s : Section) :
    s.part.attachment = (match s.attachment? with
      | some attachment => .ok attachment
      | none => .error .missingContentId) := by
  unfold Part.attachment Section.attachment? Section.part
  cases s.contentId <;> rfl

theorem mapM_attachment {sections : List Section} {attachments : List Attachment}
    (carried : sections.map Section.attachment? = attachments.map some) :
    (sections.map Section.part).mapM Part.attachment = .ok attachments := by
  induction sections generalizing attachments with
  | nil =>
      obtain rfl : attachments = [] := List.map_eq_nil_iff.mp carried.symm
      rfl
  | cons s others inductionHypothesis =>
      obtain ⟨attachment, rest, rfl, same, carriedRest⟩ :=
        List.map_eq_cons_iff.mp carried.symm
      rw [List.map_cons, List.mapM_cons, attachment_part, ← same,
        inductionHypothesis carriedRest.symm]
      rfl

theorem mapM_attachment_of_missing {sections : List Section}
    (missing : ∃ s ∈ sections, s.contentId = none) :
    (sections.map Section.part).mapM Part.attachment = .error .missingContentId := by
  induction sections with
  | nil =>
      obtain ⟨s, member, -⟩ := missing
      cases member
  | cons s others inductionHypothesis =>
      rw [List.map_cons, List.mapM_cons, attachment_part, Section.attachment?]
      cases stated : s.contentId with
      | none => rfl
      | some id =>
          obtain ⟨other, member, none⟩ := missing
          rcases List.mem_cons.mp member with rfl | inside
          · rw [stated] at none
            cases none
          · rw [inductionHypothesis ⟨other, inside, none⟩]
            rfl

/-! ## Reading -/

variable {c : ContentType} {boundary : String}

theorem read_eq_assemble (typed : c.IsWellFormed) (stated : c.find? "boundary" = some boundary)
    (valid : IsBoundary boundary) (wellFormed : b.IsWellFormed (delimiterOf boundary)) :
    read c.text (b.bytes (delimiterOf boundary)) =
      assemble ((c.find? "start").map stripBrackets) (b.sections.map Section.part) := by
  obtain ⟨later, offsets⟩ := exists_delimiterOffsets (oneLine_delimiterOf valid) wellFormed
  have parts := partsAt_body wellFormed later
  have found : ∃ first others, paddedStarts (delimiterOf boundary) b.preamble.length
      (b.sections.map Section.piece) ++ (b.preamble.length +
        (paddedBytes (delimiterOf boundary) (b.sections.map Section.piece)).length) :: later =
          first :: others := by
    exact List.exists_cons_of_ne_nil (by simp)
  obtain ⟨first, others, starts⟩ := found
  rw [starts] at offsets parts
  rw [read, parameter?_text typed, stated]
  simp only [parameter?_text typed]
  rw [delimiterOf] at offsets parts ⊢
  simp only [offsets, parts]

/-- Reading finds the root and, in order, the attachments with their content ids, media types
and data.  It fails only if the start parameter names no section, or if a section beside the
root has no content id. -/
theorem read_body (typed : c.IsWellFormed) (stated : c.find? "boundary" = some boundary)
    (valid : IsBoundary boundary) (wellFormed : b.IsWellFormed (delimiterOf boundary)) :
    (∀ before root after, b.sections = before ++ root :: after →
      IsRoot ((c.find? "start").map stripBrackets) before root →
        (∀ attachments, (before ++ after).map Section.attachment? = attachments.map some →
          read c.text (b.bytes (delimiterOf boundary)) =
            .ok { root := root.data, attachments }) ∧
        ((∃ s ∈ before ++ after, s.contentId = none) →
          read c.text (b.bytes (delimiterOf boundary)) = .error .missingContentId)) ∧
    ∀ id, (c.find? "start").map stripBrackets = some id →
      (∀ s ∈ b.sections, s.contentId ≠ some id) →
        read c.text (b.bytes (delimiterOf boundary)) = .error (.missingStart id) := by
  rw [read_eq_assemble typed stated valid wellFormed]
  refine ⟨fun before root after sections isRoot => ?_, fun id start absent => ?_⟩
  · rw [sections, assemble_of_isRoot isRoot]
    refine ⟨fun attachments carried => ?_, fun missing => ?_⟩
    · rw [mapM_attachment carried]
      rfl
    · rw [mapM_attachment_of_missing missing]
      rfl
  · rw [start, assemble_of_absent absent]

/-! ## A sample body -/

def sampleRelatedType : ContentType :=
  { mediaType := "multipart/related"
    parameters :=
      [{ name := " start", value := "<root@test>", quoted := true, blanks := " " },
        { name := "BOUNDARY", value := "7_7", quoted := false, blanks := "" }] }

def sampleNote : Section :=
  { padding := [0x20]
    fields :=
      [{ name := "content-id", value := "<note@test>" }, { name := "X-Kind", value := " a: b" }]
    data := lineBreak ++ Bytes.ofText "--" ++ lineBreak }

def sampleRoot : Section :=
  { padding := []
    fields :=
      [{ name := "Content-Type", value := " text/xml" },
        { name := "CONTENT-ID ", value := " <root@test>" }]
    data := Bytes.ofText "<soap/>" }

def sampleRelated : Body :=
  { preamble := Bytes.ofText "not for machines" ++ lineBreak
    sections := [sampleNote, sampleRoot]
    epilogue := lineBreak ++ Bytes.ofText "--7_7" }

theorem sampleRelatedType_isWellFormed : sampleRelatedType.IsWellFormed where
  mediaType := by decide
  parameters := by
    refine List.forall_mem_cons.mpr ⟨⟨by decide, by decide, by decide⟩, ?_⟩
    exact List.forall_mem_cons.mpr ⟨⟨by decide, by decide, by decide⟩, nofun⟩

theorem sampleRelated_isWellFormed : sampleRelated.IsWellFormed (delimiterOf "7_7") where
  preamble := .inr (List.suffix_append _ _)
  quiet := beginsNoLine_of_absent fun inside =>
    absurd (inside.subset (by decide : (0x37 : UInt8) ∈ delimiterOf "7_7")) (by decide)
  nonempty := List.cons_ne_nil _ _
  sections := by
    have field {f : Field} (name : ':' ∉ f.name.toList) (line : 0x0A ∉ Bytes.ofText f.line) :
        f.IsWellFormed := ⟨name, noBreak_of_noFeed line⟩
    have absent {bytes : Bytes} (none : (0x37 : UInt8) ∉ bytes) :
        BeginsNoLine (delimiterOf "7_7") bytes :=
      beginsNoLine_of_absent fun inside => none (inside.subset (by decide))
    have padding : IsPadding sampleNote.padding := List.forall_mem_singleton.mpr (.inl rfl)
    refine List.forall_mem_cons.mpr ⟨⟨padding, List.cons_ne_nil _ _, ?_, absent (by decide)⟩,
      List.forall_mem_cons.mpr ⟨⟨nofun, List.cons_ne_nil _ _, ?_, absent (by decide)⟩, nofun⟩⟩
    · exact List.forall_mem_cons.mpr ⟨field (by decide) (by decide),
        List.forall_mem_cons.mpr ⟨field (by decide) (by decide), nofun⟩⟩
    · exact List.forall_mem_cons.mpr ⟨field (by decide) (by decide),
        List.forall_mem_cons.mpr ⟨field (by decide) (by decide), nofun⟩⟩

theorem read_body_sampleRelated :
    read sampleRelatedType.text (sampleRelated.bytes (delimiterOf "7_7")) =
      .ok
        { root := Bytes.ofText "<soap/>"
          attachments :=
            [{ contentId := "note@test", mediaType := "application/octet-stream"
               data := lineBreak ++ Bytes.ofText "--" ++ lineBreak }] } := by
  have boundary : sampleRelatedType.find? "boundary" = some "7_7" := by decide
  have outcome := read_body sampleRelatedType_isWellFormed boundary
    (isBoundary_of_word (by decide)) sampleRelated_isWellFormed
  exact (outcome.1 [sampleNote] sampleRoot [] rfl ⟨by decide, by decide⟩).1 _ (by decide)

end Ebms.Multipart
