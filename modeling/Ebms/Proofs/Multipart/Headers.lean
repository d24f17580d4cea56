import Ebms.Proofs.Multipart.Parts

/-! # The header of a part

A header consists of fields, one to a line.  Their order and the letter case of their names
do not matter: a part is read with the media type and the content id that its fields state.
As long as neither holds a line break, all that they lose are the blanks around the media
type and the brackets around the content id. -/

set_option autoImplicit false

namespace Ebms.Multipart

/-! ## Texts without line breaks -/

def HasNoBreak (text : String) : Prop := ¬ lineBreak <:+: Bytes.ofText text

theorem noBreak_append_left {front bytes : Bytes} (plain : 0x0D ∉ front)
    (noBreak : ¬ lineBreak <:+: bytes) : ¬ lineBreak <:+: front ++ bytes := by
  induction front with
  | nil => exact noBreak
  | cons byte others inductionHypothesis =>
      have noReturn : (0x0D : UInt8) ≠ byte := by
        intro same
        exact plain (by simp [same])
      have plainOthers : (0x0D : UInt8) ∉ others := by
        intro member
        exact plain (List.mem_cons_of_mem _ member)
      rw [List.cons_append, List.infix_cons_iff]
      rintro (starts | inside)
      · exact noReturn (List.cons_prefix_cons.mp starts).1
      · exact inductionHypothesis plainOthers inside

theorem noBreak_append_right {bytes back : Bytes} (noBreak : ¬ lineBreak <:+: bytes)
    (plain : 0x0A ∉ back) : ¬ lineBreak <:+: bytes ++ back := by
  induction bytes with
  | nil => exact noBreak_of_noFeed plain
  | cons byte others inductionHypothesis =>
      rw [List.cons_append, List.infix_cons_iff]
      rintro (starts | inside)
      · obtain ⟨return_, feed⟩ := List.cons_prefix_cons.mp starts
        cases others with
        | nil => exact plain (feed.subset (by simp))
        | cons next more =>
            apply noBreak
            rw [← return_, ← (List.cons_prefix_cons.mp feed).1]
            exact ⟨[], more, rfl⟩
      · exact inductionHypothesis (lineBreak_infix_cons noBreak) inside

theorem HasNoBreak.chars {text : String} (noBreak : HasNoBreak text) :
    ¬ ['\r', '\n'] <:+: text.toList := by
  rintro ⟨front, back, shape⟩
  apply noBreak
  have bytes : Bytes.ofText text = front.flatMap String.utf8EncodeChar ++ lineBreak ++
      back.flatMap String.utf8EncodeChar := by
    rw [Bytes.ofText_eq_flatMap, ← shape, List.flatMap_append, List.flatMap_append]
    rfl
  rw [bytes]
  exact ⟨_, _, rfl⟩

/-! ## Fields -/

/-- A field of a header: what its line says before and after the colon. -/
structure Field where
  name : String
  value : String

namespace Field

def line (f : Field) : String := f.name ++ ":" ++ f.value

def isNamed (f : Field) (name : String) : Bool := Text.sameIgnoringCase (Text.trim f.name) name

structure IsWellFormed (f : Field) : Prop where
  name : ':' ∉ f.name.toList
  line : HasNoBreak f.line

/-- The value of a field of a name, without the blanks around it.  The last one counts. -/
def find? (fields : List Field) (name : String) : Option String :=
  (fields.reverse.find? (·.isNamed name)).map fun f => Text.trim f.value

def text (fields : List Field) : String := "\r\n".intercalate (fields.map line)

theorem toList_text (fields : List Field) :
    (text fields).toList = ['\r', '\n'].intercalate (fields.map fun f => f.line.toList) := by
  rw [text, String.toList_intercalate, List.map_map]
  rfl

theorem find?_cons (f : Field) (others : List Field) (name : String) :
    find? (f :: others) name =
      (find? others name).or (if f.isNamed name then some (Text.trim f.value) else none) := by
  cases named : f.isNamed name <;>
    simp [find?, List.find?_append, named]

theorem not_isNamed_of_isNamed {f : Field} {name other : String} (named : f.isNamed name = true)
    (different : Text.sameIgnoringCase name other = false) : f.isNamed other = false := by
  unfold isNamed Text.sameIgnoringCase at *
  rw [eq_of_beq named]
  exact different

theorem addHeader_line (part : Part) {f : Field} (plain : ':' ∉ f.name.toList) :
    part.addHeader f.line.toList =
      if f.isNamed "content-type" then { part with mediaType := some (Text.trim f.value) }
      else if f.isNamed "content-id" then
        { part with contentId := some (stripBrackets (Text.trim f.value)) }
      else part := by
  have shape : f.line.toList = f.name.toList ++ ':' :: f.value.toList := by simp [line]
  unfold Part.addHeader
  rw [String.ofList_toList, Text.splitOnce_of_toList shape plain, String.ofList_toList,
    String.ofList_toList]
  rfl

theorem foldl_addHeader {fields : List Field} (plain : ∀ f ∈ fields, ':' ∉ f.name.toList)
    (part : Part) :
    (fields.map fun f => f.line.toList).foldl Part.addHeader part =
      { part with
        mediaType := (find? fields "content-type").or part.mediaType
        contentId := ((find? fields "content-id").map stripBrackets).or part.contentId } := by
  induction fields generalizing part with
  | nil => rfl
  | cons f others inductionHypothesis =>
      obtain ⟨plainName, plainOthers⟩ := List.forall_mem_cons.mp plain
      rw [List.map_cons, List.foldl_cons, inductionHypothesis plainOthers,
        addHeader_line part plainName, find?_cons, find?_cons]
      cases type : f.isNamed "content-type" with
      | true =>
          -- A field has one name only.
          have id : f.isNamed "content-id" = false := not_isNamed_of_isNamed type (by decide)
          simp [id]
      | false =>
          cases id : f.isNamed "content-id" <;> simp

theorem ofText_text (fields : List Field) :
    Bytes.ofText (text fields) =
      lineBreak.intercalate (fields.map fun f => Bytes.ofText f.line) := by
  rw [Bytes.ofText_eq_flatMap, toList_text]
  induction fields with
  | nil => rfl
  | cons f others inductionHypothesis =>
      cases others with
      | nil => simp [Bytes.ofText_eq_flatMap]
      | cons next others =>
          have return_ : ['\r', '\n'].flatMap String.utf8EncodeChar = lineBreak := by decide
          simp only [List.map_cons, List.intercalate_cons_cons, List.flatMap_append, return_] at *
          rw [inductionHypothesis, Bytes.ofText_eq_flatMap f.line]

/-- A part is read with the fields of its header and with all of its data. -/
theorem ofBytes_text {fields : List Field} (nonempty : fields ≠ [])
    (wellFormed : ∀ f ∈ fields, f.IsWellFormed) (data : Bytes) :
    Part.ofBytes (Piece.content { head := Bytes.ofText (text fields), data }) =
      .ok
        { mediaType := find? fields "content-type"
          contentId := (find? fields "content-id").map stripBrackets
          data } := by
  obtain ⟨first, others, rfl⟩ := List.exists_cons_of_ne_nil nonempty
  have noBreaks : ∀ l ∈ (first :: others).map fun f => Bytes.ofText f.line,
      ¬ lineBreak <:+: l :=
    List.forall_mem_map.mpr fun f member => (wellFormed f member).line
  have nonempties : ∀ l ∈ others.map fun f => Bytes.ofText f.line, l ≠ [] := by
    refine List.forall_mem_map.mpr fun f _ empty => ?_
    have blank : f.line = "" := Bytes.ofText_injective empty
    have chars := congrArg String.toList blank
    simp [line] at chars
  have noBreakChars : ∀ l ∈ (first :: others).map fun f => f.line.toList,
      ¬ ['\r', '\n'] <:+: l :=
    List.forall_mem_map.mpr fun f member => (wellFormed f member).line.chars
  have header : Bytes.ofText (text (first :: others)) = lineBreak.intercalate
      (Bytes.ofText first.line :: others.map fun f => Bytes.ofText f.line) := ofText_text _
  have cut : Bytes.splitOnceFrom (lineBreak ++ lineBreak) []
      (Bytes.ofText (text (first :: others)) ++ (lineBreak ++ (lineBreak ++ data))) =
        some (Bytes.ofText (text (first :: others)), data) := by
    rw [header]
    exact splitOnceFrom_lines noBreaks nonempties [] data
  have lines : linesFrom [] [] (text (first :: others)).toList =
      (first :: others).map fun f => f.line.toList := by
    rw [toList_text]
    exact linesFrom_lines noBreakChars []
  have read := foldl_addHeader (fun f member => (wellFormed f member).name)
    { mediaType := none, contentId := none, data := data }
  rw [Option.or_none, Option.or_none] at read
  have shape : Piece.content { head := Bytes.ofText (text (first :: others)), data } =
      Bytes.ofText (text (first :: others)) ++ (lineBreak ++ (lineBreak ++ data)) := by
    simp [Piece.content]
  rw [Part.ofBytes, shape, Bytes.splitOnce, cut]
  simp only [Bytes.text?_ofText, lines, read]

end Field

/-! ## The lines of a header -/

def typeLine (mediaType : String) : String := "Content-Type: " ++ mediaType

def encodingLine : String := "Content-Transfer-Encoding: binary"

def idLine (contentId : String) : String := "Content-ID: <" ++ contentId ++ ">"

def headText (mediaType contentId : String) : String :=
  typeLine mediaType ++ "\r\n" ++ encodingLine ++ "\r\n" ++ idLine contentId

theorem typeLine_noBreak {mediaType : String} (noBreak : HasNoBreak mediaType) :
    HasNoBreak (typeLine mediaType) := by
  unfold HasNoBreak typeLine
  rw [Bytes.ofText_append]
  exact noBreak_append_left (by decide) noBreak

theorem encodingLine_noBreak : HasNoBreak encodingLine := noBreak_of_noFeed (by decide)

theorem idLine_noBreak {contentId : String} (noBreak : HasNoBreak contentId) :
    HasNoBreak (idLine contentId) := by
  unfold HasNoBreak idLine
  rw [Bytes.ofText_append, Bytes.ofText_append]
  exact noBreak_append_right (noBreak_append_left (by decide) noBreak) (by decide)

theorem head?_lines (mediaType contentId : String) :
    (Bytes.ofText (typeLine mediaType)).head? = some 0x43 ∧
      (Bytes.ofText encodingLine).head? = some 0x43 ∧
      (Bytes.ofText (idLine contentId)).head? = some 0x43 := by
  have type : Bytes.ofText "Content-Type: " = 0x43 :: (Bytes.ofText "Content-Type: ").tail := by
    decide
  have id : Bytes.ofText "Content-ID: <" = 0x43 :: (Bytes.ofText "Content-ID: <").tail := by
    decide
  refine ⟨?_, by decide, ?_⟩
  · unfold typeLine
    rw [Bytes.ofText_append, type, List.cons_append, List.head?_cons]
  · unfold idLine
    rw [Bytes.ofText_append, Bytes.ofText_append, id, List.cons_append, List.cons_append,
      List.head?_cons]

theorem ofText_lineBreak : Bytes.ofText "\r\n" = lineBreak := by decide

theorem ofText_headText (mediaType contentId : String) :
    Bytes.ofText (headText mediaType contentId) =
      Bytes.ofText (typeLine mediaType) ++ (lineBreak ++ (Bytes.ofText encodingLine ++
        (lineBreak ++ Bytes.ofText (idLine contentId)))) := by
  simp [headText, ofText_lineBreak]

/-! ## What the lines state -/

/-- A content id that brackets around it do not change. -/
structure IsPlainId (contentId : String) : Prop where
  opening : contentId.toList.head? ≠ some '<'
  closing : contentId.toList.getLast? ≠ some '>'

theorem stripBrackets_eq_self {contentId : String} (plain : IsPlainId contentId) :
    stripBrackets contentId = contentId := by
  have start : Text.stripStart (· == '<') contentId = contentId := by
    refine Text.stripStart_eq_self fun c first => ?_
    rw [beq_eq_false_iff_ne]
    exact fun same => plain.opening (same ▸ first)
  rw [stripBrackets, start]
  refine Text.stripEnd_eq_self fun c last => ?_
  rw [beq_eq_false_iff_ne]
  exact fun same => plain.closing (same ▸ last)

theorem stripBrackets_enclosed (contentId : String) :
    stripBrackets ("<" ++ contentId ++ ">") = stripBrackets contentId := by
  have shape : ("<" ++ contentId ++ ">").toList = '<' :: (contentId.toList ++ ['>']) := by simp
  have start : ('<' :: (contentId.toList ++ ['>'])).dropWhile (· == '<') =
      contentId.toList.dropWhile (· == '<') ++ ['>'] := by
    rw [List.dropWhile_cons_of_pos (by decide), List.dropWhile_append]
    split
    case isTrue empty =>
      rw [List.isEmpty_iff.mp empty]
      rfl
    case isFalse => rfl
  rw [stripBrackets, stripBrackets, Text.stripStart, Text.stripStart, shape, start,
    Text.stripEnd, Text.stripEnd, String.toList_ofList, String.toList_ofList,
    Text.dropEndWhile_concat_of_drop (by decide)]

def headFields (mediaType contentId : String) : List Field :=
  [{ name := "Content-Type", value := " " ++ mediaType },
    { name := "Content-Transfer-Encoding", value := " binary" },
    { name := "Content-ID", value := " " ++ ("<" ++ contentId ++ ">") }]

theorem text_headFields (mediaType contentId : String) :
    Field.text (headFields mediaType contentId) = headText mediaType contentId := by
  rw [← String.toList_inj]
  simp [Field.toList_text, Field.line, headFields, headText, typeLine, encodingLine, idLine]

theorem headFields_isWellFormed {mediaType contentId : String}
    (typeNoBreak : HasNoBreak mediaType) (idNoBreak : HasNoBreak contentId) :
    ∀ f ∈ headFields mediaType contentId, f.IsWellFormed := by
  have type : Field.line { name := "Content-Type", value := " " ++ mediaType } =
      typeLine mediaType := by
    rw [← String.toList_inj]
    simp [Field.line, typeLine]
  have id : Field.line { name := "Content-ID", value := " " ++ ("<" ++ contentId ++ ">") } =
      idLine contentId := by
    rw [← String.toList_inj]
    simp [Field.line, idLine]
  have typePlain : ':' ∉ "Content-Type".toList := by decide
  have idPlain : ':' ∉ "Content-ID".toList := by decide
  intro f member
  simp only [headFields, List.mem_cons, List.not_mem_nil, or_false] at member
  rcases member with rfl | rfl | rfl
  · exact ⟨typePlain, type ▸ typeLine_noBreak typeNoBreak⟩
  · exact ⟨by decide, encodingLine_noBreak⟩
  · exact ⟨idPlain, id ▸ idLine_noBreak idNoBreak⟩

theorem trim_enclosed_id (contentId : String) :
    Text.trim ("<" ++ contentId ++ ">") = "<" ++ contentId ++ ">" := by
  have shape : "<" ++ contentId ++ ">" = String.ofList ('<' :: (contentId.toList ++ ['>'])) := by
    rw [← String.toList_inj]
    simp
  rw [shape]
  exact Text.trim_enclosed (by decide) (by decide) contentId.toList

theorem find?_headFields (mediaType contentId : String) :
    Field.find? (headFields mediaType contentId) "content-type" = some (Text.trim mediaType) ∧
      (Field.find? (headFields mediaType contentId) "content-id").map stripBrackets =
        some (stripBrackets contentId) := by
  have type : Text.sameIgnoringCase (Text.trim "Content-Type") "content-type" = true := by decide
  have typeOnly : Text.sameIgnoringCase (Text.trim "Content-Type") "content-id" = false := by
    decide
  have noType : Text.sameIgnoringCase (Text.trim "Content-Transfer-Encoding") "content-type" =
      false := by decide
  have noId : Text.sameIgnoringCase (Text.trim "Content-Transfer-Encoding") "content-id" =
      false := by decide
  have idOnly : Text.sameIgnoringCase (Text.trim "Content-ID") "content-type" = false := by decide
  have id : Text.sameIgnoringCase (Text.trim "Content-ID") "content-id" = true := by decide
  constructor
  · simp [headFields, Field.find?, Field.isNamed, type, noType, idOnly, Text.trim_space_append]
  · simp [headFields, Field.find?, Field.isNamed, id, Text.trim_space_append, trim_enclosed_id,
      stripBrackets_enclosed]

/-! ## Whole parts -/

def pieceOf (mediaType contentId : String) (data : Bytes) : Piece :=
  { head := Bytes.ofText (headText mediaType contentId), data }

theorem ofBytes_pieceOf {mediaType contentId : String} (typeNoBreak : HasNoBreak mediaType)
    (idNoBreak : HasNoBreak contentId) (data : Bytes) :
    Part.ofBytes (pieceOf mediaType contentId data).content =
      .ok
        { mediaType := some (Text.trim mediaType)
          contentId := some (stripBrackets contentId)
          data } := by
  obtain ⟨type, id⟩ := find?_headFields mediaType contentId
  have nonempty : headFields mediaType contentId ≠ [] := List.cons_ne_nil _ _
  have read := Field.ofBytes_text nonempty (headFields_isWellFormed typeNoBreak idNoBreak) data
  rw [type, id, text_headFields] at read
  exact read

end Ebms.Multipart
