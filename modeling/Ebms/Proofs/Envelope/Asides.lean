import Ebms.Proofs.Markup.Positions
import Ebms.Proofs.Wire

/-! # Comments and instructions beside the message

A comment or an instruction may be put into a received document wherever no markup, no
reference and no character is split by it, also in the middle of a text: the message stays the
same.  The reader has its own view of a document type, though.  It ends one at the first
bracket at which all brackets balance, those in comments and literals included, and a comment
that is put behind a document type can move that end. -/

set_option autoImplicit false

namespace Ebms

open Markup

inductive Aside where
  | comment (text : Bytes)
  | instruction (target text : Bytes)

namespace Aside

def bytes : Aside → Bytes
  | .comment text => commentStart ++ text ++ commentEnd
  | .instruction target text => instructionStart ++ (target ++ 0x20 :: text) ++ instructionEnd

/-- A comment without hyphens and closing brackets, or an instruction without question marks
whose target is a word; it may be that of a declaration. -/
def IsPlain : Aside → Prop
  | .comment text => 0x2D ∉ text ∧ 0x3E ∉ text
  | .instruction target text => target ≠ [] ∧ 0x3E ∉ target ∧ 0x3F ∉ target ∧ 0x3F ∉ text

variable {text content : Bytes} {aside : Aside}

theorem isUpTo_commentEnd (noBracket : 0x3E ∉ text) : Bytes.IsUpTo commentEnd text := by
  rw [commentEnd_eq]
  intro inside
  have member : (0x3E : UInt8) ∈ text ++ [0x2D, 0x2D] := inside.subset (by decide)
  simp [noBracket] at member

theorem isUpTo_instructionEnd (noMark : 0x3F ∉ content) :
    Bytes.IsUpTo instructionEnd content := by
  rw [instructionEnd_eq]
  rintro ⟨before, after, shape⟩
  have shape : before ++ [0x3F, 0x3E] ++ after = content ++ [0x3F] := shape
  have same : content = (before ++ 0x3F :: 0x3E :: after).dropLast := by
    have whole : before ++ 0x3F :: 0x3E :: after = content ++ [0x3F] := by
      rw [← shape]
      simp
    rw [whole, List.dropLast_concat]
  rw [same, List.dropLast_append_cons] at noMark
  simp at noMark

theorem bracket_mem_bytes (aside : Aside) : 0x3C ∈ aside.bytes := by
  cases aside <;> simp [bytes, commentStart_eq, instructionStart_eq]

theorem isPiece_and_passed (plain : aside.IsPlain) :
    IsPiece IsBalancedDoctype aside.bytes ∧
      ∀ rest, nextToken (aside.bytes ++ rest) = .ok (none, rest) := by
  cases aside with
  | comment text =>
      have upTo := isUpTo_commentEnd plain.2
      exact ⟨.comment upTo, nextToken_comment upTo⟩
  | instruction target text =>
      obtain ⟨nonempty, noBracket, noMark, noMarkLater⟩ := plain
      have upTo : Bytes.IsUpTo instructionEnd (target ++ 0x20 :: text) :=
        isUpTo_instructionEnd (by simp [noMark, noMarkLater])
      have started : (target ++ 0x20 :: text).head? ≠ some 0x3E := by
        obtain ⟨first, others, rfl⟩ := List.exists_cons_of_ne_nil nonempty
        intro bracket
        cases bracket
        exact noBracket List.mem_cons_self
      exact ⟨.instruction upTo started, nextToken_instruction upTo started⟩

end Aside

namespace Envelope

/-- A message in one part that is received is received as the same with a comment or an
instruction put anywhere outside markup, references and characters. -/
theorem decode_insert {contentType : Option String} {front back : Bytes} {aside : Aside}
    {e : Envelope} (onePart : contentType.filter Multipart.isMultipart = none)
    (received : decode contentType (front ++ back) = .ok (some e))
    (outside : IsOutside IsBalancedDoctype front back) (plain : aside.IsPlain) :
    decode contentType (front ++ (aside.bytes ++ back)) = .ok (some e) := by
  obtain ⟨isPiece, passed⟩ := aside.isPiece_and_passed plain
  have read : ofDocument (front ++ back) = .ok e := by
    rw [decode, onePart] at received
    split at received
    · cases received
    · obtain ⟨envelope, read, same⟩ := map_eq_ok.mp received
      cases same
      exact read
  have nonblank : (front ++ (aside.bytes ++ back)).all isBlankByte = false := by
    rw [List.all_eq_false]
    exact ⟨0x3C, by simp [aside.bracket_mem_bytes], by decide⟩
  obtain ⟨root, found, understood⟩ := ofDocument_eq_ok_iff.mp read
  have inserted : ofDocument (front ++ (aside.bytes ++ back)) = .ok e :=
    ofDocument_eq_ok_iff.mpr ⟨root, readDocument_insert outside isPiece passed found, understood⟩
  rw [decode, onePart, if_neg (by simp [nonblank])]
  simp only [inserted, Except.map]

/-! A receipt that is cut in the middle of its message id. -/

def sampleBefore : Bytes := Bytes.ofText <|
  "<Envelope xmlns='http://www.w3.org/2003/05/soap-envelope'><Header><m:Messaging Id='m'>" ++
  "<m:SignalMessage><m:MessageInfo><m:Timestamp>2023-11-14T22:13:20.125Z</m:Timestamp>" ++
  "<m:MessageId>r-"

def sampleBehind : Bytes := Bytes.ofText <|
  "1</m:MessageId></m:MessageInfo><m:Receipt/></m:SignalMessage></m:Messaging></Header>" ++
  "<Body Id='b'/></Envelope>"

def sampleUncut : Envelope where
  soap := .v12
  messagingId := "m"
  bodyId := "b"
  unit := .receipt
    { timestamp := { seconds := 1700000000, nanos := 125000000 }, messageId := "r-1",
      refToMessageId := none }
  security := none
  attachments := []

def sampleRemark : Aside := .comment (Bytes.ofText " < ")

theorem sampleRemark_isPlain : sampleRemark.IsPlain := ⟨by decide, by decide⟩

theorem decode_insert_sampleRemark :
    (some "text/xml").filter Multipart.isMultipart = none ∧
      decode (some "text/xml") (sampleBefore ++ sampleBehind) = .ok (some sampleUncut) ∧
      IsOutside IsBalancedDoctype sampleBefore sampleBehind ∧ sampleRemark.IsPlain ∧
      decode (some "text/xml") (sampleBefore ++ (sampleRemark.bytes ++ sampleBehind)) =
        .ok (some sampleUncut) := by
  have onePart : (some "text/xml").filter Multipart.isMultipart = none := by decide
  have received : decode (some "text/xml") (sampleBefore ++ sampleBehind) =
      .ok (some sampleUncut) := by
    have read : (decode (some "text/xml") (sampleBefore ++ sampleBehind)).toOption =
        some (some sampleUncut) := by
      decide +kernel
    exact eq_ok_of_toOption read
  have outside : IsOutside IsBalancedDoctype sampleBefore sampleBehind := by
    have run : runAtEnd? 9 sampleBefore = some (Bytes.ofText "r-") := by decide +kernel
    refine ⟨⟨_, leads_of_runAtEnd? run, ?_⟩, ?_⟩
    · rintro ⟨before, name, -, -, shape, -, -⟩
      have member : (0x26 : UInt8) ∈ Bytes.ofText "r-" := by simp [shape]
      exact absurd member (by decide)
    · intro first member
      have start : sampleBehind.head? = some 0x31 := by decide +kernel
      rw [start] at member
      cases member
      decide
  exact ⟨onePart, received, outside, sampleRemark_isPlain,
    decode_insert onePart received outside sampleRemark_isPlain⟩

/-! ## Document types with declarations -/

/-- Names and quoted literals, without any bracket outside of a literal. -/
inductive IsHeading : Bytes → Prop where
  | nil : IsHeading []
  | plain {byte : UInt8} {rest : Bytes} (free : byte ∉ [0x3C, 0x3E, 0x5B, 0x5D, 0x27, 0x22])
      (later : IsHeading rest) : IsHeading (byte :: rest)
  | quoted {mark : UInt8} {literal rest : Bytes} (isMark : mark = 0x27 ∨ mark = 0x22)
      (absent : mark ∉ literal) (later : IsHeading rest) :
      IsHeading (mark :: (literal ++ mark :: rest))

/-- Declarations, comments and instructions, with blanks and references between them. -/
inductive IsSubset : Bytes → Prop where
  | nil : IsSubset []
  | between {byte : UInt8} {rest : Bytes} (free : byte ≠ 0x3C ∧ byte ≠ 0x5D)
      (later : IsSubset rest) : IsSubset (byte :: rest)
  | comment {text rest : Bytes} (upTo : Bytes.IsUpTo commentEnd text) (later : IsSubset rest) :
      IsSubset (commentStart ++ text ++ commentEnd ++ rest)
  | instruction {text rest : Bytes} (upTo : Bytes.IsUpTo instructionEnd text)
      (later : IsSubset rest) : IsSubset (instructionStart ++ text ++ instructionEnd ++ rest)
  | declaration {first : UInt8} {content rest : Bytes}
      (named : (Char.ofNat first.toNat).isAlpha = true) (isHeading : IsHeading (first :: content))
      (later : IsSubset rest) : IsSubset (0x3C :: 0x21 :: (first :: content ++ 0x3E :: rest))

/-- A document type as its declarations make it: a bracket in a comment or a literal counts
for nothing. -/
def IsDocumentType (piece : Bytes) : Prop :=
  ∃ heading, IsHeading heading ∧
    (piece = Bytes.ofText "<!DOCTYPE" ++ heading ++ [0x3E] ∨
      ∃ subset blanks, IsSubset subset ∧ blanks.all isTagBlank = true ∧
        piece = Bytes.ofText "<!DOCTYPE" ++ heading ++
          0x5B :: (subset ++ 0x5D :: (blanks ++ [0x3E])))

theorem isHeading_of_plain {heading : Bytes}
    (free : ∀ byte ∈ heading, byte ∉ [0x3C, 0x3E, 0x5B, 0x5D, 0x27, 0x22]) :
    IsHeading heading := by
  induction heading with
  | nil => exact .nil
  | cons byte rest inductionHypothesis =>
      exact .plain (free byte List.mem_cons_self)
        (inductionHypothesis fun other member => free other (List.mem_cons_of_mem _ member))

/-- A document type whose comment holds an opening bracket. -/
def sampleDoctype : Bytes := Bytes.ofText "<!DOCTYPE Envelope [<!-- < -->]>"

theorem sampleDoctype_isDocumentType : IsDocumentType sampleDoctype := by
  have noBracket : (0x3E : UInt8) ∉ Bytes.ofText " < " := by decide
  refine ⟨Bytes.ofText " Envelope ", isHeading_of_plain (by decide +kernel), .inr
    ⟨commentStart ++ Bytes.ofText " < " ++ commentEnd ++ [], [],
      .comment (Aside.isUpTo_commentEnd noBracket) .nil, rfl, ?_⟩⟩
  decide

def sampleCommented : Bytes :=
  (Aside.comment (Bytes.ofText " > ")).bytes ++ (sampleBefore ++ sampleBehind)

/-- Behind a document type as its declarations make it, a comment can make a message
unreadable. -/
theorem decode_insert_ne_sampleDoctype :
    (some "text/xml").filter Multipart.isMultipart = none ∧
      decode (some "text/xml") (sampleDoctype ++ sampleCommented) = .ok (some sampleUncut) ∧
      IsOutside IsDocumentType sampleDoctype sampleCommented ∧ sampleRemark.IsPlain ∧
      decode (some "text/xml") (sampleDoctype ++ (sampleRemark.bytes ++ sampleCommented)) ≠
        .ok (some sampleUncut) := by
  refine ⟨by decide, ?_, ?_, sampleRemark_isPlain, fun received => ?_⟩
  · have read : (decode (some "text/xml") (sampleDoctype ++ sampleCommented)).toOption =
        some (some sampleUncut) := by
      decide +kernel
    exact eq_ok_of_toOption read
  · refine ⟨⟨[], ?_, ?_⟩, ?_⟩
    · have leads : Leads IsDocumentType ([] ++ (sampleDoctype ++ [])) [] :=
        .past List.not_mem_nil (.doctype sampleDoctype_isDocumentType) (.within List.not_mem_nil)
      rwa [List.nil_append, List.append_nil] at leads
    · rintro ⟨before, name, -, -, shape, -, -⟩
      simp at shape
    · intro first member
      have start : sampleCommented.head? = some 0x3C := by decide +kernel
      rw [start] at member
      cases member
      decide
  · have failed : (decode (some "text/xml")
        (sampleDoctype ++ (sampleRemark.bytes ++ sampleCommented))).toOption = none := by
      decide +kernel
    rw [received] at failed
    cases failed

end Envelope

end Ebms
