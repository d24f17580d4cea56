import Ebms.Multipart

/-! # Where delimiters are found

A delimiter counts at the start of a line only, and one that holds no line break
lies inside a single line.  So a body can be searched line by line: the search
comes to every line break with nothing left to skip, passes over data in which
the delimiter does not occur, and notes exactly the lines that begin with it. -/

set_option autoImplicit false

namespace Ebms.Multipart

/-- Nothing is noted in these bytes: no line that starts in them begins with the
delimiter.  The two flags say what stands before them. -/
def Quiet (delimiter : Bytes) : Bool → Bool → Bytes → Prop
  | _, _, [] => True
  | afterReturn, atLineStart, byte :: rest =>
    (atLineStart = true → ¬ delimiter <+: byte :: rest) ∧
      Quiet delimiter (byte == 0x0D) (afterReturn && byte == 0x0A) rest

/-- A delimiter that can be searched for line by line. -/
structure OneLine (delimiter : Bytes) : Prop where
  nonempty : delimiter ≠ []
  noReturn : 0x0D ∉ delimiter
  noFeed : 0x0A ∉ delimiter

variable {delimiter : Bytes}

theorem quiet_of_absent {bytes : Bytes} (absent : ¬ delimiter <:+: bytes)
    (afterReturn atLineStart : Bool) : Quiet delimiter afterReturn atLineStart bytes := by
  induction bytes generalizing afterReturn atLineStart with
  | nil => trivial
  | cons byte rest inductionHypothesis =>
      refine ⟨fun _ starts => absent starts.isInfix, inductionHypothesis ?_ _ _⟩
      intro inRest
      exact absent (inRest.trans (List.suffix_cons byte rest).isInfix)

/-- No line of these bytes begins with the delimiter. -/
def BeginsNoLine (delimiter bytes : Bytes) : Prop :=
  ∀ before after, before ++ after = bytes → (before = [] ∨ lineBreak <:+ before) →
    ¬ delimiter <+: after

theorem BeginsNoLine.left {first second : Bytes}
    (none : BeginsNoLine delimiter (first ++ second)) : BeginsNoLine delimiter first := by
  rintro before after rfl lineStart starts
  exact none before (after ++ second) (List.append_assoc ..).symm lineStart
    (starts.trans (List.prefix_append _ _))

theorem beginsNoLine_of_absent {bytes : Bytes} (absent : ¬ delimiter <:+: bytes) :
    BeginsNoLine delimiter bytes := by
  rintro before after rfl - starts
  exact absent (starts.isInfix.trans (List.suffix_append before after).isInfix)

theorem quiet_of_lines {passed bytes : Bytes} {afterReturn atLineStart : Bool}
    (return_ : afterReturn = true → [0x0D] <:+ passed)
    (lineStart : atLineStart = true → passed = [] ∨ lineBreak <:+ passed)
    (none : ∀ after before, before ++ after = passed ++ bytes →
      (before = [] ∨ lineBreak <:+ before) → ¬ delimiter <+: after) :
    Quiet delimiter afterReturn atLineStart bytes := by
  induction bytes generalizing passed afterReturn atLineStart with
  | nil => trivial
  | cons byte rest inductionHypothesis =>
      refine ⟨fun started => none _ passed rfl (lineStart started), ?_⟩
      have shape : passed ++ byte :: rest = (passed ++ [byte]) ++ rest := by simp
      rw [shape] at none
      refine inductionHypothesis (fun isReturn => ?_) (fun isFeed => .inr ?_) none
      · rw [eq_of_beq isReturn]
        exact List.suffix_append _ _
      · obtain ⟨isReturn, isFeed⟩ := Bool.and_eq_true_iff.mp isFeed
        obtain ⟨front, rfl⟩ := return_ isReturn
        rw [eq_of_beq isFeed]
        exact ⟨front, by simp [lineBreak]⟩

theorem BeginsNoLine.quiet {bytes : Bytes} (none : BeginsNoLine delimiter bytes) :
    Quiet delimiter false true bytes :=
  @quiet_of_lines delimiter [] bytes false true nofun (fun _ => .inl rfl) fun after before =>
    none before after

theorem noBreak_of_noFeed {bytes : Bytes} (noFeed : 0x0A ∉ bytes) : ¬ lineBreak <:+: bytes := by
  intro inside
  exact noFeed (inside.subset (by decide))

theorem lineBreak_infix_cons {byte : UInt8} {rest : Bytes}
    (absent : ¬ lineBreak <:+: byte :: rest) : ¬ lineBreak <:+: rest := by
  intro inRest
  exact absent (inRest.trans (List.suffix_cons byte rest).isInfix)

theorem quiet_of_noBreak {bytes : Bytes} (noBreak : ¬ lineBreak <:+: bytes) {afterReturn : Bool}
    (noFeed : afterReturn = true → bytes.head? ≠ some 0x0A) :
    Quiet delimiter afterReturn false bytes := by
  induction bytes generalizing afterReturn with
  | nil => trivial
  | cons byte rest inductionHypothesis =>
      have stillInside : (afterReturn && byte == 0x0A) = false := by
        cases afterReturn with
        | false => rfl
        | true =>
            have different := noFeed rfl
            simpa using different
      refine ⟨by simp, ?_⟩
      rw [stillInside]
      apply inductionHypothesis (lineBreak_infix_cons noBreak)
      intro return_ feed
      rw [beq_iff_eq] at return_
      cases rest with
      | nil => cases feed
      | cons next others =>
          rw [List.head?_cons, Option.some.injEq] at feed
          apply noBreak
          rw [return_, feed]
          exact ⟨[], others, rfl⟩

theorem prefix_of_prefix_break (oneLine : OneLine delimiter) {front rest : Bytes}
    (starts : delimiter <+: front ++ 0x0D :: rest) : delimiter <+: front := by
  apply List.prefix_of_prefix_length_le starts (List.prefix_append _ _)
  apply Nat.le_of_not_lt
  intro longer
  obtain ⟨tail, whole⟩ := starts
  have inside : (0x0D : UInt8) ∈ delimiter := by
    have shape : front ++ 0x0D :: rest = (front ++ [0x0D]) ++ rest := by simp
    rw [shape] at whole
    have covers : front ++ [0x0D] <+: delimiter := by
      apply List.prefix_of_prefix_length_le (List.prefix_append _ rest)
      · rw [← whole]
        exact List.prefix_append _ _
      · rw [List.length_append]
        exact longer
    exact covers.subset (by simp)
  exact oneLine.noReturn inside

theorem not_isPrefixOf_of_not_mem (oneLine : OneLine delimiter) {byte : UInt8}
    (absent : byte ∉ delimiter) (rest : Bytes) :
    delimiter.isPrefixOf (byte :: rest) = false := by
  obtain ⟨first, others, shape⟩ := List.exists_cons_of_ne_nil oneLine.nonempty
  have different : first ≠ byte := by
    intro same
    apply absent
    rw [shape, same]
    exact List.mem_cons_self
  simp [shape, List.isPrefixOf, different]

theorem quiet_append_break (oneLine : OneLine delimiter) {front rest : Bytes}
    {afterReturn atLineStart : Bool} (quiet : Quiet delimiter afterReturn atLineStart front)
    (quietRest : Quiet delimiter false true rest) :
    Quiet delimiter afterReturn atLineStart (front ++ (lineBreak ++ rest)) := by
  induction front generalizing afterReturn atLineStart with
  | nil =>
      have noReturn (byte : UInt8) (others : Bytes) (absent : byte ∉ delimiter) :
          ¬ delimiter <+: byte :: others := by
        intro starts
        have matched := List.isPrefixOf_iff_prefix.mpr starts
        rw [not_isPrefixOf_of_not_mem oneLine absent] at matched
        cases matched
      refine ⟨fun _ => noReturn _ _ oneLine.noReturn, fun _ => noReturn _ _ oneLine.noFeed, ?_⟩
      exact quietRest
  | cons byte others inductionHypothesis =>
      obtain ⟨unnoted, quietOthers⟩ := quiet
      refine ⟨fun start starts => unnoted start ?_, inductionHypothesis quietOthers⟩
      have shape : byte :: (others ++ (lineBreak ++ rest)) =
          (byte :: others) ++ 0x0D :: 0x0A :: rest := rfl
      exact prefix_of_prefix_break oneLine (shape ▸ starts)

theorem quiet_line {line : Bytes} (noBreak : ¬ lineBreak <:+: line)
    (different : line.head? ≠ delimiter.head?) (nonempty : delimiter ≠ []) :
    Quiet delimiter false true line := by
  cases line with
  | nil => trivial
  | cons byte rest =>
      refine ⟨?_, ?_⟩
      · rintro - ⟨tail, whole⟩
        apply different
        obtain ⟨first, others, shape⟩ := List.exists_cons_of_ne_nil nonempty
        rw [← whole, shape]
        rfl
      · apply quiet_of_noBreak (lineBreak_infix_cons noBreak)
        intro return_ feed
        rw [beq_iff_eq] at return_
        cases rest with
        | nil => cases feed
        | cons next others =>
            rw [List.head?_cons, Option.some.injEq] at feed
            apply noBreak
            rw [return_, feed]
            exact ⟨[], others, rfl⟩

/-- The search comes through a quiet line to the line after it. -/
theorem offsetsFrom_quiet (oneLine : OneLine delimiter) {line : Bytes} {skip : Nat}
    (inside : skip ≤ line.length) {afterReturn atLineStart : Bool}
    (quiet : Quiet delimiter afterReturn atLineStart line) (found : List Nat) (position : Nat)
    (rest : Bytes) :
    offsetsFrom delimiter found position skip afterReturn atLineStart
        (line ++ 0x0D :: 0x0A :: rest) =
      offsetsFrom delimiter found (position + line.length + 2) 0 false true rest := by
  induction line generalizing skip afterReturn atLineStart position with
  | nil =>
      have none : skip = 0 := by simpa using inside
      rw [none, List.nil_append, offsetsFrom]
      simp only [not_isPrefixOf_of_not_mem oneLine oneLine.noReturn, Bool.false_eq_true, if_false]
      rw [offsetsFrom]
      simp only [not_isPrefixOf_of_not_mem oneLine oneLine.noFeed, Bool.false_eq_true, if_false]
      rfl
  | cons byte others inductionHypothesis =>
      obtain ⟨unnoted, quietOthers⟩ := quiet
      have next : position + 1 + others.length + 2 = position + (byte :: others).length + 2 := by
        rw [List.length_cons]
        omega
      rw [List.length_cons] at inside
      cases skip with
      | succ skip =>
          rw [List.cons_append, offsetsFrom, inductionHypothesis (by omega) quietOthers, next]
      | zero =>
          rw [List.cons_append, offsetsFrom]
          split
          case isTrue starts =>
            -- A match in the line lies inside it; it is noted at a line start only.
            have starts : delimiter <+: byte :: others :=
              prefix_of_prefix_break oneLine (List.isPrefixOf_iff_prefix.mp starts)
            have notAtStart : atLineStart = false := by
              cases atLineStart with
              | false => rfl
              | true => exact absurd starts (unnoted rfl)
            have short := starts.length_le
            rw [List.length_cons] at short
            rw [notAtStart, if_neg Bool.false_ne_true,
              inductionHypothesis (by omega) quietOthers, next]
          case isFalse =>
            rw [inductionHypothesis (by omega) quietOthers, next]

theorem offsetsFrom_delimiter (oneLine : OneLine delimiter) {tail : Bytes}
    (noBreak : ¬ lineBreak <:+: delimiter ++ tail) (found : List Nat) (position : Nat)
    (afterReturn : Bool) (rest : Bytes) :
    offsetsFrom delimiter found position 0 afterReturn true
        (delimiter ++ tail ++ 0x0D :: 0x0A :: rest) =
      offsetsFrom delimiter (position :: found)
        (position + (delimiter ++ tail).length + 2) 0 false true rest := by
  obtain ⟨first, others, shape⟩ := List.exists_cons_of_ne_nil oneLine.nonempty
  have noReturn : (first == 0x0D) = false := by
    rw [beq_eq_false_iff_ne]
    intro same
    apply oneLine.noReturn
    rw [shape, same]
    exact List.mem_cons_self
  have noFeed : (first == 0x0A) = false := by
    rw [beq_eq_false_iff_ne]
    intro same
    apply oneLine.noFeed
    rw [shape, same]
    exact List.mem_cons_self
  have starts : delimiter.isPrefixOf (first :: (others ++ tail ++ 0x0D :: 0x0A :: rest)) := by
    rw [List.isPrefixOf_iff_prefix, shape]
    exact ⟨tail ++ 0x0D :: 0x0A :: rest, by simp⟩
  have quiet : Quiet delimiter false false (others ++ tail) := by
    apply quiet_of_noBreak
    · rw [shape, List.cons_append] at noBreak
      exact lineBreak_infix_cons noBreak
    · intro impossible
      cases impossible
  have length : delimiter.length - 1 = others.length := by rw [shape]; rfl
  have whole : delimiter ++ tail ++ 0x0D :: 0x0A :: rest =
      first :: (others ++ tail ++ 0x0D :: 0x0A :: rest) := by simp [shape]
  have next : position + 1 + (others ++ tail).length + 2 =
      position + (delimiter ++ tail).length + 2 := by
    rw [shape, List.cons_append, List.length_cons]
    omega
  rw [whole, offsetsFrom, if_pos starts, noReturn, noFeed, Bool.and_false, if_pos rfl, length,
    offsetsFrom_quiet oneLine (by simp) quiet, next]

/-- The search keeps what it has found, and what it finds later does not depend on it. -/
theorem offsetsFrom_found (found : List Nat) (position skip : Nat)
    (afterReturn atLineStart : Bool) (bytes : Bytes) :
    offsetsFrom delimiter found position skip afterReturn atLineStart bytes =
      found.reverse ++ offsetsFrom delimiter [] position skip afterReturn atLineStart bytes := by
  induction bytes generalizing found position skip afterReturn atLineStart with
  | nil => simp [offsetsFrom]
  | cons byte rest inductionHypothesis =>
      cases skip with
      | succ skip => rw [offsetsFrom, inductionHypothesis, offsetsFrom]
      | zero =>
          rw [offsetsFrom, offsetsFrom]
          split
          case isTrue =>
            cases atLineStart with
            | false => exact inductionHypothesis _ _ _ _ _
            | true =>
                rw [if_pos rfl, if_pos rfl, inductionHypothesis, inductionHypothesis [position]]
                simp
          case isFalse => exact inductionHypothesis _ _ _ _ _

/-! ## The delimiters of a message -/

structure Piece where
  head : Bytes
  data : Bytes

/-- What stands between the delimiter line of a part and its closing line break. -/
def Piece.content (piece : Piece) : Bytes := piece.head ++ (lineBreak ++ lineBreak) ++ piece.data

def Piece.bytes (delimiter : Bytes) (piece : Piece) : Bytes :=
  delimiter ++ (lineBreak ++ (piece.content ++ lineBreak))

structure Piece.IsQuiet (delimiter : Bytes) (piece : Piece) : Prop where
  head : Quiet delimiter false true piece.head
  data : Quiet delimiter false true piece.data

def closing (delimiter : Bytes) : Bytes := delimiter ++ (dashes ++ lineBreak)

def startsFrom (delimiter : Bytes) (position : Nat) : List Piece → List Nat
  | [] => [position]
  | piece :: others =>
    position :: startsFrom delimiter (position + (piece.bytes delimiter).length) others

theorem Piece.quiet_content (oneLine : OneLine delimiter) {piece : Piece}
    (quiet : piece.IsQuiet delimiter) : Quiet delimiter false true piece.content := by
  have empty : Quiet delimiter false true [] := trivial
  have shape : piece.content =
      piece.head ++ (lineBreak ++ ([] ++ (lineBreak ++ piece.data))) := by
    simp [Piece.content]
  rw [shape]
  exact quiet_append_break oneLine quiet.head (quiet_append_break oneLine empty quiet.data)

theorem not_infix_lineBreak (oneLine : OneLine delimiter) {tail : Bytes} (plain : 0x0A ∉ tail) :
    ¬ lineBreak <:+: delimiter ++ tail := by
  apply noBreak_of_noFeed
  intro feed
  rcases List.mem_append.mp feed with inDelimiter | inTail
  · exact oneLine.noFeed inDelimiter
  · exact plain inTail

def IsPadding (padding : Bytes) : Prop := ∀ byte ∈ padding, byte = 0x20 ∨ byte = 0x09

structure PaddedPiece extends Piece where
  padding : Bytes

def PaddedPiece.bytes (delimiter : Bytes) (piece : PaddedPiece) : Bytes :=
  delimiter ++ (piece.padding ++ (lineBreak ++ (piece.content ++ lineBreak)))

def paddedBytes (delimiter : Bytes) (pieces : List PaddedPiece) : Bytes :=
  pieces.flatMap (PaddedPiece.bytes delimiter)

def paddedStarts (delimiter : Bytes) (position : Nat) : List PaddedPiece → List Nat
  | [] => []
  | piece :: others =>
    position :: paddedStarts delimiter (position + (piece.bytes delimiter).length) others

theorem IsPadding.noFeed {padding : Bytes} (blank : IsPadding padding) : 0x0A ∉ padding := by
  intro feed
  have impossible := blank _ feed
  revert impossible
  decide

/-- The search comes through the parts and finds the delimiter of each of them. -/
theorem offsetsFrom_padded (oneLine : OneLine delimiter) {pieces : List PaddedPiece}
    (padded : ∀ piece ∈ pieces, IsPadding piece.padding)
    (quiet : ∀ piece ∈ pieces, Quiet delimiter false true piece.content) (found : List Nat)
    (position : Nat) (rest : Bytes) :
    offsetsFrom delimiter found position 0 false true (paddedBytes delimiter pieces ++ rest) =
      offsetsFrom delimiter ((paddedStarts delimiter position pieces).reverse ++ found)
        (position + (paddedBytes delimiter pieces).length) 0 false true rest := by
  induction pieces generalizing found position with
  | nil => rfl
  | cons piece others inductionHypothesis =>
      obtain ⟨padding, paddedOthers⟩ := List.forall_mem_cons.mp padded
      obtain ⟨content, quietOthers⟩ := List.forall_mem_cons.mp quiet
      have line : ¬ lineBreak <:+: delimiter ++ piece.padding :=
        not_infix_lineBreak oneLine padding.noFeed
      have shape : paddedBytes delimiter (piece :: others) ++ rest =
          delimiter ++ piece.padding ++ 0x0D :: 0x0A :: (piece.content ++ 0x0D :: 0x0A ::
            (paddedBytes delimiter others ++ rest)) := by
        simp [paddedBytes, PaddedPiece.bytes, lineBreak]
      have next : position + (delimiter ++ piece.padding).length + 2 + piece.content.length + 2 =
          position + (piece.bytes delimiter).length := by
        simp only [PaddedPiece.bytes, lineBreak, List.length_append, List.length_cons,
          List.length_nil]
        omega
      have last : position + (piece.bytes delimiter).length +
          (paddedBytes delimiter others).length =
            position + (paddedBytes delimiter (piece :: others)).length := by
        simp only [paddedBytes, List.flatMap_cons, List.length_append]
        omega
      rw [shape, offsetsFrom_delimiter oneLine line,
        offsetsFrom_quiet oneLine (Nat.zero_le _) content, next,
        inductionHypothesis paddedOthers quietOthers, last, paddedStarts, List.reverse_cons,
        List.append_assoc]
      rfl

def Piece.padded (piece : Piece) : PaddedPiece := { piece with padding := [] }

theorem paddedBytes_map_padded (pieces : List Piece) :
    paddedBytes delimiter (pieces.map Piece.padded) = pieces.flatMap (Piece.bytes delimiter) := by
  rw [paddedBytes, List.flatMap_map]
  rfl

theorem startsFrom_eq_padded (position : Nat) (pieces : List Piece) :
    startsFrom delimiter position pieces =
      paddedStarts delimiter position (pieces.map Piece.padded) ++
        [position + (paddedBytes delimiter (pieces.map Piece.padded)).length] := by
  induction pieces generalizing position with
  | nil => rfl
  | cons piece others inductionHypothesis =>
      rw [startsFrom, inductionHypothesis, paddedBytes_map_padded, paddedBytes_map_padded,
        List.flatMap_cons, List.length_append, Nat.add_assoc]
      rfl

/-- The search finds the delimiters of the parts and the last one, and no other. -/
theorem offsetsFrom_pieces (oneLine : OneLine delimiter) {pieces : List Piece}
    (quiet : ∀ piece ∈ pieces, piece.IsQuiet delimiter) (found : List Nat) (position : Nat) :
    offsetsFrom delimiter found position 0 false true
        (pieces.flatMap (Piece.bytes delimiter) ++ closing delimiter) =
      found.reverse ++ startsFrom delimiter position pieces := by
  have padded : ∀ piece ∈ pieces.map Piece.padded, IsPadding piece.padding :=
    List.forall_mem_map.mpr fun _ _ => nofun
  have contents : ∀ piece ∈ pieces.map Piece.padded, Quiet delimiter false true piece.content :=
    List.forall_mem_map.mpr fun piece member => piece.quiet_content oneLine (quiet piece member)
  have shape : closing delimiter = delimiter ++ dashes ++ 0x0D :: 0x0A :: [] := by
    simp [closing, lineBreak]
  rw [← paddedBytes_map_padded, offsetsFrom_padded oneLine padded contents, shape,
    offsetsFrom_delimiter oneLine (not_infix_lineBreak oneLine (by decide)), offsetsFrom,
    startsFrom_eq_padded]
  simp

end Ebms.Multipart
