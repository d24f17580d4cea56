import Ebms.Proofs.Outcome
import Ebms.Proofs.Text.Cutting
import Ebms.Proofs.Text.Encoding
import Ebms.Proofs.Multipart.Delimiters

/-! # Parts are read as they were written

Between two delimiters lies one part.  Its header ends at the first empty line,
its data are everything up to the line break before the next delimiter, and the
header lines give back media type and content id. -/

set_option autoImplicit false

namespace Ebms.Multipart

/-! ## Cutting a body at its delimiters -/

theorem splitOnceFrom_lineBreak {line : Bytes} (plain : 0x0D ∉ line) (before rest : Bytes) :
    Bytes.splitOnceFrom lineBreak before (line ++ (lineBreak ++ rest)) =
      some (before.reverse ++ line, rest) := by
  induction line generalizing before with
  | nil =>
      have starts : lineBreak.isPrefixOf (0x0D :: 0x0A :: rest) = true := by
        simp [lineBreak, List.isPrefixOf]
      have shape : [] ++ (lineBreak ++ rest) = 0x0D :: 0x0A :: rest := rfl
      rw [shape, Bytes.splitOnceFrom, if_pos starts, List.append_nil]
      rfl
  | cons byte others inductionHypothesis =>
      have different := List.ne_of_not_mem_cons plain
      have plainOthers := List.not_mem_of_not_mem_cons plain
      have unmatched : lineBreak.isPrefixOf (byte :: (others ++ (lineBreak ++ rest))) = false := by
        simp [lineBreak, List.isPrefixOf, different]
      rw [List.cons_append, Bytes.splitOnceFrom, unmatched, if_neg Bool.false_ne_true,
        inductionHypothesis plainOthers]
      simp

theorem startsFrom_eq (delimiter : Bytes) (position : Nat) (pieces : List Piece) :
    ∃ others, startsFrom delimiter position pieces = position :: others := by
  cases pieces with
  | nil => exact ⟨[], rfl⟩
  | cons piece rest => exact ⟨_, rfl⟩

theorem IsPadding.noReturn {padding : Bytes} (blank : IsPadding padding) : 0x0D ∉ padding := by
  intro return_
  have impossible := blank _ return_
  revert impossible
  decide

theorem IsPadding.not_dashes {padding : Bytes} (blank : IsPadding padding) (rest : Bytes) :
    dashes.isPrefixOf (padding ++ (lineBreak ++ rest)) = false := by
  cases padding with
  | nil => simp [dashes, lineBreak, List.isPrefixOf]
  | cons byte others =>
      have different : (0x2D : UInt8) ≠ byte := by
        rcases blank byte List.mem_cons_self with rfl | rfl <;> decide
      simp [dashes, List.isPrefixOf, different]

theorem partsAt_piece {delimiter body front rest : Bytes} {piece : PaddedPiece}
    (padded : IsPadding piece.padding) (shape : body = front ++ (piece.bytes delimiter ++ rest))
    (tail : List Nat) :
    partsAt body delimiter.length
        (front.length :: (front ++ piece.bytes delimiter).length :: tail) =
      (do
        let part ← Part.ofBytes piece.content
        let others ← partsAt body delimiter.length
          ((front ++ piece.bytes delimiter).length :: tail)
        .ok (part :: others.1, others.2)) := by
  have after : body.drop (front.length + delimiter.length) =
      piece.padding ++ (lineBreak ++ (piece.content ++ (lineBreak ++ rest))) := by
    have whole : body = (front ++ delimiter) ++
        (piece.padding ++ (lineBreak ++ (piece.content ++ (lineBreak ++ rest)))) := by
      simp [shape, PaddedPiece.bytes]
    rw [whole, ← List.length_append, List.drop_left]
  have length : (front ++ piece.bytes delimiter).length =
      front.length + delimiter.length + piece.padding.length + 2 + piece.content.length + 2 := by
    simp only [PaddedPiece.bytes, lineBreak, List.length_append, List.length_cons, List.length_nil]
    omega
  have line : skipLine body (front.length + delimiter.length) =
      front.length + delimiter.length + piece.padding.length + 2 := by
    rw [skipLine, after, Bytes.splitOnce, splitOnceFrom_lineBreak padded.noReturn]
    rfl
  have content : (body.drop (front.length + delimiter.length + piece.padding.length + 2)).take
      piece.content.length = piece.content := by
    have two : lineBreak.length = 2 := rfl
    rw [← List.drop_drop, ← List.drop_drop, after, List.drop_left, ← two, List.drop_left,
      List.take_left]
  have stop : max ((front ++ piece.bytes delimiter).length - 2)
      (front.length + delimiter.length + piece.padding.length + 2) -
        (front.length + delimiter.length + piece.padding.length + 2) = piece.content.length := by
    rw [length]
    omega
  rw [partsAt]
  simp only [after, padded.not_dashes, Bool.false_eq_true, if_false, line, stop, content]
  cases Part.ofBytes piece.content with
  | error fault => rfl
  | ok part =>
      cases partsAt body delimiter.length
          ((front ++ piece.bytes delimiter).length :: tail) <;> rfl

/-- The parts of a body, each of them read by itself, whatever follows the last delimiter. -/
theorem partsAt_padded {delimiter : Bytes} {pieces : List PaddedPiece}
    (padded : ∀ piece ∈ pieces, IsPadding piece.padding) (front epilogue : Bytes)
    (later : List Nat) :
    partsAt (front ++ (paddedBytes delimiter pieces ++ (delimiter ++ (dashes ++ epilogue))))
        delimiter.length
        (paddedStarts delimiter front.length pieces ++
          (front.length + (paddedBytes delimiter pieces).length) :: later) =
      (pieces.mapM fun piece => Part.ofBytes piece.content).map fun parts => (parts, true) := by
  induction pieces generalizing front with
  | nil =>
      have after : (front ++ (delimiter ++ (dashes ++ epilogue))).drop
          (front.length + delimiter.length) = dashes ++ epilogue := by
        rw [← List.drop_drop, List.drop_left, List.drop_left]
      have closes : dashes.isPrefixOf (dashes ++ epilogue) = true := by
        simp [dashes, List.isPrefixOf]
      have none : paddedBytes delimiter [] = [] := rfl
      simp only [none, paddedStarts, List.nil_append, List.length_nil, Nat.add_zero]
      rw [partsAt.eq_def]
      simp only [after, closes, if_true]
      rfl
  | cons piece others inductionHypothesis =>
      obtain ⟨padding, paddedOthers⟩ := List.forall_mem_cons.mp padded
      have shape : paddedBytes delimiter (piece :: others) ++
          (delimiter ++ (dashes ++ epilogue)) =
          piece.bytes delimiter ++
            (paddedBytes delimiter others ++ (delimiter ++ (dashes ++ epilogue))) := by
        simp [paddedBytes]
      have next : front.length + (piece.bytes delimiter).length =
          (front ++ piece.bytes delimiter).length := by rw [List.length_append]
      have last : front.length + (paddedBytes delimiter (piece :: others)).length =
          (front ++ piece.bytes delimiter).length + (paddedBytes delimiter others).length := by
        simp only [paddedBytes, List.flatMap_cons, List.length_append]
        omega
      have read := inductionHypothesis paddedOthers (front ++ piece.bytes delimiter)
      have starts : ∃ tail, paddedStarts delimiter (front ++ piece.bytes delimiter).length others ++
          ((front ++ piece.bytes delimiter).length + (paddedBytes delimiter others).length) ::
            later = (front ++ piece.bytes delimiter).length :: tail := by
        cases others with
        | nil => exact ⟨later, rfl⟩
        | cons other rest => exact ⟨_, rfl⟩
      obtain ⟨tail, starts⟩ := starts
      rw [starts, List.append_assoc] at read
      rw [shape, paddedStarts, next, last, List.cons_append, starts, partsAt_piece padding rfl,
        read, List.mapM_cons]
      cases Part.ofBytes piece.content with
      | error fault => rfl
      | ok part => cases others.mapM fun piece => Part.ofBytes piece.content <;> rfl

theorem partsAt_pieces {delimiter : Bytes} (pieces : List Piece) (front : Bytes) :
    partsAt (front ++ (pieces.flatMap (Piece.bytes delimiter) ++ closing delimiter))
        delimiter.length (startsFrom delimiter front.length pieces) =
      (pieces.mapM fun piece => Part.ofBytes piece.content).map fun parts => (parts, true) := by
  have padded : ∀ piece ∈ pieces.map Piece.padded, IsPadding piece.padding :=
    List.forall_mem_map.mpr fun _ _ => nofun
  have read := @partsAt_padded delimiter _ padded front lineBreak []
  rw [← startsFrom_eq_padded, paddedBytes_map_padded, List.mapM_map] at read
  exact read

/-! ## The header of a part -/

theorem splitOnceFrom_line {line : Bytes} (noBreak : ¬ lineBreak <:+: line) (before rest : Bytes) :
    Bytes.splitOnceFrom (lineBreak ++ lineBreak) before (line ++ (lineBreak ++ rest)) =
      if lineBreak.isPrefixOf rest then some (before.reverse ++ line, rest.drop 2)
      else Bytes.splitOnceFrom (lineBreak ++ lineBreak)
        (lineBreak.reverse ++ line.reverse ++ before) rest := by
  induction line generalizing before with
  | nil =>
      have matched : (lineBreak ++ lineBreak).isPrefixOf (0x0D :: 0x0A :: rest) =
          lineBreak.isPrefixOf rest := by
        simp [lineBreak, List.isPrefixOf]
      have unmatched : (lineBreak ++ lineBreak).isPrefixOf (0x0A :: rest) = false := by
        simp [lineBreak, List.isPrefixOf]
      have shape : ([] : Bytes) ++ (lineBreak ++ rest) = 0x0D :: 0x0A :: rest := rfl
      rw [shape, Bytes.splitOnceFrom, matched, Bytes.splitOnceFrom, unmatched,
        if_neg Bool.false_ne_true, List.append_nil]
      rfl
  | cons byte others inductionHypothesis =>
      have unmatched : (lineBreak ++ lineBreak).isPrefixOf
          (byte :: (others ++ (lineBreak ++ rest))) = false := by
        by_cases return_ : byte = 0x0D
        · cases others with
          | nil => simp [lineBreak, List.isPrefixOf]
          | cons next more =>
              have noFeed : (0x0A : UInt8) ≠ next := by
                intro feed
                apply noBreak
                rw [return_, ← feed]
                exact ⟨[], more, rfl⟩
              simp [lineBreak, List.isPrefixOf, noFeed]
        · have different : (0x0D : UInt8) ≠ byte := fun same => return_ same.symm
          simp [lineBreak, List.isPrefixOf, different]
      rw [List.cons_append, Bytes.splitOnceFrom, unmatched, if_neg Bool.false_ne_true,
        inductionHypothesis (lineBreak_infix_cons noBreak)]
      simp

theorem lineBreak_isPrefixOf_line {line : Bytes} (nonempty : line ≠ [])
    (noBreak : ¬ lineBreak <:+: line) (rest : Bytes) :
    lineBreak.isPrefixOf (line ++ (lineBreak ++ rest)) = false := by
  match line with
  | [] => exact absurd rfl nonempty
  | [byte] => simp [lineBreak, List.isPrefixOf]
  | byte :: next :: others =>
      have apart : ¬ ((0x0D : UInt8) = byte ∧ (0x0A : UInt8) = next) := by
        rintro ⟨rfl, rfl⟩
        exact noBreak ⟨[], others, rfl⟩
      simpa [lineBreak, List.isPrefixOf] using apart

/-- A header ends behind the last of its lines, none of which has a line break inside. -/
theorem splitOnceFrom_lines {line : Bytes} {others : List Bytes}
    (noBreaks : ∀ l ∈ line :: others, ¬ lineBreak <:+: l) (nonempty : ∀ l ∈ others, l ≠ [])
    (before data : Bytes) :
    Bytes.splitOnceFrom (lineBreak ++ lineBreak) before
        (lineBreak.intercalate (line :: others) ++ (lineBreak ++ (lineBreak ++ data))) =
      some (before.reverse ++ lineBreak.intercalate (line :: others), data) := by
  obtain ⟨noBreak, noBreakOthers⟩ := List.forall_mem_cons.mp noBreaks
  induction others generalizing line before with
  | nil =>
      have ends : lineBreak.isPrefixOf (lineBreak ++ data) = true := by
        simp [lineBreak, List.isPrefixOf]
      rw [List.intercalate_singleton, splitOnceFrom_line noBreak, if_pos ends]
      rfl
  | cons next others inductionHypothesis =>
      obtain ⟨nextNonempty, othersNonempty⟩ := List.forall_mem_cons.mp nonempty
      obtain ⟨nextNoBreak, othersNoBreak⟩ := List.forall_mem_cons.mp noBreakOthers
      have follows : ∃ rest, lineBreak.intercalate (next :: others) ++
          (lineBreak ++ (lineBreak ++ data)) = next ++ (lineBreak ++ rest) := by
        cases others with
        | nil => exact ⟨lineBreak ++ data, by rw [List.intercalate_singleton]⟩
        | cons other others =>
            rw [List.intercalate_cons_cons]
            exact ⟨_, by rw [List.append_assoc, List.append_assoc]⟩
      have unended : lineBreak.isPrefixOf (lineBreak.intercalate (next :: others) ++
          (lineBreak ++ (lineBreak ++ data))) = false := by
        obtain ⟨rest, shape⟩ := follows
        rw [shape, lineBreak_isPrefixOf_line nextNonempty nextNoBreak]
      rw [List.intercalate_cons_cons, List.append_assoc, List.append_assoc,
        splitOnceFrom_line noBreak, unended, if_neg Bool.false_ne_true,
        inductionHypothesis noBreakOthers othersNonempty _ nextNoBreak othersNoBreak]
      simp

theorem linesFrom_line {chars : List Char} (noBreak : ¬ ['\r', '\n'] <:+: chars)
    (lines : List (List Char)) (line rest : List Char) :
    linesFrom lines line (chars ++ '\r' :: '\n' :: rest) =
      linesFrom ((line.reverse ++ chars) :: lines) [] rest := by
  induction chars generalizing line with
  | nil => simp [linesFrom]
  | cons c others inductionHypothesis =>
      have noBreakOthers : ¬ ['\r', '\n'] <:+: others := by
        intro inside
        exact noBreak (inside.trans (List.suffix_cons c others).isInfix)
      have step : linesFrom lines line (c :: (others ++ '\r' :: '\n' :: rest)) =
          linesFrom lines (c :: line) (others ++ '\r' :: '\n' :: rest) := by
        rw [linesFrom]
        intro tail return_ feed
        cases others with
        | nil => exact absurd (List.cons.inj feed).1 (by decide)
        | cons next more =>
            apply noBreak
            rw [return_, (List.cons.inj feed).1]
            exact ⟨[], more, rfl⟩
      rw [List.cons_append, step, inductionHypothesis noBreakOthers]
      simp

theorem linesFrom_last {chars : List Char} (noBreak : ¬ ['\r', '\n'] <:+: chars)
    (lines : List (List Char)) (line : List Char) :
    linesFrom lines line chars = ((line.reverse ++ chars) :: lines).reverse := by
  induction chars generalizing line with
  | nil => simp [linesFrom]
  | cons c others inductionHypothesis =>
      have noBreakOthers : ¬ ['\r', '\n'] <:+: others := by
        intro inside
        exact noBreak (inside.trans (List.suffix_cons c others).isInfix)
      have step : linesFrom lines line (c :: others) = linesFrom lines (c :: line) others := by
        rw [linesFrom]
        intro tail return_ feed
        apply noBreak
        rw [return_, feed]
        exact ⟨[], tail, rfl⟩
      rw [step, inductionHypothesis noBreakOthers]
      simp

theorem linesFrom_lines {line : List Char} {others : List (List Char)}
    (noBreaks : ∀ l ∈ line :: others, ¬ ['\r', '\n'] <:+: l) (read : List (List Char)) :
    linesFrom read [] (['\r', '\n'].intercalate (line :: others)) =
      read.reverse ++ line :: others := by
  obtain ⟨noBreak, noBreakOthers⟩ := List.forall_mem_cons.mp noBreaks
  induction others generalizing line read with
  | nil =>
      rw [List.intercalate_singleton, linesFrom_last noBreak, List.reverse_cons]
      rfl
  | cons next others inductionHypothesis =>
      obtain ⟨nextNoBreak, othersNoBreak⟩ := List.forall_mem_cons.mp noBreakOthers
      have shape : line ++ ['\r', '\n'] ++ ['\r', '\n'].intercalate (next :: others) =
          line ++ '\r' :: '\n' :: ['\r', '\n'].intercalate (next :: others) := by simp
      rw [List.intercalate_cons_cons, shape, linesFrom_line noBreak,
        inductionHypothesis noBreakOthers _ nextNoBreak othersNoBreak]
      simp

end Ebms.Multipart
