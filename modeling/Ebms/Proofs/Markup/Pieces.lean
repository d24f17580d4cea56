import Ebms.Proofs.Markup.Tokens

/-! # The pieces of a document

A document is a row of texts and of pieces of markup: tags, comments, literal sections,
instructions and document types.  Where a piece ends can be said without reading it byte by
byte.  The reader takes exactly such a piece at a time, whatever follows. -/

set_option autoImplicit false

namespace Ebms

namespace Bytes

/-! ## Up to a pattern -/

/-- The bytes reach up to the first place where a pattern stands, when it follows them. -/
def IsUpTo (pattern content : Bytes) : Prop := ¬ pattern <:+: content ++ pattern.dropLast

variable {pattern content front rest input before : Bytes} {byte : UInt8}

theorem isUpTo_nil (nonempty : pattern ≠ []) : IsUpTo pattern [] := by
  intro inside
  have short := inside.length_le
  have positive := List.length_pos_iff.mpr nonempty
  rw [List.nil_append, List.length_dropLast] at short
  omega

theorem isUpTo_cons_iff :
    IsUpTo pattern (byte :: content) ↔
      ¬ pattern <+: byte :: (content ++ pattern.dropLast) ∧ IsUpTo pattern content := by
  rw [IsUpTo, IsUpTo, List.cons_append, List.infix_cons_iff, not_or]

/-- At the start of its own content the pattern cannot stand for what follows, either. -/
theorem isPrefixOf_append_iff (nonempty : pattern ≠ []) (byte : UInt8) (content rest : Bytes) :
    pattern.isPrefixOf (byte :: (content ++ pattern ++ rest)) = true ↔
      pattern <+: byte :: (content ++ pattern.dropLast) := by
  have shape : byte :: (content ++ pattern ++ rest) =
      byte :: (content ++ pattern.dropLast) ++ (pattern.getLast nonempty :: rest) := by
    have whole : pattern.dropLast ++ pattern.getLast nonempty :: rest = pattern ++ rest := by
      rw [List.append_cons, List.dropLast_concat_getLast nonempty]
    rw [List.cons_append, List.append_assoc, List.append_assoc, whole]
  have positive := List.length_pos_iff.mpr nonempty
  rw [List.isPrefixOf_iff_prefix, shape]
  constructor
  · intro found
    apply List.prefix_of_prefix_length_le found (List.prefix_append _ _)
    rw [List.length_cons, List.length_append, List.length_dropLast]
    omega
  · intro found
    exact found.trans (List.prefix_append _ _)

theorem exists_of_splitOnceFrom_some (nonempty : pattern ≠ [])
    (found : splitOnceFrom pattern before input = some (front, rest)) :
    ∃ content, front = before.reverse ++ content ∧ input = content ++ pattern ++ rest ∧
      IsUpTo pattern content := by
  induction input generalizing before with
  | nil =>
      rw [splitOnceFrom, if_neg (by simpa using nonempty)] at found
      cases found
  | cons byte others inductionHypothesis =>
      rw [splitOnceFrom] at found
      split at found
      case isTrue here =>
        cases found
        obtain ⟨after, shape⟩ := List.isPrefixOf_iff_prefix.mp here
        refine ⟨[], (List.append_nil _).symm, ?_, isUpTo_nil nonempty⟩
        rw [← shape, List.drop_left, List.nil_append]
      case isFalse later =>
        obtain ⟨content, same, rfl, upTo⟩ := inductionHypothesis found
        refine ⟨byte :: content, ?_, rfl, isUpTo_cons_iff.mpr ⟨?_, upTo⟩⟩
        · rw [same, List.reverse_cons, List.append_assoc, List.singleton_append]
        · rwa [isPrefixOf_append_iff nonempty] at later

theorem splitOnceFrom_upTo (nonempty : pattern ≠ []) (upTo : IsUpTo pattern content)
    (before rest : Bytes) :
    splitOnceFrom pattern before (content ++ pattern ++ rest) =
      some (before.reverse ++ content, rest) := by
  induction content generalizing before with
  | nil =>
      obtain ⟨head, tail, rfl⟩ := List.exists_cons_of_ne_nil nonempty
      have here : (head :: tail).isPrefixOf (head :: (tail ++ rest)) = true :=
        List.isPrefixOf_iff_prefix.mpr (List.prefix_append _ _)
      rw [List.nil_append, List.cons_append, splitOnceFrom, if_pos here, ← List.cons_append,
        List.drop_left, List.append_nil]
  | cons byte others inductionHypothesis =>
      obtain ⟨notHere, upTo⟩ := isUpTo_cons_iff.mp upTo
      rw [List.cons_append, List.cons_append, splitOnceFrom,
        if_neg (by rwa [isPrefixOf_append_iff nonempty]), inductionHypothesis upTo,
        List.reverse_cons, List.append_assoc, List.singleton_append]

theorem splitOnce_eq_some_iff (nonempty : pattern ≠ []) :
    splitOnce pattern input = some (front, rest) ↔
      input = front ++ pattern ++ rest ∧ IsUpTo pattern front := by
  constructor
  · intro found
    obtain ⟨content, rfl, rfl, upTo⟩ := exists_of_splitOnceFrom_some nonempty found
    exact ⟨rfl, upTo⟩
  · rintro ⟨rfl, upTo⟩
    exact splitOnceFrom_upTo nonempty upTo [] rest

end Bytes

namespace Markup

open Bytes (IsUpTo)

variable {content front rest input passed : Bytes} {byte : UInt8} {depth : Nat}

/-! ## The content of a tag -/

/-- What may stand in a tag: quoted values, and outside of them no closing bracket. -/
inductive IsTagContent : Bytes → Prop where
  | nil : IsTagContent []
  | plain {byte : UInt8} {rest : Bytes} (open_ : byte ≠ 0x3E)
      (unquoted : ¬ (byte = 0x27 ∨ byte = 0x22)) (later : IsTagContent rest) :
      IsTagContent (byte :: rest)
  | quoted {mark : UInt8} {value rest : Bytes} (isMark : mark = 0x27 ∨ mark = 0x22)
      (absent : mark ∉ value) (later : IsTagContent rest) :
      IsTagContent (mark :: (value ++ mark :: rest))

theorem exists_of_splitTag_some {mark : UInt8}
    (found : splitTag (some mark) passed input = some (front, rest)) :
    ∃ value after, input = value ++ mark :: after ∧ mark ∉ value ∧
      splitTag none (mark :: (value.reverse ++ passed)) after = some (front, rest) := by
  induction input generalizing passed with
  | nil => cases found
  | cons byte others inductionHypothesis =>
      rw [splitTag] at found
      by_cases ends : byte = mark
      · rw [if_pos ends] at found
        refine ⟨[], others, by rw [ends, List.nil_append], List.not_mem_nil, ?_⟩
        rwa [ends] at found
      · rw [if_neg ends] at found
        obtain ⟨value, after, rfl, absent, later⟩ := inductionHypothesis found
        refine ⟨byte :: value, after, rfl, ?_, ?_⟩
        · simp [absent, Ne.symm ends]
        · rwa [List.reverse_cons, List.append_assoc, List.singleton_append]

theorem exists_of_splitTag_none
    (found : splitTag none passed input = some (front, rest)) :
    ∃ content, front = passed.reverse ++ content ∧ input = content ++ 0x3E :: rest ∧
      IsTagContent content := by
  -- A quotation is passed over as a whole, so the induction is on the length.
  induction size : input.length using Nat.strongRecOn generalizing input passed with
  | _ size inductionHypothesis =>
      cases input with
      | nil => cases found
      | cons byte others =>
          rw [List.length_cons] at size
          rw [splitTag] at found
          split at found
          case isTrue closes =>
            cases found
            exact ⟨[], (List.append_nil _).symm, by rw [closes, List.nil_append], .nil⟩
          case isFalse open_ =>
            split at found
            case isTrue isMark =>
              obtain ⟨value, after, rfl, absent, later⟩ := exists_of_splitTag_some found
              rw [List.length_append, List.length_cons] at size
              obtain ⟨content, rfl, rfl, tag⟩ := inductionHypothesis _ (by omega) later rfl
              refine ⟨byte :: (value ++ byte :: content), ?_, ?_, .quoted isMark absent tag⟩
              · simp
              · simp
            case isFalse unquoted =>
              obtain ⟨content, rfl, rfl, tag⟩ := inductionHypothesis _ (by omega) found rfl
              refine ⟨byte :: content, ?_, rfl, .plain open_ unquoted tag⟩
              rw [List.reverse_cons, List.append_assoc, List.singleton_append]

theorem splitTag_content (isContent : IsTagContent content) (passed rest : Bytes) :
    splitTag none passed (content ++ 0x3E :: rest) = some (passed.reverse ++ content, rest) := by
  induction isContent generalizing passed with
  | nil =>
      rw [List.nil_append, splitTag]
      simp
  | plain open_ unquoted later inductionHypothesis =>
      rw [List.cons_append, splitTag]
      simp only [if_neg open_, if_neg unquoted]
      rw [inductionHypothesis, List.reverse_cons, List.append_assoc, List.singleton_append]
  | @quoted mark value rest isMark absent later inductionHypothesis =>
      have open_ : mark ≠ 0x3E := by
        rcases isMark with rfl | rfl <;> decide
      rw [List.cons_append, splitTag]
      simp only [if_neg open_, if_pos isMark]
      rw [List.append_assoc, List.cons_append, splitTag_some_append absent, inductionHypothesis]
      simp

/-! ## The content of a document type -/

/-- From some depth on, brackets balance at the end and nowhere close more than was opened. -/
def BalancesFrom (depth : Nat) (content : Bytes) : Prop :=
  content.count 0x3E = depth + content.count 0x3C ∧
    ∀ before, before <+: content → before.count 0x3E ≤ depth + before.count 0x3C

theorem balancesFrom_nil_iff : BalancesFrom depth [] ↔ depth = 0 := by
  constructor
  · rintro ⟨balanced, -⟩
    simpa using balanced.symm
  · rintro rfl
    refine ⟨rfl, fun before inside => ?_⟩
    rw [List.prefix_nil.mp inside]
    exact Nat.le_refl _

theorem balancesFrom_cons {after : Nat}
    (step : ∀ bytes : Bytes, (byte :: bytes).count 0x3E + after + bytes.count 0x3C =
      bytes.count 0x3E + depth + (byte :: bytes).count 0x3C) :
    BalancesFrom depth (byte :: rest) ↔ BalancesFrom after rest := by
  constructor
  · rintro ⟨balanced, nowhere⟩
    refine ⟨?_, fun before inside => ?_⟩
    · have moved := step rest
      omega
    · have moved := step before
      have earlier := nowhere (byte :: before) (List.cons_prefix_cons.mpr ⟨rfl, inside⟩)
      omega
  · rintro ⟨balanced, nowhere⟩
    refine ⟨?_, fun before inside => ?_⟩
    · have moved := step rest
      omega
    · rcases List.prefix_cons_iff.mp inside with rfl | ⟨others, rfl, insideRest⟩
      · exact Nat.zero_le _
      · have moved := step others
        have later := nowhere others insideRest
        omega

theorem balancesFrom_opening :
    BalancesFrom depth (0x3C :: rest) ↔ BalancesFrom (depth + 1) rest := by
  apply balancesFrom_cons
  intro bytes
  rw [List.count_cons_of_ne (by decide), List.count_cons_self]
  omega

theorem balancesFrom_closing :
    BalancesFrom (depth + 1) (0x3E :: rest) ↔ BalancesFrom depth rest := by
  apply balancesFrom_cons
  intro bytes
  rw [List.count_cons_of_ne (a := 0x3C) (by decide), List.count_cons_self]
  omega

theorem not_balancesFrom_closing : ¬ BalancesFrom 0 (0x3E :: rest) := by
  rintro ⟨-, nowhere⟩
  have first := nowhere [0x3E] (List.cons_prefix_cons.mpr ⟨rfl, List.nil_prefix⟩)
  exact absurd first (by decide)

theorem balancesFrom_plain (notOpening : byte ≠ 0x3C) (notClosing : byte ≠ 0x3E) :
    BalancesFrom depth (byte :: rest) ↔ BalancesFrom depth rest := by
  apply balancesFrom_cons
  intro bytes
  rw [List.count_cons_of_ne notOpening, List.count_cons_of_ne notClosing]

theorem exists_of_splitDoctype_some
    (found : splitDoctype depth passed input = some (front, rest)) :
    ∃ content, front = passed.reverse ++ content ∧ input = content ++ 0x3E :: rest ∧
      BalancesFrom depth content := by
  induction input generalizing depth passed with
  | nil => cases found
  | cons byte others inductionHypothesis =>
      have goesOn {after : Nat}
          (later : splitDoctype after (byte :: passed) others = some (front, rest))
          (step : ∀ {content},
            BalancesFrom after content → BalancesFrom depth (byte :: content)) :
          ∃ content, front = passed.reverse ++ content ∧
            byte :: others = content ++ 0x3E :: rest ∧ BalancesFrom depth content := by
        obtain ⟨content, rfl, rfl, balanced⟩ := inductionHypothesis later
        refine ⟨byte :: content, ?_, rfl, step balanced⟩
        rw [List.reverse_cons, List.append_assoc, List.singleton_append]
      unfold splitDoctype at found
      split at found
      case isTrue opens =>
        refine goesOn found fun balanced => ?_
        rw [opens]
        exact balancesFrom_opening.mpr balanced
      case isFalse notOpening =>
        split at found
        case isTrue closes =>
          cases depth with
          | zero =>
              cases found
              refine ⟨[], (List.append_nil _).symm, ?_, balancesFrom_nil_iff.mpr rfl⟩
              rw [closes, List.nil_append]
          | succ depth =>
              refine goesOn found fun balanced => ?_
              rw [closes]
              exact balancesFrom_closing.mpr balanced
        case isFalse notClosing =>
          exact goesOn found (balancesFrom_plain notOpening notClosing).mpr

theorem splitDoctype_balanced (balanced : BalancesFrom depth content) (passed rest : Bytes) :
    splitDoctype depth passed (content ++ 0x3E :: rest) =
      some (passed.reverse ++ content, rest) := by
  induction content generalizing depth passed with
  | nil =>
      rw [balancesFrom_nil_iff.mp balanced, List.nil_append, splitDoctype, List.append_nil]
      simp
  | cons byte others inductionHypothesis =>
      have shape : passed.reverse ++ byte :: others = (byte :: passed).reverse ++ others := by
        rw [List.reverse_cons, List.append_assoc, List.singleton_append]
      rw [List.cons_append, shape]
      unfold splitDoctype
      split
      case isTrue opens =>
        rw [opens] at balanced
        exact inductionHypothesis (balancesFrom_opening.mp balanced) _
      case isFalse notOpening =>
        split
        case isTrue closes =>
          rw [closes] at balanced
          cases depth with
          | zero => exact absurd balanced not_balancesFrom_closing
          | succ depth => exact inductionHypothesis (balancesFrom_closing.mp balanced) _
        case isFalse notClosing =>
          exact inductionHypothesis ((balancesFrom_plain notOpening notClosing).mp balanced) _

/-! ## Pieces -/

def commentStart : Bytes := Bytes.ofText "<!--"

def commentEnd : Bytes := Bytes.ofText "-->"

def literalStart : Bytes := Bytes.ofText "<![CDATA["

def literalEnd : Bytes := Bytes.ofText "]]>"

def instructionStart : Bytes := Bytes.ofText "<?"

def instructionEnd : Bytes := Bytes.ofText "?>"

theorem commentStart_eq : commentStart = [0x3C, 0x21, 0x2D, 0x2D] := by decide

theorem commentEnd_eq : commentEnd = [0x2D, 0x2D, 0x3E] := by decide

theorem literalStart_eq :
    literalStart = [0x3C, 0x21, 0x5B, 0x43, 0x44, 0x41, 0x54, 0x41, 0x5B] := by decide

theorem instructionStart_eq : instructionStart = [0x3C, 0x3F] := by decide

theorem instructionEnd_eq : instructionEnd = [0x3F, 0x3E] := by decide

theorem ofText_commentMark : Bytes.ofText "--" = [0x2D, 0x2D] := by decide

theorem ofText_literalMark :
    Bytes.ofText "[CDATA[" = [0x5B, 0x43, 0x44, 0x41, 0x54, 0x41, 0x5B] := by decide

/-- A whole piece of markup; what a document type is, is left open. -/
inductive IsPiece (IsDoctype : Bytes → Prop) : Bytes → Prop where
  | tag {content : Bytes} (isContent : IsTagContent content)
      (named : ∀ first ∈ content.head?, first ≠ 0x21 ∧ first ≠ 0x3F) :
      IsPiece IsDoctype (0x3C :: (content ++ [0x3E]))
  | comment {text : Bytes} (upTo : IsUpTo commentEnd text) :
      IsPiece IsDoctype (commentStart ++ text ++ commentEnd)
  | literal {text : Bytes} (upTo : IsUpTo literalEnd text) :
      IsPiece IsDoctype (literalStart ++ text ++ literalEnd)
  | instruction {text : Bytes} (upTo : IsUpTo instructionEnd text)
      (started : text.head? ≠ some 0x3E) :
      IsPiece IsDoctype (instructionStart ++ text ++ instructionEnd)
  | doctype {piece : Bytes} (isDoctype : IsDoctype piece) : IsPiece IsDoctype piece

/-- A document type up to the first bracket at which all its brackets balance, those in its
comments and literals included. -/
def IsBalancedDoctype (piece : Bytes) : Prop :=
  ∃ first content, piece = 0x3C :: 0x21 :: (first :: content ++ [0x3E]) ∧
    (first = 0x44 ∨ first = 0x64) ∧ BalancesFrom 0 (first :: content)

/-! ## Where the reader finds them -/

theorem declarationToken_comment (input : Bytes) :
    declarationToken (0x2D :: 0x2D :: input) =
      match Bytes.splitOnce commentEnd input with
      | some (_, rest) => .ok (none, rest)
      | none => .error .unclosedMarkup := by
  rw [declarationToken, ofText_commentMark]
  rfl

theorem declarationToken_literal (input : Bytes) :
    declarationToken (0x5B :: 0x43 :: 0x44 :: 0x41 :: 0x54 :: 0x41 :: 0x5B :: input) =
      match Bytes.splitOnce literalEnd input with
      | some (raw, rest) => .ok (some (.literal raw), rest)
      | none => .error .unclosedMarkup := by
  rw [declarationToken, ofText_commentMark, ofText_literalMark]
  rfl

def doctypeFault? (content : Bytes) : Option MarkupFault :=
  if (content.take 7).map (fun b => (Char.ofNat b.toNat).toUpper) = "DOCTYPE".toList then
    if (content.drop 7).all isTagBlank then some .emptyDoctype else none
  else some .unclosedMarkup

theorem declarationToken_doctype {first : UInt8} (letter : first = 0x44 ∨ first = 0x64)
    (input : Bytes) :
    declarationToken (first :: input) =
      match splitDoctype 0 [] (first :: input) with
      | some (content, rest) =>
        match doctypeFault? content with
        | none => .ok (none, rest)
        | some fault => .error fault
      | none => .error .unclosedMarkup := by
  have noComment : (Bytes.ofText "--").isPrefixOf (first :: input) = false := by
    rw [ofText_commentMark]
    rcases letter with rfl | rfl <;> rfl
  have noLiteral : (Bytes.ofText "[CDATA[").isPrefixOf (first :: input) = false := by
    rw [ofText_literalMark]
    rcases letter with rfl | rfl <;> rfl
  rw [declarationToken, noComment, noLiteral]
  simp only [Bool.false_eq_true, if_false, if_pos letter, doctypeFault?]
  cases splitDoctype 0 [] (first :: input) with
  | none => rfl
  | some found =>
      dsimp only
      split
      · split <;> rfl
      · rfl

theorem instructionToken_eq {input : Bytes} (started : input.head? ≠ some 0x3E) :
    instructionToken input =
      match Bytes.splitOnce instructionEnd input with
      | some (_, rest) => .ok (none, rest)
      | none => .error .unclosedMarkup := by
  unfold instructionToken
  split
  · exact absurd rfl started
  · rfl

theorem markupToken_closing (input : Bytes) :
    markupToken (0x2F :: input) =
      match splitTag none [] input with
      | some (content, rest) => .ok (some (.closing (closingName content)), rest)
      | none => .error .unclosedMarkup := rfl

theorem markupToken_start {first : UInt8} {input : Bytes}
    (named : first ≠ 0x21 ∧ first ≠ 0x3F) (starts : first ≠ 0x2F) :
    markupToken (first :: input) =
      match splitTag none [] (first :: input) with
      | some (content, rest) => .ok (some (startToken content), rest)
      | none => .error .unclosedMarkup := by
  unfold markupToken
  split
  case h_1 empty => cases empty
  case h_2 shape => exact absurd (List.cons.inj shape).1 named.1
  case h_3 shape => exact absurd (List.cons.inj shape).1 named.2
  case h_4 shape => exact absurd (List.cons.inj shape).1 starts
  case h_5 => rfl

variable {piece : Bytes}

theorem exists_nextToken_tag (isContent : IsTagContent content)
    (named : ∀ first ∈ content.head?, first ≠ 0x21 ∧ first ≠ 0x3F) :
    ∃ token : Token, ∀ rest,
      nextToken (0x3C :: (content ++ [0x3E]) ++ rest) = .ok (some token, rest) := by
  have shape (content rest : Bytes) : 0x3C :: (content ++ [0x3E]) ++ rest =
      0x3C :: (content ++ 0x3E :: rest) := by simp
  cases content with
  | nil => exact ⟨startToken [], fun rest => rfl⟩
  | cons first others =>
      have named := named first rfl
      by_cases closes : first = 0x2F
      · obtain rfl := closes
        have later : IsTagContent others := by
          cases isContent with
          | plain open_ unquoted later => exact later
          | quoted isMark absent later => exact absurd isMark (by decide)
        refine ⟨.closing (closingName others), fun rest => ?_⟩
        rw [shape, nextToken, List.cons_append, markupToken_closing]
        simp only [splitTag_content later, List.reverse_nil, List.nil_append]
      · refine ⟨startToken (first :: others), fun rest => ?_⟩
        rw [shape, nextToken, List.cons_append, markupToken_start named closes,
          ← List.cons_append]
        simp only [splitTag_content isContent, List.reverse_nil, List.nil_append]

theorem nextToken_comment {text : Bytes} (upTo : IsUpTo commentEnd text) (rest : Bytes) :
    nextToken (commentStart ++ text ++ commentEnd ++ rest) = .ok (none, rest) := by
  have found : Bytes.splitOnce commentEnd (text ++ commentEnd ++ rest) = some (text, rest) :=
    (Bytes.splitOnce_eq_some_iff (by decide)).mpr ⟨rfl, upTo⟩
  have shape : commentStart ++ text ++ commentEnd ++ rest =
      0x3C :: 0x21 :: 0x2D :: 0x2D :: (text ++ commentEnd ++ rest) := by simp [commentStart_eq]
  rw [shape, nextToken, markupToken, declarationToken_comment]
  simp only [found]

theorem nextToken_literal {text : Bytes} (upTo : IsUpTo literalEnd text) (rest : Bytes) :
    nextToken (literalStart ++ text ++ literalEnd ++ rest) = .ok (some (.literal text), rest) := by
  have found : Bytes.splitOnce literalEnd (text ++ literalEnd ++ rest) = some (text, rest) :=
    (Bytes.splitOnce_eq_some_iff (by decide)).mpr ⟨rfl, upTo⟩
  have shape : literalStart ++ text ++ literalEnd ++ rest =
      0x3C :: 0x21 :: 0x5B :: 0x43 :: 0x44 :: 0x41 :: 0x54 :: 0x41 :: 0x5B ::
        (text ++ literalEnd ++ rest) := by simp [literalStart_eq]
  rw [shape, nextToken, markupToken, declarationToken_literal]
  simp only [found]

theorem nextToken_instruction {text : Bytes} (upTo : IsUpTo instructionEnd text)
    (started : text.head? ≠ some 0x3E) (rest : Bytes) :
    nextToken (instructionStart ++ text ++ instructionEnd ++ rest) = .ok (none, rest) := by
  have found : Bytes.splitOnce instructionEnd (text ++ instructionEnd ++ rest) =
      some (text, rest) :=
    (Bytes.splitOnce_eq_some_iff (by decide)).mpr ⟨rfl, upTo⟩
  have shape : instructionStart ++ text ++ instructionEnd ++ rest =
      0x3C :: 0x3F :: (text ++ instructionEnd ++ rest) := by simp [instructionStart_eq]
  have startedWhole : (text ++ instructionEnd ++ rest).head? ≠ some 0x3E := by
    cases text with
    | nil => simp [instructionEnd_eq]
    | cons first others => exact started
  rw [shape, nextToken, markupToken, instructionToken_eq startedWhole]
  simp only [found]

theorem nextToken_doctype {first : UInt8} (letter : first = 0x44 ∨ first = 0x64)
    (balances : BalancesFrom 0 (first :: content)) (rest : Bytes) :
    nextToken (0x3C :: 0x21 :: (first :: content ++ [0x3E]) ++ rest) =
      match doctypeFault? (first :: content) with
      | none => .ok (none, rest)
      | some fault => .error fault := by
  have found : splitDoctype 0 [] (first :: content ++ 0x3E :: rest) =
      some (first :: content, rest) :=
    splitDoctype_balanced balances [] rest
  have shape : 0x3C :: 0x21 :: (first :: content ++ [0x3E]) ++ rest =
      0x3C :: 0x21 :: (first :: (content ++ 0x3E :: rest)) := by simp
  rw [List.cons_append] at found
  rw [shape, nextToken, markupToken, declarationToken_doctype letter]
  simp only [found]

/-- What the reader makes of a whole piece does not depend on what follows. -/
theorem exists_nextToken_piece (whole : IsPiece IsBalancedDoctype piece) :
    (∃ token, ∀ rest, nextToken (piece ++ rest) = .ok (token, rest)) ∨
      ∃ fault, ∀ rest, nextToken (piece ++ rest) = .error fault := by
  cases whole with
  | tag isContent named =>
      obtain ⟨token, read⟩ := exists_nextToken_tag isContent named
      exact .inl ⟨some token, read⟩
  | comment upTo => exact .inl ⟨none, nextToken_comment upTo⟩
  | literal upTo => exact .inl ⟨some (.literal _), nextToken_literal upTo⟩
  | instruction upTo started => exact .inl ⟨none, nextToken_instruction upTo started⟩
  | doctype isDoctype =>
      obtain ⟨first, content, rfl, letter, balances⟩ := isDoctype
      have read := nextToken_doctype letter balances
      cases verdict : doctypeFault? (first :: content) with
      | none =>
          simp only [verdict] at read
          exact .inl ⟨none, read⟩
      | some fault =>
          simp only [verdict] at read
          exact .inr ⟨fault, read⟩

/-! ## What the reader finds is a piece -/

variable {token : Option Token}

theorem exists_piece_of_comment
    (found : declarationToken (0x2D :: 0x2D :: input) = .ok (token, rest)) :
    ∃ piece, 0x3C :: 0x21 :: 0x2D :: 0x2D :: input = piece ++ rest ∧
      IsPiece IsBalancedDoctype piece := by
  rw [declarationToken_comment] at found
  split at found
  case h_1 text rest split =>
    cases found
    obtain ⟨rfl, upTo⟩ := (Bytes.splitOnce_eq_some_iff (by decide)).mp split
    exact ⟨commentStart ++ text ++ commentEnd, by simp [commentStart_eq], .comment upTo⟩
  case h_2 => cases found

theorem exists_piece_of_literal
    (found : declarationToken (0x5B :: 0x43 :: 0x44 :: 0x41 :: 0x54 :: 0x41 :: 0x5B :: input) =
      .ok (token, rest)) :
    ∃ piece, 0x3C :: 0x21 :: 0x5B :: 0x43 :: 0x44 :: 0x41 :: 0x54 :: 0x41 :: 0x5B :: input =
      piece ++ rest ∧ IsPiece IsBalancedDoctype piece := by
  rw [declarationToken_literal] at found
  split at found
  case h_1 text rest split =>
    cases found
    obtain ⟨rfl, upTo⟩ := (Bytes.splitOnce_eq_some_iff (by decide)).mp split
    exact ⟨literalStart ++ text ++ literalEnd, by simp [literalStart_eq], .literal upTo⟩
  case h_2 => cases found

theorem exists_piece_of_doctype {first : UInt8} (letter : first = 0x44 ∨ first = 0x64)
    (found : declarationToken (first :: input) = .ok (token, rest)) :
    ∃ piece, 0x3C :: 0x21 :: first :: input = piece ++ rest ∧
      IsPiece IsBalancedDoctype piece := by
  rw [declarationToken_doctype letter] at found
  split at found
  case h_1 content rest split =>
    obtain ⟨content, rfl, shape, balances⟩ := exists_of_splitDoctype_some split
    split at found
    case h_1 =>
      cases found
      cases content with
      | nil =>
          have bracket : first = 0x3E := (List.cons.inj shape).1
          rcases letter with same | same <;> rw [same] at bracket <;>
            exact absurd bracket (by decide)
      | cons head content =>
          obtain ⟨rfl, rfl⟩ := List.cons.inj shape
          exact ⟨_, by simp, .doctype ⟨first, content, rfl, letter, balances⟩⟩
    case h_2 => cases found
  case h_2 => cases found

theorem exists_piece_of_declarationToken
    (found : declarationToken input = .ok (token, rest)) :
    ∃ piece, 0x3C :: 0x21 :: input = piece ++ rest ∧ IsPiece IsBalancedDoctype piece := by
  by_cases comment : (Bytes.ofText "--").isPrefixOf input = true
  · obtain ⟨after, rfl⟩ := List.isPrefixOf_iff_prefix.mp comment
    rw [ofText_commentMark] at found ⊢
    exact exists_piece_of_comment found
  by_cases literal : (Bytes.ofText "[CDATA[").isPrefixOf input = true
  · obtain ⟨after, rfl⟩ := List.isPrefixOf_iff_prefix.mp literal
    rw [ofText_literalMark] at found ⊢
    exact exists_piece_of_literal found
  cases input with
  | nil =>
      rw [declarationToken, if_neg comment, if_neg literal] at found
      cases found
  | cons first others =>
      by_cases letter : first = 0x44 ∨ first = 0x64
      · exact exists_piece_of_doctype letter found
      · rw [declarationToken, if_neg comment, if_neg literal] at found
        simp only [if_neg letter] at found
        cases found

theorem exists_piece_of_instructionToken
    (found : instructionToken input = .ok (token, rest)) :
    ∃ piece, 0x3C :: 0x3F :: input = piece ++ rest ∧ IsPiece IsBalancedDoctype piece := by
  unfold instructionToken at found
  split at found
  case h_1 => cases found
  case h_2 noBracket =>
    split at found
    case h_1 text rest split =>
      cases found
      obtain ⟨rfl, upTo⟩ := (Bytes.splitOnce_eq_some_iff (by decide)).mp split
      refine ⟨instructionStart ++ text ++ instructionEnd,
        by simp [instructionStart_eq, instructionEnd], .instruction upTo ?_⟩
      intro started
      cases text with
      | nil => cases started
      | cons first later =>
          cases started
          exact noBracket _ rfl
    case h_2 => cases found

theorem exists_piece_of_tag (named : ∀ first ∈ input.head?, first ≠ 0x21 ∧ first ≠ 0x3F)
    (shape : input = content ++ 0x3E :: rest) (isContent : IsTagContent content) :
    ∃ piece, 0x3C :: input = piece ++ rest ∧ IsPiece IsBalancedDoctype piece := by
  refine ⟨0x3C :: (content ++ [0x3E]), ?_, .tag isContent fun first start => named first ?_⟩
  · rw [shape]
    simp
  · rw [shape, List.head?_append, start]
    rfl

/-- Each piece that the reader takes from a document is whole. -/
theorem exists_piece_of_nextToken (found : nextToken (0x3C :: input) = .ok (token, rest)) :
    ∃ piece, 0x3C :: input = piece ++ rest ∧ IsPiece IsBalancedDoctype piece := by
  rw [nextToken] at found
  unfold markupToken at found
  split at found
  case h_1 => cases found
  case h_2 => exact exists_piece_of_declarationToken found
  case h_3 => exact exists_piece_of_instructionToken found
  case h_4 others =>
    split at found
    case h_1 content rest split =>
      cases found
      obtain ⟨content, rfl, rfl, isContent⟩ := exists_of_splitTag_none split
      have closing : IsTagContent (0x2F :: content) :=
        .plain (by decide) (by decide) isContent
      refine exists_piece_of_tag ?_ rfl closing
      intro first start
      cases start
      decide
    case h_2 => cases found
  case h_5 nonempty noDeclaration noInstruction noEnd =>
    have named : ∀ first ∈ input.head?, first ≠ 0x21 ∧ first ≠ 0x3F := by
      intro first start
      cases input with
      | nil => cases start
      | cons head others =>
          cases start
          exact ⟨fun same => noDeclaration others (by rw [same]),
            fun same => noInstruction others (by rw [same])⟩
    split at found
    case h_1 content rest split =>
      cases found
      obtain ⟨content, rfl, rfl, isContent⟩ := exists_of_splitTag_none split
      exact exists_piece_of_tag named rfl isContent
    case h_2 => cases found

end Markup

end Ebms
