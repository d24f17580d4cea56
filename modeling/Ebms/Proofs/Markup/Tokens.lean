import Ebms.Proofs.Markup.Tags

/-! # Reading piece by piece

Every piece of a document takes at least one byte, so that reading needs no
bound on the number of steps.  What a written tag, end tag or text is read as
follows from how each of them ends. -/

set_option autoImplicit false

namespace Ebms.Markup

/-! ## Every piece takes a byte -/

theorem splitTag_shorter {quote : Option UInt8} {passed input content rest : Bytes}
    (found : splitTag quote passed input = some (content, rest)) :
    rest.length < input.length := by
  induction input generalizing quote passed with
  | nil => cases found
  | cons byte others inductionHypothesis =>
      rw [List.length_cons]
      unfold splitTag at found
      cases quote with
      | none =>
          dsimp only at found
          split at found
          case isTrue =>
            cases found
            omega
          case isFalse =>
            split at found
            all_goals
              have shorter := inductionHypothesis found
              omega
      | some mark =>
          have shorter := inductionHypothesis found
          omega

theorem splitDoctype_shorter {depth : Nat} {passed input content rest : Bytes}
    (found : splitDoctype depth passed input = some (content, rest)) :
    rest.length < input.length := by
  induction input generalizing depth passed with
  | nil => cases found
  | cons byte others inductionHypothesis =>
      rw [List.length_cons]
      unfold splitDoctype at found
      split at found
      case isTrue =>
        have shorter := inductionHypothesis found
        omega
      case isFalse =>
        split at found
        case isTrue =>
          cases depth with
          | zero =>
              cases found
              omega
          | succ depth =>
              have shorter := inductionHypothesis found
              omega
        case isFalse =>
          have shorter := inductionHypothesis found
          omega

theorem splitOnceFrom_length {pattern before input front rest : Bytes}
    (found : Bytes.splitOnceFrom pattern before input = some (front, rest)) :
    rest.length ≤ input.length := by
  induction input generalizing before with
  | nil =>
      rw [Bytes.splitOnceFrom] at found
      split at found
      case isTrue =>
        cases found
        exact Nat.le_refl _
      case isFalse => cases found
  | cons byte others inductionHypothesis =>
      rw [Bytes.splitOnceFrom] at found
      split at found
      case isTrue =>
        cases found
        rw [List.length_drop]
        omega
      case isFalse =>
        have shorter := inductionHypothesis found
        rw [List.length_cons]
        omega

theorem declarationToken_length {input rest : Bytes} {token : Option Token}
    (found : declarationToken input = .ok (token, rest)) : rest.length ≤ input.length := by
  unfold declarationToken at found
  split at found
  case isTrue =>
    split at found
    case h_1 split =>
      cases found
      have shorter := splitOnceFrom_length split
      rw [List.length_drop] at shorter
      omega
    case h_2 => cases found
  case isFalse =>
    split at found
    case isTrue =>
      split at found
      case h_1 split =>
        cases found
        have shorter := splitOnceFrom_length split
        rw [List.length_drop] at shorter
        omega
      case h_2 => cases found
    case isFalse =>
      split at found
      case h_1 => cases found
      case h_2 first others =>
        split at found
        case isTrue =>
          split at found
          case h_1 split =>
            have shorter := splitDoctype_shorter split
            dsimp only at found
            split at found
            case isTrue =>
              split at found
              case isTrue => cases found
              case isFalse =>
                cases found
                omega
            case isFalse => cases found
          case h_2 => cases found
        case isFalse => cases found

theorem instructionToken_length {input rest : Bytes} {token : Option Token}
    (found : instructionToken input = .ok (token, rest)) : rest.length ≤ input.length := by
  unfold instructionToken at found
  split at found
  case h_1 => cases found
  case h_2 =>
    split at found
    case h_1 split =>
      cases found
      exact splitOnceFrom_length split
    case h_2 => cases found

theorem markupToken_length {input rest : Bytes} {token : Option Token}
    (found : markupToken input = .ok (token, rest)) : rest.length ≤ input.length := by
  unfold markupToken at found
  split at found
  case h_1 => cases found
  case h_2 others =>
    have shorter := declarationToken_length found
    rw [List.length_cons]
    omega
  case h_3 others =>
    have shorter := instructionToken_length found
    rw [List.length_cons]
    omega
  case h_4 others =>
    split at found
    case h_1 split =>
      cases found
      have shorter := splitTag_shorter split
      rw [List.length_cons]
      omega
    case h_2 => cases found
  case h_5 =>
    split at found
    case h_1 split =>
      cases found
      have shorter := splitTag_shorter split
      omega
    case h_2 => cases found

theorem nextToken_shorter {first : UInt8} {others rest : Bytes} {token : Option Token}
    (found : nextToken (first :: others) = .ok (token, rest)) :
    rest.length ≤ others.length := by
  unfold nextToken at found
  split at found
  case h_1 tail shape =>
    cases shape
    exact markupToken_length found
  case h_2 noTag =>
    have different : (first != 0x3C) = true := by
      rw [bne_iff_ne]
      intro same
      exact noTag others (by rw [same])
    have cut : (first :: others).dropWhile (· != 0x3C) = others.dropWhile (· != 0x3C) :=
      List.dropWhile_cons_of_pos different
    rw [cut] at found
    cases found
    exact (List.dropWhile_suffix _).length_le

/-! ## Reading without a bound -/

theorem readFrom_of_enough {first second : Nat} {input : Bytes}
    (firstEnough : input.length ≤ first) (secondEnough : input.length ≤ second)
    (state : Reading) : readFrom first state input = readFrom second state input := by
  induction first generalizing second input state with
  | zero =>
      have empty : input = [] := List.eq_nil_of_length_eq_zero (by omega)
      rw [empty]
      cases second <;> rfl
  | succ first inductionHypothesis =>
      cases input with
      | nil => cases second <;> rfl
      | cons byte others =>
          rw [List.length_cons] at firstEnough secondEnough
          cases second with
          | zero => omega
          | succ second =>
              rw [readFrom, readFrom]
              cases piece : nextToken (byte :: others) with
              | error fault => rfl
              | ok found =>
                  obtain ⟨token, rest⟩ := found
                  have shorter := nextToken_shorter piece
                  have agree : ∀ state, readFrom first state rest = readFrom second state rest :=
                    inductionHypothesis (by omega) (by omega)
                  cases token with
                  | none => exact agree state
                  | some token =>
                      cases fed : state.feed token with
                      | error fault => simp only [fed]
                      | ok after =>
                          simp only [fed]
                          exact agree after

def read (state : Reading) (input : Bytes) : Except MarkupFault Reading :=
  readFrom input.length state input

@[simp] theorem read_nil (state : Reading) : read state [] = .ok state := rfl

theorem read_passed {input rest : Bytes} (nonempty : input ≠ [])
    (piece : nextToken input = .ok (none, rest)) (state : Reading) :
    read state input = read state rest := by
  obtain ⟨first, others, rfl⟩ := List.exists_cons_of_ne_nil nonempty
  have shorter := nextToken_shorter piece
  rw [read, List.length_cons, readFrom]
  simp only [piece]
  exact readFrom_of_enough shorter (Nat.le_refl _) state

theorem read_token {input rest : Bytes} {token : Token} (nonempty : input ≠ [])
    (piece : nextToken input = .ok (some token, rest)) {state after : Reading}
    (fed : state.feed token = .ok after) : read state input = read after rest := by
  obtain ⟨first, others, rfl⟩ := List.exists_cons_of_ne_nil nonempty
  have shorter := nextToken_shorter piece
  rw [read, List.length_cons, readFrom]
  simp only [piece, fed]
  exact readFrom_of_enough shorter (Nat.le_refl _) after

/-! ## Written pieces -/

theorem markupToken_of_name {name : String} (valid : isName name = true) (rest : Bytes) :
    markupToken (Bytes.ofText name ++ rest) =
      match splitTag none [] (Bytes.ofText name ++ rest) with
      | some (content, rest) => .ok (some (startToken content), rest)
      | none => .error .unclosedMarkup := by
  obtain ⟨first, others, shape⟩ := List.exists_cons_of_ne_nil (ofText_ne_nil_of_isName valid)
  have plain : first ∉ reservedBytes := by
    intro reserved
    apply reserved_not_mem valid reserved
    rw [shape]
    exact List.mem_cons_self
  unfold markupToken
  split
  case h_1 empty =>
    rw [shape] at empty
    cases empty
  case h_5 => rfl
  all_goals
    rename_i tail same
    rw [shape] at same
    exact absurd ((List.cons.inj same).1 ▸ (by decide : _ ∈ reservedBytes)) plain

theorem getLast?_renderAttributes {attributes : List (String × String)}
    (nonempty : attributes ≠ []) : (renderAttributes attributes).getLast? = some 0x22 := by
  induction attributes with
  | nil => exact absurd rfl nonempty
  | cons pair others inductionHypothesis =>
      have shape : renderAttributes (pair :: others) =
          renderAttribute pair ++ renderAttributes others := List.flatMap_cons
      have last : (renderAttribute pair).getLast? = some 0x22 := by
        simp [renderAttribute, List.getLast?_cons, List.getLast?_append]
      rw [shape, List.getLast?_append, last]
      cases others with
      | nil => rfl
      | cons next rest =>
          rw [inductionHypothesis (List.cons_ne_nil next rest)]
          rfl

theorem getLast?_tag {name : String} (validName : isName name = true)
    (attributes : List (String × String)) :
    (Bytes.ofText name ++ renderAttributes attributes).getLast? ≠ some 0x2F := by
  intro slash
  cases attributes with
  | nil =>
      rw [renderAttributes, List.flatMap_nil, List.append_nil] at slash
      exact reserved_not_mem validName (by decide) (List.mem_of_getLast? slash)
  | cons pair others =>
      rw [List.getLast?_append, getLast?_renderAttributes (List.cons_ne_nil pair others)] at slash
      rw [Option.some_or] at slash
      exact absurd (Option.some.inj slash) (by decide)

theorem renderTag_eq (name : String) (attributes : List (String × String)) :
    renderTag name attributes =
      0x3C :: (Bytes.ofText name ++ renderAttributes attributes) := rfl

theorem nextToken_opening {name : String} {attributes : List (String × String)}
    (validName : isName name = true) (valid : ∀ pair ∈ attributes, isName pair.1 = true)
    (rest : Bytes) :
    nextToken (renderTag name attributes ++ 0x3E :: rest) =
      .ok (some (.opening (Bytes.ofText name ++ renderAttributes attributes)), rest) := by
  have ends := splitTag_tag validName valid []
    (by intro byte member; cases member) rest
  rw [List.append_nil] at ends
  rw [renderTag_eq, List.cons_append, nextToken, List.append_assoc,
    markupToken_of_name validName, ← List.append_assoc, ends]
  simp only [startToken, if_neg (getLast?_tag validName attributes)]

theorem nextToken_standalone {name : String} {attributes : List (String × String)}
    (validName : isName name = true) (valid : ∀ pair ∈ attributes, isName pair.1 = true)
    (rest : Bytes) :
    nextToken (renderTag name attributes ++ 0x2F :: 0x3E :: rest) =
      .ok (some (.standalone (Bytes.ofText name ++ renderAttributes attributes)), rest) := by
  have ends := splitTag_tag validName valid [0x2F]
    (by intro byte member; rw [List.mem_singleton.mp member]; decide) rest
  have shape : Bytes.ofText name ++ renderAttributes attributes ++ 0x2F :: 0x3E :: rest =
      Bytes.ofText name ++ renderAttributes attributes ++ [0x2F] ++ 0x3E :: rest := by simp
  have front : Bytes.ofText name ++ (renderAttributes attributes ++ ([0x2F] ++ 0x3E :: rest)) =
      Bytes.ofText name ++ renderAttributes attributes ++ [0x2F] ++ 0x3E :: rest := by simp
  rw [renderTag_eq, List.cons_append, nextToken, shape, ← front,
    markupToken_of_name validName, front, ends]
  simp [startToken]

theorem nextToken_closing {name : String} (valid : isName name = true) (rest : Bytes) :
    nextToken (renderEnd name ++ rest) =
      .ok (some (.closing (Bytes.ofText name)), rest) := by
  have noAttributes : ∀ pair ∈ ([] : List (String × String)), isName pair.1 = true := by
    intro pair member
    cases member
  have ends := splitTag_tag valid noAttributes [] (by intro byte member; cases member) rest
  simp only [renderAttributes, List.flatMap_nil, List.append_nil] at ends
  have noBlank : (Bytes.ofText name).reverse.dropWhile isTagBlank =
      (Bytes.ofText name).reverse := by
    cases shape : (Bytes.ofText name).reverse with
    | nil => rfl
    | cons last others =>
        have member : last ∈ Bytes.ofText name := by
          rw [← List.mem_reverse, shape]
          exact List.mem_cons_self
        rw [List.dropWhile_cons_of_neg (by simp [isTagBlank_of_name valid member])]
  have closed : closingName (Bytes.ofText name) = Bytes.ofText name := by
    simp only [closingName, noBlank, List.reverse_reverse, ite_self]
  have shape : renderEnd name ++ rest =
      0x3C :: 0x2F :: (Bytes.ofText name ++ 0x3E :: rest) := by simp [renderEnd]
  rw [shape, nextToken, markupToken]
  simp only [ends, closed]

theorem nextToken_text {text : Bytes} (nonempty : text ≠ []) (rest : Bytes) :
    nextToken (escape text ++ 0x3C :: rest) = .ok (some (.text (escape text)), 0x3C :: rest) := by
  have plain : ∀ byte ∈ escape text, (byte != 0x3C) = true := by
    intro byte member
    rw [bne_iff_ne]
    intro same
    rw [same] at member
    exact not_mem_escape (by decide) _ member
  have stop : ((0x3C : UInt8) != 0x3C) = false := by decide
  unfold nextToken
  split
  case h_1 tail shape =>
    obtain ⟨first, others, written⟩ := List.exists_cons_of_ne_nil
      (fun empty => nonempty (escape_eq_nil_iff.mp empty))
    rw [written, List.cons_append] at shape
    have member : (0x3C : UInt8) ∈ escape text := by
      rw [written, (List.cons.inj shape).1]
      exact List.mem_cons_self
    exact absurd member (not_mem_escape (by decide) _)
  case h_2 =>
    rw [Text.takeWhile_append_stop plain stop, Text.dropWhile_append_stop plain stop]

end Ebms.Markup
