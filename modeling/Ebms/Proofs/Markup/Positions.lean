import Ebms.Proofs.Markup.Pieces
import Ebms.Proofs.Markup.References
import Ebms.Proofs.Outcome

/-! # Positions outside markup

A position in a document is outside markup when texts and whole pieces of markup lead there,
and it is neither in a reference nor in a character.  Up to such a position the reader comes
to the same state whatever follows, and a text that is cut there is added in two parts. -/

set_option autoImplicit false

namespace Ebms.Markup

open Bytes (StartsCharacter)

/-- Texts and whole pieces of markup, and at last the text that runs up to some position. -/
inductive Leads (IsDoctype : Bytes → Prop) : Bytes → Bytes → Prop where
  | within {run : Bytes} (plain : 0x3C ∉ run) : Leads IsDoctype run run
  | past {text piece rest run : Bytes} (plain : 0x3C ∉ text) (whole : IsPiece IsDoctype piece)
      (later : Leads IsDoctype rest run) : Leads IsDoctype (text ++ (piece ++ rest)) run

/-- The position between two parts of a document is outside markup, references and
characters. -/
structure IsOutside (IsDoctype : Bytes → Prop) (front back : Bytes) : Prop where
  leads : ∃ run, Leads IsDoctype front run ∧ ¬ CutsReference run back
  starts : StartsCharacter back

variable {front back run text piece rest input tail : Bytes} {state after finish : Reading}

theorem Leads.plain {IsDoctype : Bytes → Prop} (leads : Leads IsDoctype front run) :
    0x3C ∉ run := by
  induction leads with
  | within plain => exact plain
  | past plain whole later inductionHypothesis => exact inductionHypothesis

/-! ## Reading one piece or one text -/

theorem read_fed {token : Token} (nonempty : input ≠ [])
    (found : nextToken input = .ok (some token, rest)) (state : Reading) :
    read state input = (state.feed token >>= fun after => read after rest) := by
  cases fed : state.feed token with
  | ok after => exact read_token nonempty found fed
  | error fault =>
      obtain ⟨first, others, rfl⟩ := List.exists_cons_of_ne_nil nonempty
      rw [read, List.length_cons, readFrom]
      simp only [found, fed]
      rfl

theorem read_fault {fault : MarkupFault} (nonempty : input ≠ [])
    (found : nextToken input = .error fault) (state : Reading) :
    read state input = .error fault := by
  obtain ⟨first, others, rfl⟩ := List.exists_cons_of_ne_nil nonempty
  rw [read, List.length_cons, readFrom]
  simp only [found]

theorem feed_text_nil (state : Reading) : state.feed (.text []) = .ok state := by
  have empty : text? [] = some "" := text?_escape_ofText ""
  cases state with
  | mk openElements root =>
      cases openElements with
      | nil => rfl
      | cons top outer =>
          cases top
          rw [Reading.feed, empty]
          simp [Reading.addText]

theorem takeWhile_run (plain : 0x3C ∉ run) (stops : ∀ first ∈ rest.head?, first = 0x3C) :
    (run ++ rest).takeWhile (· != 0x3C) = run ∧ (run ++ rest).dropWhile (· != 0x3C) = rest := by
  have inside : ∀ byte ∈ run, (byte != 0x3C) = true := by
    intro byte member
    rw [bne_iff_ne]
    rintro rfl
    exact plain member
  rw [List.takeWhile_append_of_pos inside, List.dropWhile_append_of_pos inside]
  cases rest with
  | nil => simp
  | cons first others => simp [stops first rfl]

theorem nextToken_run (nonempty : run ≠ []) (plain : 0x3C ∉ run)
    (stops : ∀ first ∈ rest.head?, first = 0x3C) :
    nextToken (run ++ rest) = .ok (some (.text run), rest) := by
  obtain ⟨took, left⟩ := takeWhile_run plain stops
  unfold nextToken
  split
  case h_1 others shape =>
    obtain ⟨first, later, rfl⟩ := List.exists_cons_of_ne_nil nonempty
    rw [(List.cons.inj shape).1] at plain
    exact absurd List.mem_cons_self plain
  case h_2 => rw [took, left]

theorem read_run (plain : 0x3C ∉ run) (stops : ∀ first ∈ rest.head?, first = 0x3C)
    (state : Reading) :
    read state (run ++ rest) = (state.feed (.text run) >>= fun after => read after rest) := by
  by_cases empty : run = []
  · rw [empty, feed_text_nil, List.nil_append, ok_bind]
  · exact read_fed (by simp [empty]) (nextToken_run empty plain stops) state

theorem exists_run (input : Bytes) :
    ∃ run rest, input = run ++ rest ∧ 0x3C ∉ run ∧ ∀ first ∈ rest.head?, first = 0x3C := by
  refine ⟨input.takeWhile (· != 0x3C), input.dropWhile (· != 0x3C),
    List.takeWhile_append_dropWhile.symm, ?_, ?_⟩
  · intro member
    have different := List.all_eq_true.mp List.all_takeWhile _ member
    exact absurd different (by decide)
  · intro first member
    have stop := List.head?_dropWhile_not (· != 0x3C) input
    rw [Option.mem_def.mp member] at stop
    simpa using stop

/-! ## Reading up to a position -/

theorem head?_piece (whole : IsPiece IsBalancedDoctype piece) (rest : Bytes) :
    ∀ first ∈ (piece ++ rest).head?, first = 0x3C := by
  have bracket : ∃ others, piece = 0x3C :: others := by
    cases whole with
    | tag => exact ⟨_, rfl⟩
    | comment => exact ⟨_, rfl⟩
    | literal => exact ⟨_, rfl⟩
    | instruction => exact ⟨_, rfl⟩
    | doctype isDoctype =>
        obtain ⟨first, content, rfl, -, -⟩ := isDoctype
        exact ⟨_, rfl⟩
  obtain ⟨others, rfl⟩ := bracket
  intro first member
  cases member
  rfl

theorem piece_ne_nil (whole : IsPiece IsBalancedDoctype piece) : piece ≠ [] := by
  rintro rfl
  have bracket := head?_piece whole [0x3E] 0x3E rfl
  exact absurd bracket (by decide)

/-- The reader comes to the same state, or fails in the same way, whatever follows. -/
theorem Leads.exists_read (leads : Leads IsBalancedDoctype front run) (state : Reading) :
    (∃ after, ∀ back, read state (front ++ back) = read after (run ++ back)) ∨
      ∃ fault, ∀ back, read state (front ++ back) = .error fault := by
  induction leads generalizing state with
  | within => exact .inl ⟨state, fun back => rfl⟩
  | @past text piece rest run plain whole later inductionHypothesis =>
      have start (back : Bytes) : read state (text ++ (piece ++ rest) ++ back) =
          (state.feed (.text text) >>= fun after => read after (piece ++ (rest ++ back))) := by
        rw [List.append_assoc, List.append_assoc]
        exact read_run plain (head?_piece whole _) state
      cases fed : state.feed (.text text) with
      | error fault =>
          refine .inr ⟨fault, fun back => ?_⟩
          rw [start, fed]
          rfl
      | ok between =>
          simp only [fed, ok_bind] at start
          have nonempty (back : Bytes) : piece ++ (rest ++ back) ≠ [] := by
            simp [piece_ne_nil whole]
          rcases exists_nextToken_piece whole with ⟨token, found⟩ | ⟨fault, found⟩
          · cases token with
            | none =>
                have passed (back : Bytes) : read state (text ++ (piece ++ rest) ++ back) =
                    read between (rest ++ back) := by
                  rw [start, read_passed (nonempty back) (found _)]
                simpa only [passed] using inductionHypothesis between
            | some token =>
                have step (back : Bytes) : read state (text ++ (piece ++ rest) ++ back) =
                    (between.feed token >>= fun after => read after (rest ++ back)) := by
                  rw [start, read_fed (nonempty back) (found _)]
                cases taken : between.feed token with
                | error fault =>
                    refine .inr ⟨fault, fun back => ?_⟩
                    rw [step, taken]
                    rfl
                | ok after =>
                    simp only [taken, ok_bind] at step
                    simpa only [step] using inductionHypothesis after
          · refine .inr ⟨fault, fun back => ?_⟩
            rw [start, read_fault (nonempty back) (found _)]

/-! ## A text in two parts -/

theorem CutsReference.append_right (cuts : CutsReference front back) (rest : Bytes) :
    CutsReference front (back ++ rest) := by
  obtain ⟨before, name, inner, after, shape, rfl, resolved⟩ := cuts
  exact ⟨before, name, inner, after ++ rest, shape, by simp, resolved⟩

/-- A text that is added in one is added in two parts with the same outcome. -/
theorem exists_feed_of_feed_append (fed : state.feed (.text (run ++ tail)) = .ok after)
    (whole : ¬ CutsReference run tail) (starts : StartsCharacter tail) :
    ∃ between, state.feed (.text run) = .ok between ∧ between.feed (.text tail) = .ok after := by
  cases state with
  | mk openElements root =>
      cases openElements with
      | nil => exact ⟨_, rfl, fed⟩
      | cons top outer =>
          rw [Reading.feed] at fed
          cases read : text? (run ++ tail) with
          | none =>
              rw [read] at fed
              cases fed
          | some text =>
              obtain ⟨first, second, readFirst, readSecond, rfl⟩ :=
                exists_of_text?_append read whole starts
              rw [read] at fed
              cases fed
              refine ⟨_, by rw [Reading.feed, readFirst]; rfl, ?_⟩
              rw [Reading.feed, readSecond]
              simp only [Reading.addText, String.append_assoc]

/-! ## Insertions -/

/-- A piece without a trace that is put outside markup leaves no trace there, either. -/
theorem read_insert (outside : IsOutside IsBalancedDoctype front back)
    (isPiece : IsPiece IsBalancedDoctype piece)
    (passed : ∀ rest, nextToken (piece ++ rest) = .ok (none, rest))
    (done : read state (front ++ back) = .ok finish) :
    read state (front ++ (piece ++ back)) = .ok finish := by
  obtain ⟨run, leads, whole⟩ := outside.leads
  obtain ⟨tail, rest, rfl, plainTail, stops⟩ := exists_run back
  have plain : 0x3C ∉ run := leads.plain
  rcases leads.exists_read state with ⟨between, same⟩ | ⟨fault, failed⟩
  case inr =>
    rw [failed] at done
    cases done
  rw [same] at done ⊢
  have starts : StartsCharacter tail := by
    intro first member
    apply outside.starts first
    rw [List.head?_append, Option.mem_def.mp member]
    rfl
  have plainBoth : 0x3C ∉ run ++ tail := by simp [plain, plainTail]
  rw [← List.append_assoc, read_run plainBoth stops] at done
  obtain ⟨after, fed, done⟩ := bind_eq_ok.mp done
  obtain ⟨middle, fedRun, fedTail⟩ := exists_feed_of_feed_append fed
    (fun cuts => whole (cuts.append_right rest)) starts
  rw [read_run plain (head?_piece isPiece _), fedRun, ok_bind,
    read_passed (by simp [piece_ne_nil isPiece]) (passed _), read_run plainTail stops, fedTail,
    ok_bind, done]

theorem read_ignored (outermost : state.openElements = []) (plain : 0x3C ∉ run) (rest : Bytes) :
    read state (run ++ rest) = read state rest := by
  have ignored (text : Bytes) : state.feed (.text text) = .ok state := by
    rw [Reading.feed, Reading.addText, outermost]
  obtain ⟨tail, markup, rfl, plainTail, stops⟩ := exists_run rest
  have plainBoth : 0x3C ∉ run ++ tail := by simp [plain, plainTail]
  rw [← List.append_assoc, read_run plainBoth stops, read_run plainTail stops, ignored, ignored]

theorem read_dropByteOrderMark (input : Bytes) :
    read Reading.start (dropByteOrderMark input) = read Reading.start input := by
  unfold dropByteOrderMark
  split
  case h_1 rest =>
    have plain : (0x3C : UInt8) ∉ [0xEF, 0xBB, 0xBF] := by decide
    exact (read_ignored rfl plain rest).symm
  case h_2 => rfl

theorem readDocument_eq_ok_iff {root : Option Element} :
    readDocument input = .ok root ↔
      read Reading.start input = .ok { openElements := [], root } := by
  have body := read_dropByteOrderMark input
  rw [read] at body
  rw [readDocument, ← body]
  cases readFrom (dropByteOrderMark input).length Reading.start (dropByteOrderMark input) with
  | error fault => simp
  | ok state =>
      cases state with
      | mk openElements found => cases openElements <;> simp

theorem readDocument_insert {root : Option Element}
    (outside : IsOutside IsBalancedDoctype front back)
    (isPiece : IsPiece IsBalancedDoctype piece)
    (passed : ∀ rest, nextToken (piece ++ rest) = .ok (none, rest))
    (done : readDocument (front ++ back) = .ok root) :
    readDocument (front ++ (piece ++ back)) = .ok root := by
  rw [readDocument_eq_ok_iff] at done ⊢
  exact read_insert outside isPiece passed done

/-! ## Positions that are computed -/

def runAtEnd? : Nat → Bytes → Option Bytes
  | 0, front => if 0x3C ∈ front then none else some front
  | fuel + 1, front =>
    match front.dropWhile (· != 0x3C) with
    | [] => some front
    | markup =>
      match nextToken markup with
      | .ok (_, rest) => runAtEnd? fuel rest
      | .error _ => none

theorem leads_of_runAtEnd? {fuel : Nat} (found : runAtEnd? fuel front = some run) :
    Leads IsBalancedDoctype front run := by
  induction fuel generalizing front with
  | zero =>
      rw [runAtEnd?] at found
      split at found
      case isTrue => cases found
      case isFalse plain =>
        cases found
        exact .within plain
  | succ fuel inductionHypothesis =>
      obtain ⟨text, markup, rfl, plain, stops⟩ := exists_run front
      rw [runAtEnd?, (takeWhile_run plain stops).2] at found
      cases markup with
      | nil =>
          cases found
          rw [List.append_nil]
          exact .within plain
      | cons first others =>
          obtain rfl := stops first rfl
          dsimp only at found
          split at found
          case h_1 token rest read =>
            obtain ⟨piece, shape, whole⟩ := exists_piece_of_nextToken read
            rw [shape]
            exact .past plain whole (inductionHypothesis found)
          case h_2 => cases found

/-! ## Every position is outside markup or inside -/

/-- The position between two parts of a document is inside a piece of markup. -/
def IsInsidePiece (front back : Bytes) : Prop :=
  ∃ before run opened closing rest, front = before ++ opened ∧ back = closing ++ rest ∧
    Leads IsBalancedDoctype before run ∧ IsPiece IsBalancedDoctype (opened ++ closing) ∧
    opened ≠ [] ∧ closing ≠ []

theorem exists_leads_of_read (done : read state input = .ok finish) :
    ∃ run, Leads IsBalancedDoctype input run := by
  induction size : input.length using Nat.strongRecOn generalizing input state with
  | _ size inductionHypothesis =>
      obtain ⟨run, markup, rfl, plain, stops⟩ := exists_run input
      rw [read_run plain stops] at done
      obtain ⟨between, -, done⟩ := bind_eq_ok.mp done
      cases markup with
      | nil => exact ⟨run, by rw [List.append_nil]; exact .within plain⟩
      | cons first others =>
          obtain rfl := stops first rfl
          have nonempty : (0x3C : UInt8) :: others ≠ [] := List.cons_ne_nil _ _
          cases found : nextToken (0x3C :: others) with
          | error fault =>
              rw [read_fault nonempty found] at done
              cases done
          | ok taken =>
              obtain ⟨token, rest⟩ := taken
              obtain ⟨piece, shape, whole⟩ := exists_piece_of_nextToken found
              have shorter := nextToken_shorter found
              have later : ∃ after, read after rest = .ok finish := by
                cases token with
                | none =>
                    rw [read_passed nonempty found] at done
                    exact ⟨_, done⟩
                | some token =>
                    rw [read_fed nonempty found] at done
                    obtain ⟨after, -, done⟩ := bind_eq_ok.mp done
                    exact ⟨after, done⟩
              obtain ⟨after, done⟩ := later
              rw [List.length_append, List.length_cons] at size
              obtain ⟨last, leads⟩ := inductionHypothesis _ (by omega) done rfl
              rw [shape]
              exact ⟨last, .past plain whole leads⟩

theorem Leads.split {whole : Bytes} (leads : Leads IsBalancedDoctype whole run)
    (cut : whole = front ++ back) :
    (∃ run, Leads IsBalancedDoctype front run) ∨ IsInsidePiece front back := by
  induction leads generalizing front with
  | within plain =>
      subst cut
      exact .inl ⟨front, .within fun member => plain (List.mem_append_left _ member)⟩
  | @past text piece rest run plain isPiece later inductionHypothesis =>
      rcases List.append_eq_append_iff.mp cut with ⟨opened, rfl, cutPiece⟩ | ⟨tail, rfl, rfl⟩
      case inr => exact .inl ⟨front, .within fun member => plain (List.mem_append_left _ member)⟩
      rcases List.append_eq_append_iff.mp cutPiece with
        ⟨inner, rfl, cutRest⟩ | ⟨closing, rfl, rfl⟩
      · rcases inductionHypothesis cutRest with ⟨last, leads⟩ | inside
        · exact .inl ⟨last, .past plain isPiece leads⟩
        · obtain ⟨before, last, opened, closing, after, rfl, rfl, leads, others⟩ := inside
          exact .inr ⟨text ++ (piece ++ before), last, opened, closing, after, by simp, rfl,
            .past plain isPiece leads, others⟩
      · by_cases unopened : opened = []
        · rw [unopened, List.append_nil]
          exact .inl ⟨text, .within plain⟩
        by_cases closed : closing = []
        · rw [closed, List.append_nil] at isPiece
          have ended : Leads IsBalancedDoctype (text ++ (opened ++ [])) [] :=
            .past plain isPiece (.within List.not_mem_nil)
          rw [List.append_nil] at ended
          exact .inl ⟨[], ended⟩
        exact .inr ⟨text, text, opened, closing, rest, rfl, rfl, .within plain, isPiece, unopened,
          closed⟩

/-- No position of a document that is read is left out for another reason. -/
theorem isOutside_or_inside {root : Option Element}
    (done : readDocument (front ++ back) = .ok root) :
    IsOutside IsBalancedDoctype front back ∨ IsInsidePiece front back ∨
      (∃ run, Leads IsBalancedDoctype front run ∧ CutsReference run back) ∨
      ¬ StartsCharacter back := by
  obtain ⟨last, leads⟩ := exists_leads_of_read (readDocument_eq_ok_iff.mp done)
  rcases leads.split rfl with ⟨run, leads⟩ | inside
  · by_cases cuts : CutsReference run back
    · exact .inr (.inr (.inl ⟨run, leads, cuts⟩))
    by_cases starts : StartsCharacter back
    · exact .inl ⟨⟨run, leads, cuts⟩, starts⟩
    · exact .inr (.inr (.inr starts))
  · exact .inr (.inl inside)

end Ebms.Markup
