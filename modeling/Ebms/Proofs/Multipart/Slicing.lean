import Ebms.Proofs.Multipart.Searching

/-! # Nothing is cut out of range

Every piece that reading a multipart body cuts out lies inside the body, whatever the content
type and the body are, and every search ends.  So reading by offsets always has a result,
which is that of reading without them. -/

set_option autoImplicit false

namespace Ebms.Multipart

open Bytes

variable {delimiter body : Bytes}

namespace Slicing

variable {α β : Type}

theorem run_liftM_bind {cut : Option α} {piece : α} (taken : cut = some piece)
    (next : α → Slicing β) : ((liftM cut : Slicing α) >>= next).run = (next piece).run := by
  rw [taken]
  rfl

theorem run_bind {x : Slicing α} {outcome : Except MultipartFault α} (next : α → Slicing β) :
    x.run = some outcome →
      (x >>= next).run =
        match outcome with
        | .error fault => some (.error fault)
        | .ok value => (next value).run := by
  intro done
  rw [ExceptT.run_bind, done]
  cases outcome <;> rfl

end Slicing

/-! ## Lines and parts -/

theorem lineBreak_ne_nil : lineBreak ≠ [] := List.cons_ne_nil _ _

theorem Slicing.skipLine_eq (body : Bytes) (offset : Nat) :
    Slicing.skipLine body offset = some (Multipart.skipLine body offset) := by
  unfold Slicing.skipLine Multipart.skipLine
  rw [offsetFrom?_eq lineBreak_ne_nil]
  cases splitOnce lineBreak (body.drop offset) <;> rfl

theorem skipLine_le_length {offset : Nat} (inside : offset ≤ body.length) :
    skipLine body offset ≤ body.length := by
  unfold skipLine
  cases cut : splitOnce lineBreak (body.drop offset) with
  | none => exact Nat.le_refl _
  | some pieces =>
      obtain ⟨shape, -⟩ := (splitOnce_eq_some_iff lineBreak_ne_nil).mp cut
      have length := congrArg List.length shape
      have two : lineBreak.length = 2 := rfl
      rw [List.length_drop, List.length_append, List.length_append, two] at length
      dsimp only
      omega

theorem Slicing.run_takePart (raw : Bytes) :
    (Slicing.takePart raw).run = some (Part.ofBytes raw) := by
  have nonempty : lineBreak ++ lineBreak ≠ [] := List.cons_ne_nil _ _
  have place := offsetFrom?_eq nonempty raw 0
  rw [List.drop_zero] at place
  unfold Slicing.takePart Part.ofBytes
  rw [Slicing.run_liftM_bind place]
  cases cut : splitOnce (lineBreak ++ lineBreak) raw with
  | none => rfl
  | some pieces =>
      obtain ⟨header, data⟩ := pieces
      obtain ⟨shape, -⟩ := (splitOnce_eq_some_iff nonempty).mp cut
      have four : (header ++ (lineBreak ++ lineBreak)).length = header.length + 4 :=
        List.length_append
      have front : raw.slice? 0 header.length = some header := by
        rw [shape, List.append_assoc]
        exact slice?_left _ _
      have back : raw.slice? (header.length + 4) raw.length = some data := by
        rw [shape, ← four]
        exact slice?_right _ _
      simp only [Option.map_some, Nat.zero_add]
      rw [Slicing.run_liftM_bind front]
      cases Bytes.text? header with
      | none => rfl
      | some text =>
        dsimp only
        rw [Slicing.run_liftM_bind back]
        rfl

/-! ## The search for delimiters -/

section Rounds

variable {start offset : Nat}

theorem Slicing.delimiterOffsetsFrom_of_absent
    (absent : body.offsetFrom? delimiter start = some none) :
    Slicing.delimiterOffsetsFrom body delimiter start = some [] := by
  rw [Slicing.delimiterOffsetsFrom]
  split
  case h_1 broken => rw [absent] at broken; cases broken
  case h_2 => rfl
  case h_3 found => rw [absent] at found; cases found

theorem Slicing.delimiterOffsetsFrom_of_found
    (found : body.offsetFrom? delimiter start = some (some offset)) :
    Slicing.delimiterOffsetsFrom body delimiter start = (do
      let before ← body.slice? 0 offset
      let later ← Slicing.delimiterOffsetsFrom body delimiter (offset + delimiter.length)
      some (if offset = 0 ∨ lineBreak.isSuffixOf before then offset :: later else later)) := by
  rw [Slicing.delimiterOffsetsFrom]
  split
  case h_1 broken => rw [found] at broken; cases broken
  case h_2 absent => rw [found] at absent; cases absent
  case h_3 same => rw [found] at same; cases same; rfl

end Rounds

/-- The search by offsets finds what the search byte by byte finds. -/
theorem Slicing.delimiterOffsetsFrom_eq (nonempty : delimiter ≠ []) (front rest : Bytes) :
    Slicing.delimiterOffsetsFrom (front ++ rest) delimiter front.length =
      some (offsetsBehind delimiter front 0 rest) := by
  -- Every round leaves fewer bytes, as no delimiter is empty.
  induction length : rest.length using Nat.strongRecOn generalizing front rest with
  | ind count inductionHypothesis =>
      have place := offsetFrom?_eq nonempty (front ++ rest) front.length
      rw [List.drop_left] at place
      cases cut : splitOnce delimiter rest with
      | none =>
          rw [cut] at place
          rw [Slicing.delimiterOffsetsFrom_of_absent place,
            offsetsBehind_absent (not_infix_of_splitOnce cut)]
      | some pieces =>
          obtain ⟨passed, after⟩ := pieces
          rw [cut, Option.map_some, ← List.length_append] at place
          obtain ⟨rfl, upTo⟩ := (splitOnce_eq_some_iff nonempty).mp cut
          have whole : front ++ (passed ++ delimiter ++ after) =
              front ++ passed ++ delimiter ++ after := by simp
          have before : slice? (front ++ passed ++ delimiter ++ after) 0 (front ++ passed).length =
              some (front ++ passed) := by
            rw [List.append_assoc]
            exact slice?_left _ _
          have shorter : after.length < count := by
            have positive := List.length_pos_iff.mpr nonempty
            rw [← length, List.length_append, List.length_append]
            omega
          have later := inductionHypothesis _ shorter (front ++ passed ++ delimiter) after rfl
          have lineStart : (front ++ passed).length = 0 ∨ lineBreak.isSuffixOf (front ++ passed) ↔
              endsLine (front ++ passed) = true := by
            rw [endsLine_iff, List.length_eq_zero_iff, List.isSuffixOf_iff_suffix]
          rw [Slicing.delimiterOffsetsFrom_of_found place, whole, offsetsBehind_upTo nonempty upTo,
            offsetsBehind_delimiter nonempty]
          simp only [Option.bind_eq_bind, Option.bind_some, ← List.length_append, before, later,
            lineStart]
          cases endsLine (front ++ passed) <;> rfl

theorem Slicing.delimiterOffsetsFrom_zero (nonempty : delimiter ≠ []) (body : Bytes) :
    Slicing.delimiterOffsetsFrom body delimiter 0 = some (delimiterOffsets body delimiter) := by
  rw [delimiterOffsets_eq]
  exact Slicing.delimiterOffsetsFrom_eq nonempty [] body

/-! ## Whole bodies -/

theorem Slicing.run_takeParts {width : Nat} {offsets : List Nat}
    (inside : ∀ offset ∈ offsets, offset + width ≤ body.length) :
    (Slicing.takeParts body width offsets).run = some (partsAt body width offsets) := by
  induction offsets with
  | nil => rfl
  | cons offset others inductionHypothesis =>
      obtain ⟨here, later⟩ := List.forall_mem_cons.mp inside
      cases others with
      | nil =>
          rw [Slicing.takeParts, partsAt, Slicing.run_liftM_bind (slice?_to_end here)]
          cases dashes.isPrefixOf (body.drop (offset + width)) <;> rfl
      | cons next more =>
          rw [Slicing.takeParts, partsAt, Slicing.run_liftM_bind (slice?_to_end here)]
          by_cases closes : dashes.isPrefixOf (body.drop (offset + width)) = true
          · rw [if_pos closes, if_pos closes]
            rfl
          · have startInside := skipLine_le_length here
            have nextInside := later next List.mem_cons_self
            rw [if_neg closes, if_neg closes]
            dsimp only [List.head?_cons]
            rw [Slicing.run_liftM_bind (Slicing.skipLine_eq _ _)]
            generalize Multipart.skipLine body (offset + width) = start at startInside
            have stopInside : max (next - 2) start ≤ body.length := by omega
            have cut := slice?_of_le (Nat.le_max_right (next - 2) start) stopInside
            rw [show lineBreak.length = 2 from rfl, Slicing.run_liftM_bind cut,
              Slicing.run_bind _ (Slicing.run_takePart _)]
            cases Part.ofBytes ((body.drop start).take (max (next - 2) start - start)) with
            | error fault => rfl
            | ok part =>
                dsimp only
                rw [Slicing.run_bind _ (inductionHypothesis later)]
                cases partsAt body width (next :: more) <;> rfl

theorem Slicing.run_takeOut {parts : List Part} {index : Nat} {root : Part}
    (found : parts[index]? = some root) :
    (Slicing.takeOut parts index).run =
      some (((parts.eraseIdx index).mapM Part.attachment).map fun attachments =>
        { root := root.data, attachments }) := by
  rw [Slicing.takeOut, Slicing.run_liftM_bind found]
  cases (parts.eraseIdx index).mapM Part.attachment <;> rfl

theorem Slicing.run_takeRoot (start : Option String) (parts : List Part) :
    (Slicing.takeRoot start parts).run = some (assemble start parts) := by
  -- The index of the root is one of the parts, unless there are none.
  have out {index : Nat} {root : Part} (found : parts[index]? = some root) :
      (if parts.isEmpty then throw .noParts
        else Slicing.takeOut parts index : Slicing Related).run =
          some (((parts.eraseIdx index).mapM Part.attachment).map fun attachments =>
            { root := root.data, attachments }) := by
    have nonempty : parts ≠ [] := by
      rintro rfl
      cases found
    rw [List.isEmpty_eq_false_iff.mpr nonempty, if_neg Bool.false_ne_true,
      Slicing.run_takeOut found]
  unfold assemble
  cases start with
  | none =>
      cases parts with
      | nil => rfl
      | cons first others =>
          refine (out List.getElem?_cons_zero).trans ?_
          dsimp only [bind, Except.bind]
          cases ((first :: others).eraseIdx 0).mapM Part.attachment <;> rfl
  | some start =>
      cases place : parts.findIdx? (·.contentId == some start) with
      | none =>
          simp only [Slicing.takeRoot, place]
          rfl
      | some index =>
          obtain ⟨inside, -⟩ := List.findIdx?_eq_some_iff_getElem.mp place
          have found : parts[index]? = some parts[index] := List.getElem?_eq_getElem inside
          have chosen : Slicing.takeRoot (some start) parts =
              if parts.isEmpty then throw .noParts else Slicing.takeOut parts index := by
            simp only [Slicing.takeRoot, place]
            rfl
          rw [chosen, out found]
          simp only [place, found, bind, Except.bind]
          cases (parts.eraseIdx index).mapM Part.attachment <;> rfl

theorem Slicing.run_takeApart (contentType : String) (body : Bytes) :
    (Slicing.takeApart contentType body).run = some (read contentType body) := by
  unfold Slicing.takeApart read
  cases parameter? contentType "boundary" with
  | none => rfl
  | some boundary =>
      have nonempty : dashes ++ Bytes.ofText boundary ≠ [] := List.cons_ne_nil _ _
      have found := Slicing.delimiterOffsetsFrom_zero nonempty body
      have inside : ∀ offset ∈ delimiterOffsets body (dashes ++ Bytes.ofText boundary),
          offset + (dashes ++ Bytes.ofText boundary).length ≤ body.length :=
        fun offset noted => (beginsLineAt_of_mem_delimiterOffsets noted).inside
      dsimp only
      rw [Slicing.run_liftM_bind found]
      cases offsets : delimiterOffsets body (dashes ++ Bytes.ofText boundary) with
      | nil => rfl
      | cons first others =>
          rw [offsets] at inside
          rw [List.isEmpty_cons, if_neg Bool.false_ne_true,
            Slicing.run_bind _ (Slicing.run_takeParts inside)]
          dsimp only
          cases partsAt body (dashes ++ Bytes.ofText boundary).length (first :: others) with
          | error fault => rfl
          | ok outcome =>
              obtain ⟨parts, closed⟩ := outcome
              cases closed with
              | false => rfl
              | true => exact Slicing.run_takeRoot _ _

/-- Let a delimiter start with dashes and be of a single line.  Every round of the search for it
gets ahead inside the body, so that the search ends; and what it finds are, in order, exactly
the offsets at which a line begins with the delimiter.  Whatever the content type and the body
are, nothing is cut out of range: there is a message or a fault. -/
theorem Slicing.takeApart_inRange :
    (∀ body delimiter : Bytes, dashes <+: delimiter → 0x0D ∉ delimiter →
      (∀ start offset, body.offsetFrom? delimiter start = some (some offset) →
        start < offset + delimiter.length ∧ offset + delimiter.length ≤ body.length) ∧
      Slicing.delimiterOffsetsFrom body delimiter 0 = some (delimiterOffsets body delimiter) ∧
      (delimiterOffsets body delimiter).Pairwise (· < ·) ∧
      ∀ offset, offset ∈ delimiterOffsets body delimiter ↔ BeginsLineAt delimiter body offset) ∧
    ∀ (contentType : String) (body : Bytes),
      (Slicing.takeApart contentType body).run = some (read contentType body) := by
  refine ⟨fun body delimiter dashed noReturn => ?_, Slicing.run_takeApart⟩
  have nonempty : delimiter ≠ [] := by
    rintro rfl
    exact absurd dashed (by decide)
  exact ⟨fun start offset => advance_of_offsetFrom? nonempty,
    Slicing.delimiterOffsetsFrom_zero nonempty body, pairwise_delimiterOffsets body delimiter,
    fun offset => mem_delimiterOffsets_iff dashed noReturn⟩

/-- Of three delimiters the one in the middle of a line does not count.  A boundary may hold a
line break all the same. -/
theorem Slicing.takeApart_inRange_midline :
    Slicing.delimiterOffsetsFrom
        (Bytes.ofText "--b\r\nat --b\r\n--b--") (Bytes.ofText "--b") 0 = some [0, 13] ∧
      ¬ BeginsLineAt (Bytes.ofText "--b") (Bytes.ofText "--b\r\nat --b\r\n--b--") 8 ∧
      ∃ outcome, (Slicing.takeApart "multipart/related; boundary=b\r\n--b"
        (Bytes.ofText "--b\r\n--b\r\n--b")).run = some outcome := by
  obtain ⟨searches, reads⟩ := Slicing.takeApart_inRange
  obtain ⟨-, found, -, exactly⟩ := searches (Bytes.ofText "--b\r\nat --b\r\n--b--")
    (Bytes.ofText "--b") (by decide) (by decide)
  have offsets : delimiterOffsets (Bytes.ofText "--b\r\nat --b\r\n--b--")
      (Bytes.ofText "--b") = [0, 13] := by decide
  rw [offsets] at found exactly
  exact ⟨found, fun begins => absurd ((exactly 8).mpr begins) (by decide), _, reads _ _⟩

end Ebms.Multipart
