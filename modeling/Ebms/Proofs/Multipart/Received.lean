import Ebms.Proofs.Multipart.Messages
import Ebms.Proofs.Outcome

/-! # Attachments as they are received

Whatever a multipart body looks like, the attachments read from it are ones that framing
carries unchanged.  Header lines end at line breaks, so that no value has one inside; a
value has lost the blanks at its ends, and a content id its brackets too. -/

set_option autoImplicit false

namespace Ebms

namespace Multipart

/-! ## Line breaks -/

theorem eq_of_mem_utf8EncodeChar {c mark : Char} {byte : UInt8}
    (member : byte ∈ String.utf8EncodeChar c) (ascii : byte.toNat < 128)
    (code : mark.toNat = byte.toNat) : c = mark := by
  rw [← Char.ofNat_toNat c, ← Char.ofNat_toNat mark, Bytes.mem_utf8EncodeChar member ascii, code]

theorem noBreak_flatMap {chars : List Char} (noBreak : ¬ ['\r', '\n'] <:+: chars) :
    ¬ lineBreak <:+: chars.flatMap String.utf8EncodeChar := by
  induction chars with
  | nil => exact noBreak_of_noFeed (by simp)
  | cons c others inductionHypothesis =>
      have noBreakOthers : ¬ ['\r', '\n'] <:+: others := by
        intro inside
        exact noBreak (inside.trans (List.suffix_cons c others).isInfix)
      rw [List.flatMap_cons]
      by_cases same : c = '\r'
      · subst same
        have return_ : String.utf8EncodeChar '\r' = [0x0D] := by decide
        rw [return_, List.singleton_append, lineBreak, List.infix_cons_iff]
        rintro (starts | inside)
        · have feed := (List.cons_prefix_cons.mp starts).2
          cases others with
          | nil => simp at feed
          | cons next more =>
              -- The byte after the carriage return is the first one of the next character.
              have first : (0x0A : UInt8) ∈ String.utf8EncodeChar next := by
                cases bytes : String.utf8EncodeChar next with
                | nil => exact absurd bytes String.utf8EncodeChar_ne_nil
                | cons byte rest =>
                    rw [List.flatMap_cons, bytes] at feed
                    rw [(List.cons_prefix_cons.mp feed).1]
                    exact List.mem_cons_self
              rw [eq_of_mem_utf8EncodeChar first (by decide)
                (by decide : '\n'.toNat = _)] at noBreak
              exact noBreak ⟨[], more, rfl⟩
        · exact inductionHypothesis noBreakOthers inside
      · refine noBreak_append_left (fun member => ?_) (inductionHypothesis noBreakOthers)
        exact same (eq_of_mem_utf8EncodeChar member (by decide) (by decide))

theorem hasNoBreak_of_chars {text : String} (noBreak : ¬ ['\r', '\n'] <:+: text.toList) :
    HasNoBreak text := by
  unfold HasNoBreak
  rw [Bytes.ofText_eq_flatMap]
  exact noBreak_flatMap noBreak

theorem noBreak_reverse {line : List Char} :
    ¬ ['\r', '\n'] <:+: line.reverse ↔ ¬ ['\n', '\r'] <:+: line := by
  rw [← List.reverse_infix, List.reverse_reverse]
  rfl

/-- No line has a line break inside.  The line that is being read may end in a carriage
return, as long as no line feed follows. -/
theorem noBreak_of_mem_linesFrom {lines : List (List Char)} {line chars : List Char}
    (finished : ∀ other ∈ lines, ¬ ['\r', '\n'] <:+: other)
    (noBreak : ¬ ['\n', '\r'] <:+: line)
    (apart : ¬ (line.head? = some '\r' ∧ chars.head? = some '\n')) :
    ∀ other ∈ linesFrom lines line chars, ¬ ['\r', '\n'] <:+: other := by
  fun_induction linesFrom lines line chars with
  | case1 lines line =>
      intro other member
      rw [List.mem_reverse, List.mem_cons] at member
      rcases member with rfl | member
      · exact noBreak_reverse.mpr noBreak
      · exact finished other member
  | case2 lines line rest inductionHypothesis =>
      refine inductionHypothesis ?_ (by simp) (by simp)
      exact List.forall_mem_cons.mpr ⟨noBreak_reverse.mpr noBreak, finished⟩
  | case3 lines line c rest notBreak inductionHypothesis =>
      refine inductionHypothesis finished ?_ ?_
      · rw [List.infix_cons_iff]
        rintro (starts | inside)
        · obtain ⟨feed, ⟨others, return_⟩⟩ := List.cons_prefix_cons.mp starts
          exact apart ⟨by rw [← return_]; rfl, by rw [feed]; rfl⟩
        · exact noBreak inside
      · rintro ⟨return_, feed⟩
        obtain ⟨others, rfl⟩ := List.head?_eq_some_iff.mp feed
        exact notBreak others (Option.some.inj return_) rfl

/-! ## Parts -/

/-- What is known of a part that was read: how its media type and its content id, if it has
them, were cut out of a line. -/
structure Part.IsClean (part : Part) : Prop where
  mediaType : ∀ mediaType ∈ part.mediaType,
    HasNoBreak mediaType ∧ Text.trim mediaType = mediaType
  contentId : ∀ contentId ∈ part.contentId, HasNoBreak contentId ∧ IsPlainId contentId

theorem isPlainId_stripBrackets (text : String) : IsPlainId (stripBrackets text) where
  opening := by
    intro first
    have opening := Text.head?_stripStart (Text.head?_stripEnd first)
    simp at opening
  closing := by
    intro last
    have closing := Text.getLast?_stripEnd last
    simp at closing

theorem isInfix_stripBrackets (text : String) : (stripBrackets text).toList <:+: text.toList :=
  (Text.isPrefix_stripEnd _ _).isInfix.trans (Text.isSuffix_stripStart _ _).isInfix

theorem Part.IsClean.addHeader {part : Part} (clean : part.IsClean) {line : List Char}
    (noBreak : ¬ ['\r', '\n'] <:+: line) : (part.addHeader line).IsClean := by
  unfold Part.addHeader
  cases cut : Text.splitOnce ':' (String.ofList line) with
  | none => exact clean
  | some pieces =>
      obtain ⟨name, value⟩ := pieces
      have inside : (Text.trim value).toList <:+: line := by
        have rest := Text.isSuffix_of_splitOnce cut
        rw [String.toList_ofList] at rest
        exact (Text.isInfix_trim value).trans rest.isInfix
      simp only
      split
      · refine ⟨?_, clean.contentId⟩
        intro mediaType stated
        obtain rfl := Option.some.inj stated
        exact ⟨hasNoBreak_of_chars fun within => noBreak (within.trans inside),
          Text.trim_trim value⟩
      · split
        · refine ⟨clean.mediaType, ?_⟩
          intro contentId stated
          obtain rfl := Option.some.inj stated
          exact ⟨hasNoBreak_of_chars fun within =>
              noBreak (within.trans ((isInfix_stripBrackets _).trans inside)),
            isPlainId_stripBrackets _⟩
        · exact clean

theorem Part.IsClean.addHeaders {part : Part} (clean : part.IsClean) {lines : List (List Char)}
    (noBreaks : ∀ line ∈ lines, ¬ ['\r', '\n'] <:+: line) :
    (lines.foldl Part.addHeader part).IsClean := by
  induction lines generalizing part with
  | nil => exact clean
  | cons line others inductionHypothesis =>
      obtain ⟨noBreak, later⟩ := List.forall_mem_cons.mp noBreaks
      exact inductionHypothesis (clean.addHeader noBreak) later

theorem isClean_of_ofBytes {raw : Bytes} {part : Part} (read : Part.ofBytes raw = .ok part) :
    part.IsClean := by
  unfold Part.ofBytes at read
  split at read
  · cases read
  · split at read
    · cases read
    · cases read
      refine Part.IsClean.addHeaders ⟨by simp, by simp⟩ ?_
      exact noBreak_of_mem_linesFrom (by simp) (by simp) (by simp)

theorem isClean_of_partsAt {body : Bytes} {width : Nat} {offsets : List Nat}
    {parts : List Part} {closed : Bool} (read : partsAt body width offsets = .ok (parts, closed)) :
    ∀ part ∈ parts, part.IsClean := by
  induction offsets generalizing parts closed with
  | nil =>
      cases read
      simp
  | cons offset others inductionHypothesis =>
      rw [partsAt.eq_def] at read
      simp only at read
      split at read
      · cases read
        simp
      · split at read
        · cases read
          simp
        · split at read
          · cases read
          · rename_i part first
            split at read
            · cases read
            · rename_i rest
              cases read
              exact List.forall_mem_cons.mpr ⟨isClean_of_ofBytes first, inductionHypothesis rest⟩

/-! ## Attachments -/

theorem isPlain_of_attachment {part : Part} {attachment : Attachment} (clean : part.IsClean)
    (made : part.attachment = .ok attachment) : attachment.IsPlain := by
  unfold Part.attachment at made
  cases stated : part.contentId with
  | none =>
      rw [stated] at made
      cases made
  | some contentId =>
      rw [stated] at made
      obtain rfl := Except.ok.inj made
      obtain ⟨idNoBreak, idPlain⟩ := clean.contentId contentId stated
      cases typed : part.mediaType with
      | none =>
          have noBreak : HasNoBreak defaultMediaType := noBreak_of_noFeed (by decide)
          have trimmed : Text.trim defaultMediaType = defaultMediaType := by decide
          exact ⟨idNoBreak, idPlain, noBreak, trimmed⟩
      | some mediaType =>
          obtain ⟨typeNoBreak, typeTrimmed⟩ := clean.mediaType mediaType typed
          exact ⟨idNoBreak, idPlain, typeNoBreak, typeTrimmed⟩

theorem exists_of_assemble {start : Option String} {parts : List Part} {related : Related}
    (assembled : assemble start parts = .ok related) :
    ∃ rootIndex, (parts.eraseIdx rootIndex).mapM Part.attachment = .ok related.attachments := by
  have rest {others : List Part} {root : Part}
      (made : (others.mapM Part.attachment >>= fun attachments =>
        .ok { root := root.data, attachments }) = Except.ok related) :
      others.mapM Part.attachment = .ok related.attachments := by
    obtain ⟨attachments, listed, same⟩ := bind_eq_ok.mp made
    cases same
    exact listed
  unfold assemble at assembled
  split at assembled
  · simp only [ok_bind] at assembled
    split at assembled
    · cases assembled
    · exact ⟨0, rest assembled⟩
  · split at assembled
    · simp only [ok_bind] at assembled
      split at assembled
      · cases assembled
      · exact ⟨_, rest assembled⟩
    · cases assembled

/-- Framing carries unchanged what was read from a multipart body. -/
theorem isPlain_of_read {contentType : String} {body : Bytes} {related : Related}
    (received : read contentType body = .ok related) : ∀ a ∈ related.attachments, a.IsPlain := by
  unfold read at received
  split at received
  · cases received
  · simp only at received
    split at received
    · cases received
    · split at received
      · cases received
      · cases received
      · rename_i parts listed
        obtain ⟨rootIndex, made⟩ := exists_of_assemble received
        intro a member
        obtain ⟨part, inside, same⟩ := exists_of_mem_mapM made a member
        exact isPlain_of_attachment
          (isClean_of_partsAt listed part (List.mem_of_mem_eraseIdx inside)) same

end Multipart

end Ebms
