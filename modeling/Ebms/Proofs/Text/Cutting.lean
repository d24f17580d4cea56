import Ebms.Proofs.Text.Digits

/-! # Trimming and cutting

What trimming and cutting make of a text put together from known parts: a text
without blanks at its ends stays as it is, and a text is cut at the first mark,
which is the one behind a part that has none. -/

set_option autoImplicit false

namespace Ebms.Text

theorem dropEndWhile_concat {drop : Char → Bool} {last : Char} (kept : drop last = false)
    (chars : List Char) : dropEndWhile drop (chars ++ [last]) = chars ++ [last] := by
  simp [dropEndWhile, kept]

theorem dropEndWhile_concat_of_drop {drop : Char → Bool} {last : Char}
    (dropped : drop last = true) (chars : List Char) :
    dropEndWhile drop (chars ++ [last]) = dropEndWhile drop chars := by
  simp [dropEndWhile, dropped]

theorem dropEndWhile_append_of_drop {drop : Char → Bool} (chars : List Char) {back : List Char}
    (dropped : ∀ c ∈ back, drop c = true) :
    dropEndWhile drop (chars ++ back) = dropEndWhile drop chars := by
  have reversed : ∀ c ∈ back.reverse, drop c = true := by simpa using dropped
  rw [dropEndWhile, dropEndWhile, List.reverse_append, List.dropWhile_append_of_pos reversed]

theorem isPrefix_dropEndWhile (drop : Char → Bool) (chars : List Char) :
    dropEndWhile drop chars <+: chars := by
  rw [dropEndWhile, ← List.reverse_suffix, List.reverse_reverse]
  exact List.dropWhile_suffix drop

theorem dropEndWhile_append {drop : Char → Bool} {front : List Char} {last : Char}
    (ends : front.getLast? = some last) (kept : drop last = false) (back : List Char) :
    dropEndWhile drop (front ++ back) = front ++ dropEndWhile drop back := by
  obtain ⟨before, rfl⟩ := List.getLast?_eq_some_iff.mp ends
  have stays : (before ++ [last]).reverse.dropWhile drop = (before ++ [last]).reverse := by
    rw [List.reverse_append, List.reverse_singleton, List.singleton_append,
      List.dropWhile_cons_of_neg (by simp [kept])]
  rw [dropEndWhile, dropEndWhile, List.reverse_append, List.dropWhile_append, stays]
  split
  case isTrue empty => simp [List.isEmpty_iff.mp empty]
  case isFalse => simp

theorem isPrefix_dropWhile {drop : Char → Bool} {front chars : List Char}
    (begins : front <+: chars) : front.dropWhile drop <+: chars.dropWhile drop := by
  obtain ⟨back, rfl⟩ := begins
  rw [List.dropWhile_append]
  split
  case isTrue empty =>
    rw [List.isEmpty_iff.mp empty]
    exact List.nil_prefix
  case isFalse => exact List.prefix_append _ _

/-! ## Cuts at the ends -/

section Ends

variable {drop : Char → Bool} {text : String} {c : Char}

theorem isSuffix_stripStart (drop : Char → Bool) (text : String) :
    (stripStart drop text).toList <:+ text.toList := by
  rw [stripStart, String.toList_ofList]
  exact List.dropWhile_suffix drop

theorem isPrefix_stripEnd (drop : Char → Bool) (text : String) :
    (stripEnd drop text).toList <+: text.toList := by
  rw [stripEnd, String.toList_ofList]
  exact isPrefix_dropEndWhile drop _

theorem head?_stripStart (first : (stripStart drop text).toList.head? = some c) :
    drop c = false := by
  have kept := List.head?_dropWhile_not drop text.toList
  rw [stripStart, String.toList_ofList] at first
  rwa [first] at kept

theorem getLast?_stripEnd (last : (stripEnd drop text).toList.getLast? = some c) :
    drop c = false := by
  have kept := List.head?_dropWhile_not drop text.toList.reverse
  rw [stripEnd, String.toList_ofList, dropEndWhile, List.getLast?_reverse] at last
  rwa [last] at kept

theorem head?_stripEnd (first : (stripEnd drop text).toList.head? = some c) :
    text.toList.head? = some c := by
  obtain ⟨rest, whole⟩ := isPrefix_stripEnd drop text
  rw [← whole, List.head?_append, first]
  rfl

theorem stripStart_eq_self (kept : ∀ c, text.toList.head? = some c → drop c = false) :
    stripStart drop text = text := by
  rw [← String.toList_inj, stripStart, String.toList_ofList]
  cases chars : text.toList with
  | nil => rfl
  | cons first rest =>
      rw [chars] at kept
      exact List.dropWhile_cons_of_neg (by simp [kept first rfl])

theorem stripEnd_eq_self (kept : ∀ c, text.toList.getLast? = some c → drop c = false) :
    stripEnd drop text = text := by
  rw [← String.toList_inj, stripEnd, String.toList_ofList]
  rcases List.eq_nil_or_concat text.toList with empty | ⟨front, last, chars⟩
  · rw [empty]
    rfl
  · rw [chars, List.concat_eq_append] at kept ⊢
    exact dropEndWhile_concat (kept last (List.getLast?_concat)) front

end Ends

/-! ## Trimming -/

theorem trim_eq (text : String) : trim text = stripEnd isBlank (stripStart isBlank text) := by
  rw [trim, stripEnd, stripStart, String.toList_ofList]

theorem isInfix_trim (text : String) : (trim text).toList <:+: text.toList := by
  rw [trim_eq]
  exact (isPrefix_stripEnd _ _).isInfix.trans (isSuffix_stripStart _ _).isInfix

theorem trim_trim (text : String) : trim (trim text) = trim text := by
  have start : stripStart isBlank (trim text) = trim text := by
    refine stripStart_eq_self fun c first => ?_
    rw [trim_eq] at first
    exact head?_stripStart (head?_stripEnd first)
  rw [trim_eq (trim text), start]
  refine stripEnd_eq_self fun c last => ?_
  rw [trim_eq] at last
  exact getLast?_stripEnd last

theorem trim_eq_self {text : String}
    (clean : ∀ c ∈ text.toList, isBlank c = false) : trim text = text := by
  have start : stripStart isBlank text = text :=
    stripStart_eq_self fun c first => clean c (List.mem_of_head? first)
  rw [trim_eq, start]
  exact stripEnd_eq_self fun c last => clean c (List.mem_of_getLast? last)

theorem trim_space_append (text : String) : trim (" " ++ text) = trim text := by
  have space : isBlank ' ' = true := by decide
  simp [trim, space]

theorem trim_append_blanks (text : String) {blanks : String}
    (blank : isAllBlank blanks = true) : trim (text ++ blanks) = trim text := by
  have dropped := List.all_eq_true.mp blank
  rw [trim, trim, String.toList_append, List.dropWhile_append]
  split
  case isTrue empty =>
    have none : (blanks.toList ++ []).dropWhile isBlank = [] :=
      List.dropWhile_append_of_pos dropped
    rw [List.append_nil] at none
    rw [none, List.isEmpty_iff.mp empty]
  case isFalse => rw [dropEndWhile_append_of_drop _ dropped]

theorem trim_enclosed {first last : Char} (opening : isBlank first = false)
    (closing : isBlank last = false) (inside : List Char) :
    trim (String.ofList (first :: (inside ++ [last]))) =
      String.ofList (first :: (inside ++ [last])) := by
  have whole : first :: (inside ++ [last]) = (first :: inside) ++ [last] := rfl
  rw [trim, String.toList_ofList, List.dropWhile_cons_of_neg (by simp [opening]), whole,
    dropEndWhile_concat closing]

theorem toLower_of_isBlank {c : Char} (blank : isBlank c = true) : c.toLower = c := by
  have noCapital : ¬ (65 ≤ c.toNat ∧ c.toNat ≤ 90) := by
    simp only [isBlank, Bool.or_eq_true, Bool.and_eq_true, decide_eq_true_eq, beq_iff_eq] at blank
    omega
  exact dif_neg noCapital

theorem isBlank_of_isDigit {c : Char} (digit : c.isDigit = true) : isBlank c = false := by
  rw [Char.isDigit, Bool.and_eq_true, decide_eq_true_eq, decide_eq_true_eq] at digit
  have low : 48 ≤ c.toNat := digit.1
  have high : c.toNat ≤ 57 := digit.2
  simp only [isBlank, Bool.or_eq_false_iff, Bool.and_eq_false_iff, decide_eq_false_iff_not,
    beq_eq_false_iff_ne, ne_eq]
  omega

/-! ## Cutting at a mark -/

section Stop

variable {α : Type} {keep : α → Bool} {front : List α} {stop : α}

theorem takeWhile_append_stop (kept : ∀ item ∈ front, keep item = true)
    (stops : keep stop = false) (rest : List α) :
    (front ++ stop :: rest).takeWhile keep = front := by
  rw [List.takeWhile_append_of_pos kept, List.takeWhile_cons_of_neg (by simp [stops]),
    List.append_nil]

theorem dropWhile_append_stop (kept : ∀ item ∈ front, keep item = true)
    (stops : keep stop = false) (rest : List α) :
    (front ++ stop :: rest).dropWhile keep = stop :: rest := by
  rw [List.dropWhile_append_of_pos kept, List.dropWhile_cons_of_neg (by simp [stops])]

end Stop

theorem bne_mark_of_not_mem {mark : Char} {chars : List Char} (absent : mark ∉ chars) :
    ∀ c ∈ chars, (c != mark) = true := by
  intro c member
  rw [bne_iff_ne]
  intro same
  exact absent (same ▸ member)

theorem cutAt_append_mark {mark : Char} {before : List Char}
    (absent : mark ∉ before) (after : List Char) :
    cutAt mark (before ++ mark :: after) = some (before, after) := by
  have kept := bne_mark_of_not_mem absent
  have stops : (mark != mark) = false := bne_self_eq_false mark
  rw [cutAt, dropWhile_append_stop kept stops, takeWhile_append_stop kept stops]

theorem splitOnce_of_toList {mark : Char} {text : String} {before after : List Char}
    (shape : text.toList = before ++ mark :: after) (absent : mark ∉ before) :
    splitOnce mark text = some (String.ofList before, String.ofList after) := by
  rw [splitOnce, shape, cutAt_append_mark absent]
  rfl

theorem isSuffix_of_splitOnce {mark : Char} {text before after : String}
    (cut : splitOnce mark text = some (before, after)) : after.toList <:+ text.toList := by
  unfold splitOnce cutAt at cut
  have kept := List.dropWhile_suffix (l := text.toList) (· != mark)
  split at cut
  · cases cut
  · rename_i shape
    cases cut
    rw [shape] at kept
    rw [String.toList_ofList]
    exact (List.suffix_cons _ _).trans kept

theorem piecesFrom_append_mark {mark : Char} {chars : List Char} (absent : mark ∉ chars)
    (pieces : List String) (piece rest : List Char) :
    piecesFrom mark pieces piece (chars ++ mark :: rest) =
      piecesFrom mark (String.ofList (piece.reverse ++ chars) :: pieces) [] rest := by
  induction chars generalizing piece with
  | nil =>
      rw [List.nil_append, piecesFrom, if_pos rfl, List.append_nil]
  | cons c others inductionHypothesis =>
      have different : c ≠ mark := by
        intro same
        exact absent (by simp [same])
      have absentOthers : mark ∉ others := by
        intro member
        exact absent (List.mem_cons_of_mem _ member)
      rw [List.cons_append, piecesFrom, if_neg different, inductionHypothesis absentOthers,
        List.reverse_cons, List.append_assoc, List.singleton_append]

theorem piecesFrom_last {mark : Char} {chars : List Char} (absent : mark ∉ chars)
    (pieces : List String) (piece : List Char) :
    piecesFrom mark pieces piece chars =
      (String.ofList (piece.reverse ++ chars) :: pieces).reverse := by
  induction chars generalizing piece with
  | nil => rw [piecesFrom, List.append_nil]
  | cons c others inductionHypothesis =>
      have different : c ≠ mark := by
        intro same
        exact absent (by simp [same])
      have absentOthers : mark ∉ others := by
        intro member
        exact absent (List.mem_cons_of_mem _ member)
      have joined : (c :: piece).reverse ++ others = piece.reverse ++ c :: others := by simp
      rw [piecesFrom, if_neg different, inductionHypothesis absentOthers, joined]

theorem piecesFrom_intercalate {mark : Char} {text : String} {others : List String}
    (absent : ∀ t ∈ text :: others, mark ∉ t.toList) (found : List String) :
    piecesFrom mark found [] ([mark].intercalate ((text :: others).map String.toList)) =
      found.reverse ++ text :: others := by
  obtain ⟨absentFirst, absentOthers⟩ := List.forall_mem_cons.mp absent
  induction others generalizing text found with
  | nil =>
      rw [List.map_singleton, List.intercalate_singleton, piecesFrom_last absentFirst,
        List.reverse_cons, List.reverse_nil, List.nil_append, String.ofList_toList]
  | cons next others inductionHypothesis =>
      obtain ⟨absentNext, absentRest⟩ := List.forall_mem_cons.mp absentOthers
      rw [List.map_cons, List.map_cons, List.intercalate_cons_cons, List.append_assoc,
        List.singleton_append, piecesFrom_append_mark absentFirst, List.reverse_nil,
        List.nil_append, String.ofList_toList, ← List.map_cons,
        inductionHypothesis absentOthers _ absentNext absentRest, List.reverse_cons,
        List.append_assoc]
      rfl

/-- Cutting at a mark undoes joining with it. -/
theorem pieces_intercalate {mark : Char} {texts : List String} (nonempty : texts ≠ [])
    (absent : ∀ t ∈ texts, mark ∉ t.toList) :
    pieces mark ((String.singleton mark).intercalate texts) = texts := by
  obtain ⟨text, others, rfl⟩ := List.exists_cons_of_ne_nil nonempty
  rw [pieces, String.toList_intercalate, String.toList_singleton]
  exact piecesFrom_intercalate absent []

theorem exists_piecesFrom (mark : Char) (found : List String) (piece chars : List Char) :
    ∃ later, piecesFrom mark found piece chars =
      found.reverse ++ String.ofList (piece.reverse ++ chars.takeWhile (· != mark)) :: later := by
  induction chars generalizing found piece with
  | nil => exact ⟨[], by simp [piecesFrom]⟩
  | cons c rest inductionHypothesis =>
      rw [piecesFrom]
      by_cases same : c = mark
      · obtain ⟨later, shape⟩ := inductionHypothesis (String.ofList piece.reverse :: found) []
        rw [if_pos same, shape, List.reverse_cons, List.append_assoc,
          List.takeWhile_cons_of_neg (by simp [same]), List.append_nil]
        exact ⟨_, rfl⟩
      · obtain ⟨later, shape⟩ := inductionHypothesis found (c :: piece)
        exact ⟨later, by rw [if_neg same, shape]; simp [same]⟩

theorem headD_pieces (mark : Char) (text : String) :
    (pieces mark text).headD "" = String.ofList (text.toList.takeWhile (· != mark)) := by
  obtain ⟨later, shape⟩ := exists_piecesFrom mark [] [] text.toList
  rw [pieces, shape]
  rfl

/-! ## Prefixes of texts -/

theorem startsWith_eq_true_iff (text start : String) :
    startsWith text start = true ↔ start.toList <+: text.toList := by
  rw [startsWith, List.isPrefixOf_iff_prefix]

theorem startsWith_lower_stripStart {drop : Char → Bool} (text start : String) :
    startsWith (asciiLower (stripStart drop text)) start = true ↔
      start.toList <+: (text.toList.dropWhile drop).map Char.toLower := by
  rw [startsWith_eq_true_iff, asciiLower, stripStart, String.toList_ofList, String.toList_ofList]

theorem startsWith_append (start rest : String) : startsWith (start ++ rest) start = true := by
  simp [startsWith]

@[simp] theorem after?_append (start rest : String) :
    after? start (start ++ rest) = some rest := by
  have length : start.length = start.toList.length := String.length_toList.symm
  rw [after?, if_pos (startsWith_append start rest), String.toList_append, length,
    List.drop_left, String.ofList_toList]

theorem eq_append_of_after? {start text rest : String}
    (read : after? start text = some rest) : text = start ++ rest := by
  rw [after?] at read
  split at read
  case isTrue starts =>
    rw [startsWith, List.isPrefixOf_iff_prefix] at starts
    obtain ⟨tail, shape⟩ := starts
    have length : start.length = start.toList.length := String.length_toList.symm
    rw [← shape, length, List.drop_left] at read
    rw [← String.toList_inj, String.toList_append, ← shape, ← Option.some.inj read,
      String.toList_ofList]
  case isFalse => cases read

end Ebms.Text
