import Ebms.Multipart.Slicing
import Ebms.Proofs.Markup.Pieces
import Ebms.Proofs.Multipart.Delimiters

/-! # Where a search from an offset arrives

A search from an offset on finds the place at which the bytes behind it are cut.  The search
for delimiters that goes byte by byte is described by what it passes: it skips what an earlier
delimiter covers, passes over all that reaches up to the next one, and goes on behind that.
What it notes are offsets at which a line begins with the delimiter, in order.  It misses one
only if another delimiter covers it, which a delimiter within a single line never does. -/

set_option autoImplicit false

namespace Ebms

namespace Bytes

variable {pattern bytes front : Bytes} {byte : UInt8} {width start stop : Nat}

/-! ## Pieces and places -/

theorem slice?_of_le (ordered : start ≤ stop) (inside : stop ≤ bytes.length) :
    bytes.slice? start stop = some ((bytes.drop start).take (stop - start)) :=
  if_pos ⟨ordered, inside⟩

theorem slice?_left (front back : Bytes) :
    slice? (front ++ back) 0 front.length = some front := by
  rw [slice?_of_le (Nat.zero_le _) (by simp), List.drop_zero, Nat.sub_zero, List.take_left]

theorem slice?_to_end (inside : start ≤ bytes.length) :
    bytes.slice? start bytes.length = some (bytes.drop start) := by
  rw [slice?_of_le inside (Nat.le_refl _), ← List.length_drop, List.take_length]

theorem slice?_right (front back : Bytes) :
    slice? (front ++ back) front.length (front ++ back).length = some back := by
  rw [slice?_to_end (by simp), List.drop_left]

theorem windows_cons (rest : Bytes) :
    windows width (byte :: rest) =
      if width ≤ rest.length + 1 then (byte :: rest).take width :: windows width rest else [] := by
  unfold windows
  split
  case isTrue short =>
    have count : (byte :: rest).length + 1 - width = rest.length + 1 - width + 1 := by
      rw [List.length_cons]
      omega
    rw [count, List.range_succ_eq_map, List.map_cons, List.map_map]
    rfl
  case isFalse long =>
    have count : (byte :: rest).length + 1 - width = 0 := by
      rw [List.length_cons]
      omega
    rw [count, List.range_zero, List.map_nil]

theorem windows_of_lt (short : bytes.length < width) : windows width bytes = [] := by
  have count : bytes.length + 1 - width = 0 := by omega
  rw [windows, count, List.range_zero, List.map_nil]

theorem not_infix_of_splitOnceFrom {before : Bytes}
    (absent : splitOnceFrom pattern before bytes = none) : ¬ pattern <:+: bytes := by
  induction bytes generalizing before with
  | nil =>
      rw [splitOnceFrom] at absent
      split at absent
      case isTrue => cases absent
      case isFalse nonempty => simpa using nonempty
  | cons byte rest inductionHypothesis =>
      rw [splitOnceFrom] at absent
      split at absent
      case isTrue => cases absent
      case isFalse other =>
        rw [List.infix_cons_iff, not_or]
        exact ⟨mt List.isPrefixOf_iff_prefix.mpr other, inductionHypothesis absent⟩

theorem not_infix_of_splitOnce (absent : splitOnce pattern bytes = none) : ¬ pattern <:+: bytes :=
  not_infix_of_splitOnceFrom absent

theorem map_length_splitOnceFrom (nonempty : pattern ≠ []) (before bytes : Bytes) :
    (splitOnceFrom pattern before bytes).map (·.1.length) =
      ((windows pattern.length bytes).findIdx? (· == pattern)).map (· + before.length) := by
  have positive := List.length_pos_iff.mpr nonempty
  induction bytes generalizing before with
  | nil =>
      rw [splitOnceFrom, if_neg (by simpa using nonempty), windows_of_lt positive]
      rfl
  | cons byte rest inductionHypothesis =>
      have later := inductionHypothesis (byte :: before)
      rw [splitOnceFrom, windows_cons]
      by_cases starts : pattern <+: byte :: rest
      · have short : pattern.length ≤ rest.length + 1 := starts.length_le
        have same := List.prefix_iff_eq_take.mp starts
        rw [if_pos (List.isPrefixOf_iff_prefix.mpr starts), if_pos short, ← same,
          List.findIdx?_cons, beq_self_eq_true, if_pos rfl]
        simp
      · have other : ((byte :: rest).take pattern.length == pattern) = false := by
          rw [beq_eq_false_iff_ne]
          exact fun same => starts (List.prefix_iff_eq_take.mpr same.symm)
        rw [if_neg (mt List.isPrefixOf_iff_prefix.mp starts), later]
        split
        case isTrue =>
          rw [List.findIdx?_cons, other, if_neg Bool.false_ne_true, Option.map_map]
          congr 1
          funext place
          rw [Function.comp_apply, List.length_cons, Nat.add_assoc, Nat.add_comm 1]
        case isFalse long =>
          rw [windows_of_lt (by omega)]
          rfl

theorem offsetFrom?_eq (nonempty : pattern ≠ []) (bytes : Bytes) (start : Nat) :
    bytes.offsetFrom? pattern start =
      some ((splitOnce pattern (bytes.drop start)).map fun cut => start + cut.1.length) := by
  unfold offsetFrom?
  by_cases beyond : bytes.length ≤ start
  · rw [if_pos (.inl beyond), List.drop_of_length_le beyond, splitOnce, splitOnceFrom,
      if_neg (by simpa using nonempty)]
    rfl
  · have width (rest : Bytes) : windows? pattern.length rest = some (windows pattern.length rest) :=
      if_neg (by simpa using nonempty)
    have place := map_length_splitOnceFrom nonempty [] (bytes.drop start)
    rw [if_neg (by simp [beyond, nonempty]), slice?_to_end (by omega)]
    simp only [Option.bind_eq_bind, Option.bind_some, width]
    simp only [List.length_nil, Nat.add_zero, Option.map_id'] at place
    rw [splitOnce, ← place, Option.map_map]
    congr 2
    funext cut
    rw [Function.comp_apply, Nat.add_comm]

/-- A search that goes on behind what it has found gets ahead, and stays inside the bytes. -/
theorem advance_of_offsetFrom? {offset : Nat} (nonempty : pattern ≠ [])
    (found : bytes.offsetFrom? pattern start = some (some offset)) :
    start < offset + pattern.length ∧ offset + pattern.length ≤ bytes.length := by
  obtain ⟨begun, ahead⟩ := forward_of_offsetFrom? found
  refine ⟨ahead, ?_⟩
  rw [offsetFrom?_eq nonempty, Option.some.injEq, Option.map_eq_some_iff] at found
  obtain ⟨⟨passed, after⟩, cut, rfl⟩ := found
  obtain ⟨shape, -⟩ := (splitOnce_eq_some_iff nonempty).mp cut
  have length := congrArg List.length shape
  rw [List.length_drop, List.length_append, List.length_append] at length
  dsimp only
  omega

end Bytes

namespace Multipart

open Bytes

variable {delimiter body front rest : Bytes} {byte : UInt8}

/-! ## The search for delimiters -/

def endsReturn (front : Bytes) : Bool := front.getLast? == some 0x0D

def endsLine (front : Bytes) : Bool := front.isEmpty || lineBreak.isSuffixOf front

theorem endsLine_iff : endsLine front = true ↔ front = [] ∨ lineBreak <:+ front := by
  rw [endsLine, Bool.or_eq_true, List.isEmpty_iff, List.isSuffixOf_iff_suffix]

theorem endsReturn_append (byte : UInt8) : endsReturn (front ++ [byte]) = (byte == 0x0D) := by
  simp [endsReturn]

theorem endsLine_append (byte : UInt8) :
    endsLine (front ++ [byte]) = (endsReturn front && byte == 0x0A) := by
  have reversed : lineBreak.reverse = [0x0A, 0x0D] := rfl
  rcases List.eq_nil_or_concat front with rfl | ⟨others, last, rfl⟩
  · simp [endsLine, endsReturn, List.isSuffixOf, reversed, List.isPrefixOf]
  · rw [List.concat_eq_append, endsReturn_append, endsLine, List.isSuffixOf, reversed]
    simp only [List.reverse_append, List.reverse_singleton, List.singleton_append,
      List.isPrefixOf, Bool.and_true]
    rw [Bool.and_comm, BEq.comm (a := last), BEq.comm (a := byte)]
    simp

/-- What the search notes in bytes, the first `skip` of which an earlier delimiter covers, when
it comes to them from others. -/
def offsetsBehind (delimiter front : Bytes) (skip : Nat) (rest : Bytes) : List Nat :=
  offsetsFrom delimiter [] front.length skip (endsReturn front) (endsLine front) rest

theorem delimiterOffsets_eq (body delimiter : Bytes) :
    delimiterOffsets body delimiter = offsetsBehind delimiter [] 0 body := rfl

theorem offsetsBehind_covered (skip : Nat) :
    offsetsBehind delimiter front (skip + 1) (byte :: rest) =
      offsetsBehind delimiter (front ++ [byte]) skip rest := by
  rw [offsetsBehind, offsetsFrom, offsetsBehind, endsReturn_append, endsLine_append,
    List.length_append]
  rfl

theorem offsetsBehind_other (other : ¬ delimiter <+: byte :: rest) :
    offsetsBehind delimiter front 0 (byte :: rest) =
      offsetsBehind delimiter (front ++ [byte]) 0 rest := by
  rw [offsetsBehind, offsetsFrom, if_neg (mt List.isPrefixOf_iff_prefix.mp other), offsetsBehind,
    endsReturn_append, endsLine_append, List.length_append]
  rfl

theorem offsetsBehind_here (here : delimiter <+: byte :: rest) :
    offsetsBehind delimiter front 0 (byte :: rest) =
      (if endsLine front then [front.length] else []) ++
        offsetsBehind delimiter (front ++ [byte]) (delimiter.length - 1) rest := by
  rw [offsetsBehind, offsetsFrom, if_pos (List.isPrefixOf_iff_prefix.mpr here), offsetsFrom_found,
    offsetsBehind, endsReturn_append, endsLine_append, List.length_append]
  cases endsLine front <;> rfl

/-! ## Where the search stops -/

theorem offsetsBehind_passed (passed rest : Bytes) :
    offsetsBehind delimiter front passed.length (passed ++ rest) =
      offsetsBehind delimiter (front ++ passed) 0 rest := by
  induction passed generalizing front with
  | nil => rw [List.append_nil, List.nil_append, List.length_nil]
  | cons byte others inductionHypothesis =>
      rw [List.cons_append, List.length_cons, offsetsBehind_covered, inductionHypothesis,
        List.append_assoc, List.singleton_append]

theorem offsetsBehind_delimiter (nonempty : delimiter ≠ []) (rest : Bytes) :
    offsetsBehind delimiter front 0 (delimiter ++ rest) =
      (if endsLine front then [front.length] else []) ++
        offsetsBehind delimiter (front ++ delimiter) 0 rest := by
  obtain ⟨first, others, rfl⟩ := List.exists_cons_of_ne_nil nonempty
  have here : first :: others <+: first :: (others ++ rest) := List.prefix_append _ _
  rw [List.cons_append, offsetsBehind_here here, List.length_cons, Nat.add_sub_cancel,
    offsetsBehind_passed, List.append_assoc, List.singleton_append]

theorem offsetsBehind_upTo (nonempty : delimiter ≠ []) {passed : Bytes}
    (upTo : IsUpTo delimiter passed) (rest : Bytes) :
    offsetsBehind delimiter front 0 (passed ++ delimiter ++ rest) =
      offsetsBehind delimiter (front ++ passed) 0 (delimiter ++ rest) := by
  induction passed generalizing front with
  | nil => rw [List.append_nil, List.nil_append]
  | cons byte others inductionHypothesis =>
      obtain ⟨notHere, upTo⟩ := isUpTo_cons_iff.mp upTo
      have other : ¬ delimiter <+: byte :: (others ++ delimiter ++ rest) := by
        rwa [← List.isPrefixOf_iff_prefix, isPrefixOf_append_iff nonempty]
      rw [List.cons_append, List.cons_append, offsetsBehind_other other, inductionHypothesis upTo,
        List.append_assoc, List.singleton_append]

theorem offsetsBehind_absent (absent : ¬ delimiter <:+: rest) :
    offsetsBehind delimiter front 0 rest = [] := by
  induction rest generalizing front with
  | nil => rfl
  | cons byte others inductionHypothesis =>
      rw [List.infix_cons_iff, not_or] at absent
      rw [offsetsBehind_other absent.1, inductionHypothesis absent.2]

/-! ## Where delimiters begin lines -/

def BeginsLineAt (delimiter body : Bytes) (offset : Nat) : Prop :=
  ∃ before after, body = before ++ (delimiter ++ after) ∧ before.length = offset ∧
    (before = [] ∨ lineBreak <:+ before)

variable {offset skip : Nat}

theorem BeginsLineAt.inside (begins : BeginsLineAt delimiter body offset) :
    offset + delimiter.length ≤ body.length := by
  obtain ⟨before, after, rfl, rfl, -⟩ := begins
  rw [List.length_append, List.length_append]
  omega

theorem beginsLineAt_here (here : delimiter <+: rest) (lineStart : endsLine front = true) :
    BeginsLineAt delimiter (front ++ rest) front.length := by
  obtain ⟨after, rfl⟩ := here
  exact ⟨front, after, rfl, rfl, endsLine_iff.mp lineStart⟩

theorem BeginsLineAt.here (begins : BeginsLineAt delimiter (front ++ rest) front.length) :
    delimiter <+: rest ∧ endsLine front = true := by
  obtain ⟨before, after, whole, length, lineStart⟩ := begins
  obtain ⟨rfl, rfl⟩ := List.append_inj whole length.symm
  exact ⟨List.prefix_append _ _, endsLine_iff.mpr lineStart⟩

/-- What the search notes are offsets at which lines begin with the delimiter. -/
theorem beginsLineAt_of_mem (noted : offset ∈ offsetsBehind delimiter front skip rest) :
    BeginsLineAt delimiter (front ++ rest) offset := by
  induction rest generalizing front skip with
  | nil => cases noted
  | cons byte others inductionHypothesis =>
      have whole : front ++ byte :: others = front ++ [byte] ++ others := by simp
      cases skip with
      | succ skip =>
          rw [offsetsBehind_covered] at noted
          rw [whole]
          exact inductionHypothesis noted
      | zero =>
          by_cases here : delimiter <+: byte :: others
          · rw [offsetsBehind_here here, List.mem_append] at noted
            rcases noted with atStart | later
            · split at atStart
              case isTrue lineStart =>
                rw [List.mem_singleton.mp atStart]
                exact beginsLineAt_here here lineStart
              case isFalse => cases atStart
            · rw [whole]
              exact inductionHypothesis later
          · rw [offsetsBehind_other here] at noted
            rw [whole]
            exact inductionHypothesis noted

theorem pairwise_offsetsBehind (delimiter front : Bytes) (skip : Nat) (rest : Bytes) :
    (offsetsBehind delimiter front skip rest).Pairwise (· < ·) ∧
      ∀ offset ∈ offsetsBehind delimiter front skip rest, front.length ≤ offset := by
  induction rest generalizing front skip with
  | nil => exact ⟨List.Pairwise.nil, nofun⟩
  | cons byte others inductionHypothesis =>
      have next (skip : Nat) : (offsetsBehind delimiter (front ++ [byte]) skip others).Pairwise
            (· < ·) ∧
          ∀ offset ∈ offsetsBehind delimiter (front ++ [byte]) skip others,
            front.length < offset := by
        have step := inductionHypothesis (front ++ [byte]) skip
        rwa [List.length_append] at step
      cases skip with
      | succ skip =>
          rw [offsetsBehind_covered]
          exact ⟨(next skip).1, fun offset noted => Nat.le_of_lt ((next skip).2 offset noted)⟩
      | zero =>
          by_cases here : delimiter <+: byte :: others
          · obtain ⟨sorted, above⟩ := next (delimiter.length - 1)
            rw [offsetsBehind_here here]
            cases endsLine front with
            | false => exact ⟨sorted, fun offset noted => Nat.le_of_lt (above offset noted)⟩
            | true =>
                refine ⟨List.pairwise_cons.mpr ⟨above, sorted⟩, fun offset noted => ?_⟩
                rcases List.mem_cons.mp noted with same | later
                · exact Nat.le_of_eq same.symm
                · exact Nat.le_of_lt (above offset later)
          · rw [offsetsBehind_other here]
            exact ⟨(next 0).1, fun offset noted => Nat.le_of_lt ((next 0).2 offset noted)⟩

theorem not_beginsLineAt_inside (noReturn : 0x0D ∉ delimiter)
    (noFeed : delimiter.head? ≠ some 0x0A) (here : delimiter <+: rest)
    (behind : front.length < offset) (before : offset < front.length + delimiter.length) :
    ¬ BeginsLineAt delimiter (front ++ rest) offset := by
  rintro ⟨earlier, after, whole, rfl, lineStart⟩
  obtain ⟨tail, rfl⟩ := here
  have frontFirst : front <+: earlier :=
    List.prefix_of_prefix_length_le (List.prefix_append _ _) ⟨_, whole.symm⟩ (Nat.le_of_lt behind)
  obtain ⟨inner, rfl⟩ := frontFirst
  rw [List.append_assoc, List.append_cancel_left_eq] at whole
  rw [List.length_append] at behind before
  have inside : inner <+: delimiter :=
    List.prefix_of_prefix_length_le ⟨_, whole.symm⟩ (List.prefix_append _ _) (by omega)
  rcases List.eq_nil_or_concat inner with rfl | ⟨others, last, rfl⟩
  · exact absurd behind (Nat.lt_irrefl _)
  rw [List.concat_eq_append] at inside lineStart
  rcases lineStart with empty | ⟨start, ends⟩
  · simp at empty
  -- The line break before the offset would reach into the delimiter.
  have split : (start ++ [0x0D]) ++ [0x0A] = (front ++ others) ++ [last] := by
    simpa [lineBreak] using ends
  obtain ⟨returns, feeds⟩ := List.append_inj' split rfl
  cases feeds
  rcases List.eq_nil_or_concat others with rfl | ⟨more, return_, rfl⟩
  · obtain ⟨back, rfl⟩ := inside
    exact noFeed rfl
  · rw [List.concat_eq_append, ← List.append_assoc] at returns
    obtain ⟨-, returns⟩ := List.append_inj' returns rfl
    cases returns
    exact noReturn (inside.subset (by simp))

/-- Where a delimiter of a single line begins a line it is noted, unless it is covered. -/
theorem mem_offsetsBehind (nonempty : delimiter ≠ []) (noReturn : 0x0D ∉ delimiter)
    (noFeed : delimiter.head? ≠ some 0x0A)
    (covered : ∀ offset, front.length ≤ offset → offset < front.length + skip →
      ¬ BeginsLineAt delimiter (front ++ rest) offset)
    (begins : BeginsLineAt delimiter (front ++ rest) offset) (behind : front.length ≤ offset) :
    offset ∈ offsetsBehind delimiter front skip rest := by
  induction rest generalizing front skip with
  | nil =>
      have inside := begins.inside
      have positive := List.length_pos_iff.mpr nonempty
      rw [List.append_nil] at inside
      omega
  | cons byte others inductionHypothesis =>
      have whole : front ++ byte :: others = front ++ [byte] ++ others := by simp
      have next : (front ++ [byte]).length = front.length + 1 := List.length_append
      have step {skip : Nat} (later : front.length < offset)
          (covered : ∀ offset, front.length < offset → offset < front.length + 1 + skip →
            ¬ BeginsLineAt delimiter (front ++ byte :: others) offset) :
          offset ∈ offsetsBehind delimiter (front ++ [byte]) skip others := by
        rw [whole] at begins covered
        refine inductionHypothesis ?_ begins ?_ <;> rw [next]
        · exact covered
        · exact later
      cases skip with
      | succ skip =>
          have later : front.length < offset := by
            refine Nat.lt_of_le_of_ne behind ?_
            rintro rfl
            exact covered _ (Nat.le_refl _) (by omega) begins
          rw [offsetsBehind_covered]
          exact step later fun offset above below => covered offset (by omega) (by omega)
      | zero =>
          rcases Nat.lt_or_eq_of_le behind with later | rfl
          · by_cases here : delimiter <+: byte :: others
            · rw [offsetsBehind_here here, List.mem_append]
              refine .inr (step later fun offset above below => ?_)
              exact not_beginsLineAt_inside noReturn noFeed here above (by omega)
            · rw [offsetsBehind_other here]
              exact step later fun offset above below => by omega
          · obtain ⟨here, lineStart⟩ := begins.here
            rw [offsetsBehind_here here, if_pos lineStart]
            exact List.mem_append_left _ List.mem_cons_self

/-! ## Whole bodies -/

theorem pairwise_delimiterOffsets (body delimiter : Bytes) :
    (delimiterOffsets body delimiter).Pairwise (· < ·) := by
  rw [delimiterOffsets_eq]
  exact (pairwise_offsetsBehind delimiter [] 0 body).1

theorem beginsLineAt_of_mem_delimiterOffsets (noted : offset ∈ delimiterOffsets body delimiter) :
    BeginsLineAt delimiter body offset := by
  rw [delimiterOffsets_eq] at noted
  exact beginsLineAt_of_mem noted

/-- Of a delimiter that starts with dashes and is of a single line none is missed. -/
theorem mem_delimiterOffsets_iff (dashed : dashes <+: delimiter) (noReturn : 0x0D ∉ delimiter) :
    offset ∈ delimiterOffsets body delimiter ↔ BeginsLineAt delimiter body offset := by
  refine ⟨beginsLineAt_of_mem_delimiterOffsets, fun begins => ?_⟩
  obtain ⟨tail, rfl⟩ := dashed
  have nonempty : dashes ++ tail ≠ [] := List.cons_ne_nil _ _
  have noFeed : (dashes ++ tail).head? ≠ some 0x0A := by
    rw [dashes, List.cons_append, List.head?_cons]
    decide
  have uncovered (offset : Nat) : 0 ≤ offset → offset < 0 →
      ¬ BeginsLineAt (dashes ++ tail) body offset := fun _ before => absurd before offset.not_lt_zero
  rw [delimiterOffsets_eq]
  exact @mem_offsetsBehind _ [] body offset 0 nonempty noReturn noFeed uncovered begins
    (Nat.zero_le _)

end Multipart

end Ebms
