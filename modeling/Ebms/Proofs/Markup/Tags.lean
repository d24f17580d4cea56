import Ebms.Markup.Reader
import Ebms.Markup.Writer
import Ebms.Proofs.Markup.CharacterData
import Ebms.Proofs.Text.Cutting

/-! # Tags are read as they were written

A tag whose names are made of letters, digits and the other characters that a
name may hold ends at its own bracket, and gives back the name and every
attribute with its exact value.  The values are free: whatever they hold is
written without quotation marks. -/

set_option autoImplicit false

namespace Ebms.Markup

/-- A letter, a digit, or one of the other characters of names.  Beyond ASCII all count. -/
def isNameChar (c : Char) : Bool :=
  c.isAlphanum || [':', '-', '_', '.'].contains c || 128 ≤ c.toNat

def isName (name : String) : Bool := !name.toList.isEmpty && name.toList.all isNameChar

theorem not_mem_of_isName {name : String} (valid : isName name = true) {byte : UInt8}
    (ascii : byte.toNat < 128) (reserved : isNameChar (Char.ofNat byte.toNat) = false) :
    byte ∉ Bytes.ofText name := by
  intro member
  obtain ⟨c, inside, code⟩ := Bytes.mem_ofText member ascii
  rw [isName, Bool.and_eq_true, List.all_eq_true] at valid
  have nameChar := valid.2 c inside
  rw [← code, Char.ofNat_toNat, nameChar] at reserved
  cases reserved

theorem ofText_ne_nil_of_isName {name : String} (valid : isName name = true) :
    Bytes.ofText name ≠ [] := by
  intro empty
  have same : name = "" := Bytes.ofText_injective empty
  rw [same] at valid
  exact absurd valid (by decide)

def reservedBytes : Bytes :=
  [0x3C, 0x3E, 0x27, 0x22, 0x3D, 0x2F, 0x20, 0x0D, 0x0A, 0x09, 0x21, 0x3F]

theorem reserved_not_mem {name : String} (valid : isName name = true) {byte : UInt8}
    (reserved : byte ∈ reservedBytes) : byte ∉ Bytes.ofText name := by
  have checked : reservedBytes.all (fun byte =>
      decide (byte.toNat < 128) && !isNameChar (Char.ofNat byte.toNat)) = true := by decide
  have facts : byte.toNat < 128 ∧ isNameChar (Char.ofNat byte.toNat) = false := by
    simpa using List.all_eq_true.mp checked byte reserved
  exact not_mem_of_isName valid facts.1 facts.2

theorem isTagBlank_of_name {name : String} (valid : isName name = true) {byte : UInt8}
    (member : byte ∈ Bytes.ofText name) : isTagBlank byte = false := by
  cases blank : isTagBlank byte with
  | false => rfl
  | true =>
      have reserved : byte ∈ reservedBytes := by
        simp only [isTagBlank, Bool.or_eq_true, beq_iff_eq] at blank
        rcases blank with ((same | same) | same) | same <;> rw [same] <;> decide
      exact absurd member (reserved_not_mem valid reserved)

/-! ## Where a tag ends -/

/-- Bytes that neither close a tag nor open a quotation are passed over. -/
theorem splitTag_none_append {plain : Bytes}
    (free : ∀ byte ∈ plain, byte ≠ 0x3E ∧ byte ≠ 0x27 ∧ byte ≠ 0x22) (passed rest : Bytes) :
    splitTag none passed (plain ++ rest) = splitTag none (plain.reverse ++ passed) rest := by
  induction plain generalizing passed with
  | nil => rfl
  | cons byte others inductionHypothesis =>
      obtain ⟨noGreater, noApostrophe, noQuote⟩ := free byte List.mem_cons_self
      have freeOthers : ∀ byte ∈ others, byte ≠ 0x3E ∧ byte ≠ 0x27 ∧ byte ≠ 0x22 := by
        intro byte member
        exact free byte (List.mem_cons_of_mem _ member)
      have noMark : ¬ (byte = 0x27 ∨ byte = 0x22) := by simp [noApostrophe, noQuote]
      rw [List.cons_append, splitTag]
      simp only [if_neg noGreater, if_neg noMark]
      rw [inductionHypothesis freeOthers, List.reverse_cons, List.append_assoc,
        List.singleton_append]

theorem splitTag_some_append {mark : UInt8} {quoted : Bytes} (absent : mark ∉ quoted)
    (passed rest : Bytes) :
    splitTag (some mark) passed (quoted ++ mark :: rest) =
      splitTag none (mark :: (quoted.reverse ++ passed)) rest := by
  induction quoted generalizing passed with
  | nil =>
      rw [List.nil_append, splitTag]
      simp
  | cons byte others inductionHypothesis =>
      have different : byte ≠ mark := by
        intro same
        exact absent (by simp [same])
      have absentOthers : mark ∉ others := by
        intro member
        exact absent (List.mem_cons_of_mem _ member)
      rw [List.cons_append, splitTag]
      simp only [if_neg different]
      rw [inductionHypothesis absentOthers, List.reverse_cons, List.append_assoc,
        List.singleton_append]

theorem free_of_name {name : String} (valid : isName name = true) :
    ∀ byte ∈ Bytes.ofText name, byte ≠ 0x3E ∧ byte ≠ 0x27 ∧ byte ≠ 0x22 := by
  intro byte member
  refine ⟨?_, ?_, ?_⟩
  all_goals
    intro same
    rw [same] at member
    exact reserved_not_mem valid (by decide) member

theorem splitTag_renderAttribute {pair : String × String} (valid : isName pair.1 = true)
    (passed rest : Bytes) :
    splitTag none passed (renderAttribute pair ++ rest) =
      splitTag none ((renderAttribute pair).reverse ++ passed) rest := by
  have free : ∀ byte ∈ 0x20 :: (Bytes.ofText pair.1 ++ [0x3D]),
      byte ≠ 0x3E ∧ byte ≠ 0x27 ∧ byte ≠ 0x22 := by
    intro byte member
    rw [List.mem_cons, List.mem_append, List.mem_singleton] at member
    rcases member with same | inName | same
    · rw [same]
      decide
    · exact free_of_name valid byte inName
    · rw [same]
      decide
  have shape : renderAttribute pair ++ rest =
      (0x20 :: (Bytes.ofText pair.1 ++ [0x3D])) ++
        (0x22 :: (escape (Bytes.ofText pair.2) ++ 0x22 :: rest)) := by
    simp [renderAttribute]
  have noQuote : (0x22 : UInt8) ∉ escape (Bytes.ofText pair.2) :=
    not_mem_escape (by decide) _
  rw [shape, splitTag_none_append free, splitTag]
  simp only [show ¬ (0x22 : UInt8) = 0x3E by decide, if_false, or_true, if_true]
  rw [splitTag_some_append noQuote]
  simp [renderAttribute]

def renderAttributes (attributes : List (String × String)) : Bytes :=
  attributes.flatMap renderAttribute

theorem splitTag_renderAttributes {attributes : List (String × String)}
    (valid : ∀ pair ∈ attributes, isName pair.1 = true) (passed rest : Bytes) :
    splitTag none passed (renderAttributes attributes ++ rest) =
      splitTag none ((renderAttributes attributes).reverse ++ passed) rest := by
  induction attributes generalizing passed with
  | nil => rfl
  | cons pair others inductionHypothesis =>
      have validOthers : ∀ pair ∈ others, isName pair.1 = true := by
        intro pair member
        exact valid pair (List.mem_cons_of_mem _ member)
      have shape : renderAttributes (pair :: others) =
          renderAttribute pair ++ renderAttributes others := List.flatMap_cons
      rw [shape, List.append_assoc, splitTag_renderAttribute (valid pair List.mem_cons_self),
        inductionHypothesis validOthers, List.reverse_append, List.append_assoc]

/-- A written tag ends where its writer ended it. -/
theorem splitTag_tag {name : String} {attributes : List (String × String)}
    (validName : isName name = true) (valid : ∀ pair ∈ attributes, isName pair.1 = true)
    (tail : Bytes) (plainTail : ∀ byte ∈ tail, byte ≠ 0x3E ∧ byte ≠ 0x27 ∧ byte ≠ 0x22)
    (rest : Bytes) :
    splitTag none [] (Bytes.ofText name ++ renderAttributes attributes ++ tail ++ 0x3E :: rest) =
      some (Bytes.ofText name ++ renderAttributes attributes ++ tail, rest) := by
  rw [List.append_assoc, List.append_assoc, splitTag_none_append (free_of_name validName),
    splitTag_renderAttributes valid, splitTag_none_append plainTail, splitTag]
  simp

/-! ## Reading attributes -/

def rawAttribute (pair : String × String) : Bytes × Bytes :=
  (Bytes.ofText pair.1, escape (Bytes.ofText pair.2))

theorem attributesFrom_renderAttribute {pair : String × String}
    (valid : isName pair.1 = true) {seen : List (Bytes × Bytes)}
    (fresh : ∀ earlier ∈ seen, earlier.1 ≠ Bytes.ofText pair.1) (fuel : Nat) (rest : Bytes) :
    attributesFrom seen (fuel + 1) (renderAttribute pair ++ rest) =
      attributesFrom (rawAttribute pair :: seen) fuel rest := by
  obtain ⟨first, others, name⟩ := List.exists_cons_of_ne_nil (ofText_ne_nil_of_isName valid)
  have inName : ∀ byte ∈ first :: others, byte != 0x3D && !isTagBlank byte := by
    intro byte member
    rw [← name] at member
    have noEquals : byte ≠ 0x3D := by
      intro same
      rw [same] at member
      exact reserved_not_mem valid (by decide) member
    simp [noEquals, isTagBlank_of_name valid member]
  have firstKept : isTagBlank first = false := by
    have kept := inName first List.mem_cons_self
    simp only [Bool.and_eq_true, Bool.not_eq_true'] at kept
    exact kept.2
  have othersKept : ∀ byte ∈ others, byte != 0x3D && !isTagBlank byte := by
    intro byte member
    exact inName byte (List.mem_cons_of_mem _ member)
  have shape : renderAttribute pair ++ rest =
      0x20 :: first :: (others ++ 0x3D :: 0x22 ::
        (escape (Bytes.ofText pair.2) ++ 0x22 :: rest)) := by
    simp [renderAttribute, name]
  have blank : isTagBlank 0x20 = true := by decide
  have equals : ((0x3D : UInt8) != 0x3D && !isTagBlank 0x3D) = false := by decide
  have quote : isTagBlank 0x22 = false := by decide
  have unseen : seen.any (·.1 == first :: others) = false := by
    rw [List.any_eq_false]
    intro earlier member
    rw [beq_iff_eq, ← name]
    exact fresh earlier member
  have value : ∀ byte ∈ escape (Bytes.ofText pair.2), (byte != 0x22) = true := by
    intro byte member
    rw [bne_iff_ne]
    intro same
    rw [same] at member
    exact not_mem_escape (by decide) _ member
  rw [shape, attributesFrom]
  simp only [List.dropWhile_cons, blank, firstKept, if_true, Bool.false_eq_true, if_false,
    Text.takeWhile_append_stop othersKept equals, Text.dropWhile_append_stop othersKept equals,
    quote, show isTagBlank 0x3D = false by decide, unseen, true_or]
  have stop : ((0x22 : UInt8) != 0x22) = false := by decide
  rw [Text.dropWhile_append_stop value stop, Text.takeWhile_append_stop value stop, rawAttribute,
    name]

theorem attributesFrom_renderAttributes {attributes : List (String × String)}
    (valid : ∀ pair ∈ attributes, isName pair.1 = true)
    (distinct : (attributes.map (·.1)).Nodup) {seen : List (Bytes × Bytes)}
    (fresh : ∀ earlier ∈ seen, ∀ pair ∈ attributes, earlier.1 ≠ Bytes.ofText pair.1)
    {fuel : Nat} (enough : attributes.length ≤ fuel) :
    attributesFrom seen fuel (renderAttributes attributes) =
      some (seen.reverse ++ attributes.map rawAttribute) := by
  induction attributes generalizing seen fuel with
  | nil =>
      cases fuel with
      | zero => simp [renderAttributes, attributesFrom]
      | succ fuel => simp [renderAttributes, attributesFrom]
  | cons pair others inductionHypothesis =>
      cases fuel with
      | zero => simp at enough
      | succ fuel =>
          rw [List.map_cons, List.nodup_cons] at distinct
          have shape : renderAttributes (pair :: others) =
              renderAttribute pair ++ renderAttributes others := List.flatMap_cons
          rw [shape, attributesFrom_renderAttribute (valid pair List.mem_cons_self)
            (fun earlier member => fresh earlier member pair List.mem_cons_self),
            inductionHypothesis
              (fun other member => valid other (List.mem_cons_of_mem _ member)) distinct.2
              _ (by simpa using enough)]
          · simp
          · intro earlier member other inOthers
            rcases List.mem_cons.mp member with same | before
            · intro clash
              rw [same, rawAttribute] at clash
              apply distinct.1
              rw [Bytes.ofText_injective clash]
              exact List.mem_map_of_mem inOthers
            · exact fresh earlier before other (List.mem_cons_of_mem _ inOthers)

theorem length_le_length_renderAttributes (attributes : List (String × String)) :
    attributes.length ≤ (renderAttributes attributes).length := by
  induction attributes with
  | nil => simp
  | cons pair others inductionHypothesis =>
      have shape : renderAttributes (pair :: others) =
          renderAttribute pair ++ renderAttributes others := List.flatMap_cons
      rw [shape, List.length_append, List.length_cons]
      simp only [renderAttribute, List.length_cons]
      omega

theorem mapM_attributeText? (attributes : List (String × String)) :
    (attributes.map rawAttribute).mapM attributeText? = some attributes := by
  induction attributes with
  | nil => rfl
  | cons pair others inductionHypothesis =>
      rw [List.map_cons, List.mapM_cons, inductionHypothesis]
      simp [attributeText?, rawAttribute, text?_escape_ofText]

theorem elementOfTag_tag {name : String} {attributes : List (String × String)}
    (validName : isName name = true) (valid : ∀ pair ∈ attributes, isName pair.1 = true)
    (distinct : (attributes.map (·.1)).Nodup) :
    elementOfTag (Bytes.ofText name ++ renderAttributes attributes) =
      .ok { name, attributes, children := [], text := "" } := by
  have inName : ∀ byte ∈ Bytes.ofText name, (!isTagBlank byte) = true := by
    intro byte member
    rw [isTagBlank_of_name validName member]
    rfl
  have blank : (!isTagBlank 0x20) = false := by decide
  have cut : (Bytes.ofText name ++ renderAttributes attributes).takeWhile (!isTagBlank ·) =
        Bytes.ofText name ∧
      (Bytes.ofText name ++ renderAttributes attributes).dropWhile (!isTagBlank ·) =
        renderAttributes attributes := by
    cases attributes with
    | nil =>
        simp only [renderAttributes, List.flatMap_nil, List.append_nil]
        constructor
        · have kept : (Bytes.ofText name ++ []).takeWhile (!isTagBlank ·) =
              Bytes.ofText name ++ [].takeWhile (!isTagBlank ·) :=
            List.takeWhile_append_of_pos inName
          rwa [List.append_nil, List.takeWhile_nil, List.append_nil] at kept
        · have dropped : (Bytes.ofText name ++ []).dropWhile (!isTagBlank ·) =
              [].dropWhile (!isTagBlank ·) := List.dropWhile_append_of_pos inName
          rwa [List.append_nil, List.dropWhile_nil] at dropped
    | cons pair others =>
        have shape : renderAttributes (pair :: others) =
            0x20 :: (renderAttributes (pair :: others)).tail := by
          simp [renderAttributes, renderAttribute]
        rw [shape]
        exact ⟨Text.takeWhile_append_stop inName blank _,
          Text.dropWhile_append_stop inName blank _⟩
  have read : attributesFrom [] (renderAttributes attributes).length
      (renderAttributes attributes) = some ([].reverse ++ attributes.map rawAttribute) :=
    attributesFrom_renderAttributes valid distinct (by intro earlier member; cases member)
      (length_le_length_renderAttributes attributes)
  rw [List.reverse_nil, List.nil_append] at read
  rw [elementOfTag, cut.1, cut.2, attributes?, read]
  simp only [Bytes.text?_ofText, mapM_attributeText?]
  rfl

end Ebms.Markup
