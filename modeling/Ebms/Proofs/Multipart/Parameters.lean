import Ebms.Multipart
import Ebms.Proofs.Text.Cutting

/-! # The parameters of a content type

A content type names a media type and then parameters, in any order.  Looking for a
parameter finds the first one of its name, in whichever letter case, and what it states:
the value, in quotes or without them. -/

set_option autoImplicit false

namespace Ebms.Multipart

/-- A parameter as it is written; there may be blanks around it. -/
structure Parameter where
  name : String
  value : String
  quoted : Bool
  blanks : String

namespace Parameter

variable (p : Parameter)

def text : String :=
  p.name ++ "=" ++ ((if p.quoted then "\"" ++ p.value ++ "\"" else p.value) ++ p.blanks)

def isNamed (name : String) : Bool := Text.sameIgnoringCase (Text.trim p.name) name

/-- The value that is meant.  Quotes keep the blanks inside them. -/
def stated : String := if p.quoted then p.value else Text.trim p.value

structure IsWellFormed : Prop where
  name : ';' ∉ p.name.toList ∧ '=' ∉ p.name.toList
  value : ';' ∉ p.value.toList ∧ '"' ∉ p.value.toList
  blanks : Text.isAllBlank p.blanks = true

end Parameter

structure ContentType where
  mediaType : String
  parameters : List Parameter

namespace ContentType

variable (c : ContentType)

def text : String := ";".intercalate (c.mediaType :: c.parameters.map Parameter.text)

def find? (name : String) : Option String :=
  (c.parameters.find? (·.isNamed name)).map Parameter.stated

structure IsWellFormed : Prop where
  mediaType : ';' ∉ c.mediaType.toList
  parameters : ∀ p ∈ c.parameters, p.IsWellFormed

end ContentType

/-! ## Values -/

theorem strip_quoted {text : String} (plain : '"' ∉ text.toList) :
    Text.stripEnd (· == '"') (Text.stripStart (· == '"') (Text.trim ("\"" ++ text ++ "\""))) =
      text := by
  have shape : "\"" ++ text ++ "\"" = String.ofList ('"' :: (text.toList ++ ['"'])) := by
    rw [← String.toList_inj]
    simp
  have start : ('"' :: (text.toList ++ ['"'])).dropWhile (· == '"') =
      if text.toList = [] then [] else text.toList ++ ['"'] := by
    cases chars : text.toList with
    | nil => rfl
    | cons first others =>
        have kept : first ≠ '"' := by
          intro same
          exact plain (by rw [chars, same]; exact List.mem_cons_self)
        simp [kept]
  rw [shape, Text.trim_enclosed (by decide) (by decide), Text.stripStart, String.toList_ofList,
    start, Text.stripEnd, String.toList_ofList]
  split
  case isTrue empty =>
    rw [← String.toList_inj, empty]
    rfl
  case isFalse nonempty =>
    rcases List.eq_nil_or_concat text.toList with empty | ⟨others, last, chars⟩
    · exact absurd empty nonempty
    · rw [List.concat_eq_append] at chars
      have kept : last ≠ '"' := by
        intro same
        exact plain (by rw [chars, same]; simp)
      rw [Text.dropEndWhile_concat_of_drop (by decide), chars,
        Text.dropEndWhile_concat (by simp [kept]), ← chars, String.ofList_toList]

theorem strip_plain {text : String} (plain : '"' ∉ text.toList) :
    Text.stripEnd (· == '"') (Text.stripStart (· == '"') text) = text := by
  have kept (c : Char) (member : c ∈ text.toList) : (c == '"') = false := by
    rw [beq_eq_false_iff_ne]
    rintro rfl
    exact plain member
  rw [Text.stripStart_eq_self fun c first => kept c (List.mem_of_head? first)]
  exact Text.stripEnd_eq_self fun c last => kept c (List.mem_of_getLast? last)

namespace Parameter

variable {p : Parameter}

theorem strip_written (wellFormed : p.IsWellFormed) :
    Text.stripEnd (· == '"') (Text.stripStart (· == '"') (Text.trim
        ((if p.quoted then "\"" ++ p.value ++ "\"" else p.value) ++ p.blanks))) = p.stated := by
  have plain := wellFormed.value.2
  rw [Text.trim_append_blanks _ wellFormed.blanks, stated]
  cases p.quoted with
  | true => exact strip_quoted plain
  | false => exact strip_plain fun member => plain ((Text.isInfix_trim _).subset member)

theorem noMark_text (wellFormed : p.IsWellFormed) : ';' ∉ p.text.toList := by
  have name := wellFormed.name.1
  have value := wellFormed.value.1
  have blanks : ';' ∉ p.blanks.toList := by
    intro member
    have blank := List.all_eq_true.mp wellFormed.blanks _ member
    revert blank
    decide
  cases quoted : p.quoted <;> simp [text, quoted, name, value, blanks]

/-- What is read from a parameter when a name is looked for. -/
theorem splitOnce_text (wellFormed : p.IsWellFormed) :
    Text.splitOnce '=' p.text =
      some (p.name, (if p.quoted then "\"" ++ p.value ++ "\"" else p.value) ++ p.blanks) := by
  have shape : p.text.toList = p.name.toList ++ '=' ::
      ((if p.quoted then "\"" ++ p.value ++ "\"" else p.value) ++ p.blanks).toList := by
    simp [text]
  rw [Text.splitOnce_of_toList shape wellFormed.name.2, String.ofList_toList, String.ofList_toList]

end Parameter

theorem ContentType.pieces_text {c : ContentType} (wellFormed : c.IsWellFormed) :
    Text.pieces ';' c.text = c.mediaType :: c.parameters.map Parameter.text := by
  refine Text.pieces_intercalate (List.cons_ne_nil _ _) (List.forall_mem_cons.mpr
    ⟨wellFormed.mediaType, List.forall_mem_map.mpr fun p member => ?_⟩)
  exact Parameter.noMark_text (wellFormed.parameters p member)

/-- A parameter that is looked for is found. -/
theorem parameter?_text {c : ContentType} (wellFormed : c.IsWellFormed) (name : String) :
    parameter? c.text name = c.find? name := by
  rw [parameter?, ContentType.pieces_text wellFormed, List.drop_succ_cons, List.drop_zero,
    ContentType.find?]
  have each := wellFormed.parameters
  generalize c.parameters = parameters at each
  induction parameters with
  | nil => rfl
  | cons p others inductionHypothesis =>
      obtain ⟨first, rest⟩ := List.forall_mem_cons.mp each
      rw [List.map_cons, List.findSome?_cons, Parameter.splitOnce_text first, List.find?_cons]
      cases named : p.isNamed name with
      | true =>
          have same : Text.sameIgnoringCase (Text.trim p.name) name = true := named
          simp only [same, if_true, Parameter.strip_written first, Option.map_some]
      | false =>
          have other : Text.sameIgnoringCase (Text.trim p.name) name = false := named
          simp only [other, Bool.false_eq_true, if_false]
          exact inductionHypothesis rest

end Ebms.Multipart
