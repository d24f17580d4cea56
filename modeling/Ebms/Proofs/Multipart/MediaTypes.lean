import Ebms.Proofs.Wire
import Ebms.Transport

/-! # Which content types mean a multipart body

Both the reader of messages and the transport ask whether a content type is that of a
multipart message.  They leave blanks, parameters and letter case aside; but the reader looks
at the beginning of the media type only, the transport at the whole of it.  So a media type
that goes on behind the name of the multipart one is multipart to the reader alone: its body
is taken apart at delimiters, and a server error that carries it counts for no answer. -/

set_option autoImplicit false

namespace Ebms

namespace Multipart

variable {contentType : String}

def relatedType : List Char := "multipart/related".toList

theorem plain_of_toLower_mem {c : Char} (member : c.toLower ∈ relatedType) :
    Text.isBlank c = false ∧ c ≠ ';' := by
  constructor
  · cases blank : Text.isBlank c with
    | false => rfl
    | true =>
        have none : relatedType.all (!Text.isBlank ·) = true := by decide
        rw [Text.toLower_of_isBlank blank] at member
        have clean := List.all_eq_true.mp none c member
        rw [blank] at clean
        cases clean
  · rintro rfl
    exact absurd member (by decide)

theorem toList_mediaTypeOf (contentType : String) :
    (mediaTypeOf contentType).toList =
      (Text.dropEndWhile Text.isBlank
        ((contentType.toList.takeWhile (· != ';')).dropWhile Text.isBlank)).map Char.toLower := by
  rw [mediaTypeOf, Text.asciiLower, Text.trim, Text.headD_pieces, String.toList_ofList,
    String.toList_ofList, String.toList_ofList]

theorem isMultipart_eq_true_iff :
    isMultipart contentType = true ↔
      relatedType <+: (contentType.toList.dropWhile Text.isBlank).map Char.toLower :=
  Text.startsWith_lower_stripStart contentType "multipart/related"

theorem startsWith_related_iff :
    Text.startsWith (mediaTypeOf contentType) "multipart/related" = true ↔
      relatedType <+: (mediaTypeOf contentType).toList :=
  Text.startsWith_eq_true_iff _ "multipart/related"

theorem exists_of_isMultipart (multipart : isMultipart contentType = true) :
    ∃ blanks name rest, contentType.toList = blanks ++ (name ++ rest) ∧
      (∀ c ∈ blanks, Text.isBlank c = true) ∧ name.map Char.toLower = relatedType := by
  obtain ⟨tail, whole⟩ := isMultipart_eq_true_iff.mp multipart
  obtain ⟨name, rest, shape, lower, -⟩ := List.map_eq_append_iff.mp whole.symm
  refine ⟨contentType.toList.takeWhile Text.isBlank, name, rest, ?_, ?_, lower⟩
  · rw [← shape, List.takeWhile_append_dropWhile]
  · exact fun c member => (List.all_eq_true.mp List.all_takeWhile) c member

theorem exists_mediaTypeOf {blanks name rest : List Char}
    (shape : contentType.toList = blanks ++ (name ++ rest))
    (blank : ∀ c ∈ blanks, Text.isBlank c = true) (lower : name.map Char.toLower = relatedType) :
    ∃ more, (mediaTypeOf contentType).toList = relatedType ++ more := by
  have plain : ∀ c ∈ name, Text.isBlank c = false ∧ c ≠ ';' := by
    intro c member
    exact plain_of_toLower_mem (lower ▸ List.mem_map_of_mem member)
  have nonempty : name ≠ [] := by
    rintro rfl
    cases lower
  have noMark : ∀ c ∈ blanks ++ name, (c != ';') = true := by
    intro c member
    rw [bne_iff_ne]
    rcases List.mem_append.mp member with inBlanks | inName
    · rintro rfl
      exact absurd (blank _ inBlanks) (by decide)
    · exact (plain c inName).2
  have stays (back : List Char) : (name ++ back).dropWhile Text.isBlank = name ++ back := by
    obtain ⟨first, others, rfl⟩ := List.exists_cons_of_ne_nil nonempty
    have kept := (plain first List.mem_cons_self).1
    rw [List.cons_append, List.dropWhile_cons_of_neg (by simp [kept])]
  rw [toList_mediaTypeOf, shape, ← List.append_assoc, List.takeWhile_append_of_pos noMark,
    List.append_assoc, List.dropWhile_append_of_pos blank, stays,
    Text.dropEndWhile_append (List.getLast?_eq_some_getLast nonempty)
      (plain _ (List.getLast_mem nonempty)).1, List.map_append, lower]
  exact ⟨_, rfl⟩

/-- The beginning of a content type is that of its media type, as long as the name lasts. -/
theorem isMultipart_iff :
    isMultipart contentType = true ↔ relatedType <+: (mediaTypeOf contentType).toList := by
  constructor
  · intro multipart
    obtain ⟨blanks, name, rest, shape, blank, lower⟩ := exists_of_isMultipart multipart
    obtain ⟨more, whole⟩ := exists_mediaTypeOf shape blank lower
    exact ⟨more, whole.symm⟩
  · rw [isMultipart_eq_true_iff, toList_mediaTypeOf]
    intro begins
    refine begins.trans (List.IsPrefix.map _ ((Text.isPrefix_dropEndWhile _ _).trans ?_))
    exact Text.isPrefix_dropWhile (List.takeWhile_prefix _)

end Multipart

open Multipart

variable {contentType : String} {body : Bytes}

/-! ## What the reader takes for multipart -/

def TakesApart (contentType : String) : Prop :=
  ∀ body : Bytes, body.all isBlankByte = false →
    decode (some contentType) body = (decodeRelated contentType body).map some

theorem decode_of_isMultipart (multipart : isMultipart contentType = true)
    (message : body.all isBlankByte = false) :
    decode (some contentType) body = (decodeRelated contentType body).map some := by
  simp only [decode, message, Bool.false_eq_true, if_false, Option.filter_some, multipart, if_true]

theorem decode_of_not_isMultipart (single : isMultipart contentType = false)
    (message : body.all isBlankByte = false) :
    decode (some contentType) body = (Envelope.ofDocument body).map some := by
  simp only [decode, message, Bool.false_eq_true, if_false, Option.filter_some, single]

theorem exists_fault_of_bracket (contentType : String) :
    ∃ fault, decodeRelated contentType [0x3C] = .error (.multipart fault) := by
  unfold decodeRelated Multipart.read
  cases parameter? contentType "boundary" with
  | none => exact ⟨_, rfl⟩
  | some boundary => exact ⟨.noDelimiter, rfl⟩

theorem takesApart_iff :
    TakesApart contentType ↔ relatedType <+: (mediaTypeOf contentType).toList := by
  rw [← isMultipart_iff]
  refine ⟨fun taken => ?_, fun multipart body => decode_of_isMultipart multipart⟩
  cases multipart : isMultipart contentType with
  | true => rfl
  | false =>
      -- A lone bracket fails in both readings, with faults of different kinds.
      obtain ⟨fault, related⟩ := exists_fault_of_bracket contentType
      have document : Envelope.ofDocument [0x3C] = .error (.markup .unclosedMarkup) := rfl
      have both := taken [0x3C] (by decide)
      rw [decode_of_not_isMultipart multipart (by decide), related, document] at both
      cases both

theorem decode_of_not_takesApart (single : ¬ TakesApart contentType)
    (message : body.all isBlankByte = false) :
    decode (some contentType) body = (Envelope.ofDocument body).map some := by
  rw [takesApart_iff, ← isMultipart_iff, Bool.not_eq_true] at single
  exact decode_of_not_isMultipart single message

/-! ## What the transport takes for multipart -/

theorem classifyStatus_of_serverError {status : Nat} (low : 500 ≤ status) (high : status ≤ 599) :
    classifyStatus status (some contentType) =
      if isSoapContentType contentType then .ok () else .error (.serverError status) := by
  have failure : ¬ (200 ≤ status ∧ status ≤ 299) := by omega
  have admitted : ¬ (status = 401 ∨ status = 403) := by omega
  rw [classifyStatus, if_neg failure, if_neg admitted, if_pos ⟨low, high⟩, Option.any_some]

theorem isSoapContentType_iff_of_begins
    (begins : relatedType <+: (mediaTypeOf contentType).toList) :
    isSoapContentType contentType = true ↔ mediaTypeOf contentType = "multipart/related" := by
  have other {text : String} (different : ¬ relatedType <+: text.toList) :
      mediaTypeOf contentType ≠ text := by
    rintro rfl
    exact different begins
  simp [isSoapContentType, other (by decide : ¬ relatedType <+: "application/soap+xml".toList),
    other (by decide : ¬ relatedType <+: "text/xml".toList)]

/-! ## Where the two agree -/

/-- The reader takes bodies apart exactly under the media type of multipart messages, and a
server error under a content type with which it does so counts as an answer. -/
structure AgreesOnMultipart (contentType : String) : Prop where
  apart : TakesApart contentType ↔ mediaTypeOf contentType = "multipart/related"
  answers : TakesApart contentType → ∀ status, 500 ≤ status → status ≤ 599 →
    classifyStatus status (some contentType) = .ok ()

theorem agrees_iff_of_takesApart (apart : TakesApart contentType) :
    AgreesOnMultipart contentType ↔ mediaTypeOf contentType = "multipart/related" := by
  have begins := takesApart_iff.mp apart
  refine ⟨fun both => both.apart.mp apart, fun whole => ⟨⟨fun _ => whole, fun _ => apart⟩, ?_⟩⟩
  intro _ status low high
  have soap := (isSoapContentType_iff_of_begins begins).mpr whole
  rw [classifyStatus_of_serverError low high, if_pos soap]

theorem agrees_of_not_takesApart (single : ¬ TakesApart contentType) :
    AgreesOnMultipart contentType := by
  refine ⟨⟨fun apart => absurd apart single, fun whole => takesApart_iff.mpr ?_⟩,
    fun apart => absurd apart single⟩
  rw [whole]
  exact List.prefix_rfl

/-- Bodies are taken apart exactly if the media type begins with that of multipart messages,
and read as documents otherwise.  So reader and transport agree exactly on the content types
whose media type does not go on behind it; where it does, bodies are taken apart and server
errors refused. -/
theorem agreesOnMultipart_iff (contentType : String) :
    (TakesApart contentType ↔
      Text.startsWith (mediaTypeOf contentType) "multipart/related" = true) ∧
    (¬ TakesApart contentType → ∀ body : Bytes, body.all isBlankByte = false →
      decode (some contentType) body = (Envelope.ofDocument body).map some) ∧
    (AgreesOnMultipart contentType ↔
      (Text.startsWith (mediaTypeOf contentType) "multipart/related" = true →
        mediaTypeOf contentType = "multipart/related")) ∧
    (¬ AgreesOnMultipart contentType → TakesApart contentType ∧
      ∀ status, 500 ≤ status → status ≤ 599 →
        classifyStatus status (some contentType) = .error (.serverError status)) := by
  rw [startsWith_related_iff, ← takesApart_iff]
  refine ⟨Iff.rfl, fun single body => decode_of_not_takesApart single, ?_, fun differs => ?_⟩
  · refine ⟨fun both apart => both.apart.mp apart, fun whole => ?_⟩
    by_cases apart : TakesApart contentType
    · exact (agrees_iff_of_takesApart apart).mpr (whole apart)
    · exact agrees_of_not_takesApart apart
  · by_cases apart : TakesApart contentType
    · refine ⟨apart, fun status low high => ?_⟩
      have longer := mt (agrees_iff_of_takesApart apart).mpr differs
      have noSoap := mt (isSoapContentType_iff_of_begins (takesApart_iff.mp apart)).mp longer
      rw [classifyStatus_of_serverError low high, if_neg noSoap]
    · exact absurd (agrees_of_not_takesApart apart) differs

/-- Blanks, letter case and parameters make no difference, and other media types none either. -/
theorem agreesOnMultipart_iff_spaced :
    AgreesOnMultipart " Multipart/Related ; boundary=b" ∧
      TakesApart " Multipart/Related ; boundary=b" ∧
      AgreesOnMultipart "multipart/mixed; type=multipart/related" := by
  obtain ⟨taken, -, agrees, -⟩ := agreesOnMultipart_iff " Multipart/Related ; boundary=b"
  obtain ⟨-, -, other, -⟩ := agreesOnMultipart_iff "multipart/mixed; type=multipart/related"
  exact ⟨agrees.mpr fun _ => by decide, taken.mpr (by decide),
    other.mpr fun begins => absurd begins (by decide)⟩

/-- A media type that goes on behind the multipart one is taken for it by the reader alone. -/
theorem not_agreesOnMultipart_longer :
    TakesApart "multipart/related-x; boundary=b" ∧
      mediaTypeOf "multipart/related-x; boundary=b" = "multipart/related-x" ∧
      classifyStatus 503 (some "multipart/related-x; boundary=b") = .error (.serverError 503) ∧
      ¬ AgreesOnMultipart "multipart/related-x; boundary=b" := by
  have apart : TakesApart "multipart/related-x; boundary=b" :=
    takesApart_iff.mpr (isMultipart_iff.mp (by decide))
  refine ⟨apart, by decide, rfl, fun both => ?_⟩
  exact absurd (both.apart.mp apart) (by decide)

end Ebms
