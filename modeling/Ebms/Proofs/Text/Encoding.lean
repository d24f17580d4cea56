import Ebms.Bytes

/-! # Texts and their bytes

A text is what its own bytes spell, so that no two texts share their bytes.  In
those bytes an ASCII byte stands for the ASCII character and for nothing else:
what holds of the characters of a text holds of its ASCII bytes. -/

set_option autoImplicit false

namespace Ebms.Bytes

@[simp] theorem ofText_append (first second : String) :
    ofText (first ++ second) = ofText first ++ ofText second := by
  simp [ofText, String.toByteArray_append]

@[simp] theorem ofText_empty : ofText "" = [] := rfl

theorem ofText_injective {first second : String}
    (same : ofText first = ofText second) : first = second := by
  rw [← String.toByteArray_inj]
  apply ByteArray.ext
  exact Array.toList_inj.mp same

@[simp] theorem text?_ofText (text : String) : text? (ofText text) = some text := by
  have bytesExact : (⟨(ofText text).toArray⟩ : ByteArray) = text.toByteArray := by
    simp [ofText]
  rw [text?, bytesExact, String.fromUTF8?, dif_pos text.isValidUTF8]
  rfl

theorem ofText_of_text? {bytes : Bytes} {text : String} (read : text? bytes = some text) :
    ofText text = bytes := by
  unfold text? String.fromUTF8? at read
  split at read
  · cases read
    rfl
  · cases read

theorem ofText_ofList (chars : List Char) :
    ofText (String.ofList chars) = chars.flatMap String.utf8EncodeChar := by
  simp [ofText, List.utf8Encode]

theorem ofText_eq_flatMap (text : String) :
    ofText text = text.toList.flatMap String.utf8EncodeChar := by
  have exact := ofText_ofList text.toList
  rwa [String.ofList_toList] at exact

theorem not_ascii_of_eq {byte : UInt8} {value : Nat} (exact : byte = UInt8.ofNat value)
    (low : 128 ≤ value) (high : value < 256) : ¬ byte.toNat < 128 := by
  rw [exact, UInt8.toNat_ofNat', Nat.mod_eq_of_lt (by omega)]
  omega

theorem mem_utf8EncodeChar {c : Char} {byte : UInt8}
    (member : byte ∈ String.utf8EncodeChar c) (ascii : byte.toNat < 128) :
    c.toNat = byte.toNat := by
  have code : c.val.toNat = c.toNat := rfl
  simp only [String.utf8EncodeChar, code] at member
  split at member
  case isTrue short =>
    rw [List.mem_singleton] at member
    rw [member, UInt8.toNat_ofNat', Nat.mod_eq_of_lt (by omega)]
  case isFalse =>
    -- Every byte of a longer form has its highest bit set.
    split at member
    case isTrue =>
      simp only [List.mem_cons, List.not_mem_nil, or_false] at member
      rcases member with exact | exact <;>
        exact absurd ascii (not_ascii_of_eq exact (by omega) (by omega))
    case isFalse =>
      split at member
      all_goals
        simp only [List.mem_cons, List.not_mem_nil, or_false] at member
      case isTrue =>
        rcases member with exact | exact | exact <;>
          exact absurd ascii (not_ascii_of_eq exact (by omega) (by omega))
      case isFalse =>
        rcases member with exact | exact | exact | exact <;>
          exact absurd ascii (not_ascii_of_eq exact (by omega) (by omega))

theorem mem_ofText {text : String} {byte : UInt8}
    (member : byte ∈ ofText text) (ascii : byte.toNat < 128) :
    ∃ c ∈ text.toList, c.toNat = byte.toNat := by
  rw [ofText_eq_flatMap] at member
  obtain ⟨c, charMember, byteMember⟩ := List.mem_flatMap.mp member
  exact ⟨c, charMember, mem_utf8EncodeChar byteMember ascii⟩

end Ebms.Bytes
