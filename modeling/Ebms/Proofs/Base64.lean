import Ebms.Base64
import Ebms.Proofs.Text.Cutting

/-! # Base64 is read as it was written

Reading the written form of a byte string gives the bytes back.  The written
form has no blanks, so that a reader may trim it first. -/

set_option autoImplicit false

namespace Ebms.Base64

theorem value?_symbol : ∀ value < 64, value? (symbol value) = some value := by decide

theorem symbol_ne_padding : ∀ value < 64, symbol value ≠ '=' := by decide

theorem isBlank_symbol : ∀ value < 64, Text.isBlank (symbol value) = false := by decide

theorem decodeChars_group {a b c d : Char} (rest : List Char)
    (third : c ≠ '=') (fourth : d ≠ '=') :
    decodeChars (a :: b :: c :: d :: rest) = (do
      let x ← value? a
      let y ← value? b
      let z ← value? c
      let w ← value? d
      let tail ← decodeChars rest
      some (UInt8.ofNat (x * 4 + y / 16) :: UInt8.ofNat (y % 16 * 16 + z / 4) ::
        UInt8.ofNat (z % 4 * 64 + w) :: tail)) := by
  rw [decodeChars]
  · intro same
    exact absurd same third
  · intro same
    exact absurd same fourth

theorem ofNat_eq_self {value : Nat} {byte : UInt8} (exact : value = byte.toNat) :
    UInt8.ofNat value = byte := by
  rw [exact, UInt8.ofNat_toNat]

theorem decodeChars_encodeChars (bytes : Bytes) :
    decodeChars (encodeChars bytes) = some bytes := by
  induction bytes using encodeChars.induct with
  | case1 => rfl
  | case2 a =>
      have bound : a.toNat < 256 := a.toNat_lt
      have first := value?_symbol (a.toNat / 4) (by omega)
      have second := value?_symbol (a.toNat % 4 * 16) (by omega)
      have unused : a.toNat % 4 * 16 % 16 = 0 := by omega
      have byte : UInt8.ofNat (a.toNat / 4 * 4 + a.toNat % 4 * 16 / 16) = a :=
        ofNat_eq_self (by omega)
      simp only [encodeChars, decodeChars, first, second, Option.bind_eq_bind, Option.bind_some]
      rw [if_pos unused, byte]
  | case3 a b =>
      have boundA : a.toNat < 256 := a.toNat_lt
      have boundB : b.toNat < 256 := b.toNat_lt
      have first := value?_symbol (a.toNat / 4) (by omega)
      have second := value?_symbol (a.toNat % 4 * 16 + b.toNat / 16) (by omega)
      have third := value?_symbol (b.toNat % 16 * 4) (by omega)
      have noPadding := symbol_ne_padding (b.toNat % 16 * 4) (by omega)
      have unused : b.toNat % 16 * 4 % 4 = 0 := by omega
      have byteA :
          UInt8.ofNat (a.toNat / 4 * 4 + (a.toNat % 4 * 16 + b.toNat / 16) / 16) = a :=
        ofNat_eq_self (by omega)
      have byteB :
          UInt8.ofNat ((a.toNat % 4 * 16 + b.toNat / 16) % 16 * 16
            + b.toNat % 16 * 4 / 4) = b :=
        ofNat_eq_self (by omega)
      rw [encodeChars, decodeChars]
      · simp only [first, second, third, Option.bind_eq_bind, Option.bind_some]
        rw [if_pos unused, byteA, byteB]
      · exact noPadding
  | case4 a b c rest inductionHypothesis =>
      have boundA : a.toNat < 256 := a.toNat_lt
      have boundB : b.toNat < 256 := b.toNat_lt
      have boundC : c.toNat < 256 := c.toNat_lt
      have first := value?_symbol (a.toNat / 4) (by omega)
      have second := value?_symbol (a.toNat % 4 * 16 + b.toNat / 16) (by omega)
      have third := value?_symbol (b.toNat % 16 * 4 + c.toNat / 64) (by omega)
      have fourth := value?_symbol (c.toNat % 64) (by omega)
      have byteA :
          UInt8.ofNat (a.toNat / 4 * 4 + (a.toNat % 4 * 16 + b.toNat / 16) / 16) = a :=
        ofNat_eq_self (by omega)
      have byteB :
          UInt8.ofNat ((a.toNat % 4 * 16 + b.toNat / 16) % 16 * 16
            + (b.toNat % 16 * 4 + c.toNat / 64) / 4) = b :=
        ofNat_eq_self (by omega)
      have byteC :
          UInt8.ofNat ((b.toNat % 16 * 4 + c.toNat / 64) % 4 * 64 + c.toNat % 64) = c :=
        ofNat_eq_self (by omega)
      rw [encodeChars, decodeChars_group _
        (symbol_ne_padding _ (by omega)) (symbol_ne_padding _ (by omega))]
      simp only [first, second, third, fourth, inductionHypothesis, Option.bind_eq_bind,
        Option.bind_some]
      rw [byteA, byteB, byteC]

theorem decode?_encode (bytes : Bytes) : decode? (encode bytes) = some bytes := by
  rw [decode?, encode, String.toList_ofList, decodeChars_encodeChars]

theorem isBlank_of_mem_encodeChars {bytes : Bytes} {c : Char}
    (member : c ∈ encodeChars bytes) : Text.isBlank c = false := by
  have padding : Text.isBlank '=' = false := by decide
  induction bytes using encodeChars.induct with
  | case1 => cases member
  | case2 a =>
      have bound : a.toNat < 256 := a.toNat_lt
      simp only [encodeChars, List.mem_cons, List.not_mem_nil, or_false] at member
      rcases member with same | same | same | same <;> rw [same]
      · exact isBlank_symbol _ (by omega)
      · exact isBlank_symbol _ (by omega)
      · exact padding
      · exact padding
  | case3 a b =>
      have boundA : a.toNat < 256 := a.toNat_lt
      have boundB : b.toNat < 256 := b.toNat_lt
      simp only [encodeChars, List.mem_cons, List.not_mem_nil, or_false] at member
      rcases member with same | same | same | same <;> rw [same]
      · exact isBlank_symbol _ (by omega)
      · exact isBlank_symbol _ (by omega)
      · exact isBlank_symbol _ (by omega)
      · exact padding
  | case4 a b c' rest inductionHypothesis =>
      have boundA : a.toNat < 256 := a.toNat_lt
      have boundB : b.toNat < 256 := b.toNat_lt
      have boundC : c'.toNat < 256 := c'.toNat_lt
      simp only [encodeChars, List.mem_cons] at member
      rcases member with same | same | same | same | inRest
      · rw [same]
        exact isBlank_symbol _ (by omega)
      · rw [same]
        exact isBlank_symbol _ (by omega)
      · rw [same]
        exact isBlank_symbol _ (by omega)
      · rw [same]
        exact isBlank_symbol _ (by omega)
      · exact inductionHypothesis inRest

theorem trim_encode (bytes : Bytes) : Text.trim (encode bytes) = encode bytes := by
  apply Text.trim_eq_self
  intro c member
  rw [encode, String.toList_ofList] at member
  exact isBlank_of_mem_encodeChars member

end Ebms.Base64
