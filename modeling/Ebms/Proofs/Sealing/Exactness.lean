import Ebms.Proofs.Sealing.Standard
import Ebms.Sealing.Unsealing

/-! # Containers are exact

A password opens just the containers that were locked with it, and gives the data that was
locked, whatever else is tried on it.  What does not have the layout of a container is
refused before a key is made of the password, and nothing is ever read beyond its end.

Of the encryption no more is relied on than that decryption is its inverse and that it
leaves a tag.  The standard sealer has both. -/

set_option autoImplicit false

namespace Ebms

namespace Sealer

/-- What is relied on of the encryption: with a key made of a password and with a nonce,
decryption is the inverse of encryption, and encrypted data has a tag. -/
structure IsInvertible (s : Sealer) : Prop where
  tagged : ∀ (password : String) (draw : SealDraw) (data : Bytes), sealTagLength ≤
    (s.encrypt (s.deriveKey (Bytes.ofText password) draw.salt) draw.nonce data).length
  inverse : ∀ (password : String) (draw : SealDraw) (data encrypted : Bytes),
    s.decrypt (s.deriveKey (Bytes.ofText password) draw.salt) draw.nonce encrypted = some data ↔
      s.encrypt (s.deriveKey (Bytes.ofText password) draw.salt) draw.nonce data = encrypted

/-- Bytes with the layout of a container: long enough for its header and a tag, and with
its mark and its version. -/
structure IsContainer (bytes : Bytes) : Prop where
  length : sealHeaderLength + sealTagLength ≤ bytes.length
  mark : bytes.take 8 = sealMark
  version : bytes[8]? = some sealVersion

end Sealer

/-! ## Single steps -/

namespace Unsealing

variable {α β : Type} {bytes : Bytes}

theorem runFrom_throw (error : KeyringError) (made : List MadeKey) :
    (throw error : Unsealing α).runFrom made = some (.error error, made) := rfl

theorem runFrom_slice_bind {start stop : Nat} (ordered : start ≤ stop)
    (inside : stop ≤ bytes.length) (next : Bytes → Unsealing β) (made : List MadeKey) :
    (slice bytes start stop >>= next).runFrom made =
      (next ((bytes.drop start).take (stop - start))).runFrom made := by
  have taken : bytes.slice? start stop = some ((bytes.drop start).take (stop - start)) :=
    if_pos ⟨ordered, inside⟩
  rw [slice, taken]
  rfl

theorem runFrom_byteAt_bind {place : Nat} {byte : UInt8} (here : bytes[place]? = some byte)
    (next : UInt8 → Unsealing β) (made : List MadeKey) :
    (byteAt bytes place >>= next).runFrom made = (next byte).runFrom made := by
  rw [byteAt, here]
  rfl

theorem runFrom_makeKey_bind (s : Sealer) (password : String) (salt : Bytes)
    (next : Bytes → Unsealing β) (made : List MadeKey) :
    (makeKey s password salt >>= next).runFrom made =
      (next (s.deriveKey (Bytes.ofText password) salt)).runFrom
        (made ++ [{ password := Bytes.ofText password, salt }]) := rfl

end Unsealing

namespace Sealer

variable {s : Sealer} {password : String} {bytes data : Bytes}

/-! ## Layouts -/

theorem isContainer_container (draw : SealDraw) {encrypted : Bytes}
    (tagged : sealTagLength ≤ encrypted.length) : IsContainer (container draw encrypted) where
  length := by
    rw [length_container]
    exact Nat.add_le_add_left tagged _
  mark := List.take_left' length_sealMark
  version := by
    rw [container, List.getElem?_append_right (Nat.le_of_eq length_sealMark), length_sealMark]
    rfl

/-- What has the layout of a container is one, of the salt and the nonce at their places. -/
theorem IsContainer.exists_eq (layout : IsContainer bytes) :
    ∃ draw encrypted, sealTagLength ≤ encrypted.length ∧ bytes = container draw encrypted := by
  have length := layout.length
  have header : sealHeaderLength = 9 + (saltLength + nonceLength) := rfl
  rw [header] at length
  have salt : ((bytes.drop 9).take saltLength).length = saltLength := by
    rw [List.length_take, List.length_drop]
    omega
  have nonce : ((bytes.drop (9 + saltLength)).take nonceLength).length = nonceLength := by
    rw [List.length_take, List.length_drop]
    omega
  refine ⟨⟨_, _, salt, nonce⟩, bytes.drop sealHeaderLength, ?_, ?_⟩
  · rw [List.length_drop, header]
    omega
  · have version : bytes.drop 8 = sealVersion :: bytes.drop 9 :=
      List.drop_eq_getElem?_toList_append.trans (by rw [layout.version]; rfl)
    have last : bytes.drop sealHeaderLength = (bytes.drop (9 + saltLength)).drop nonceLength := by
      rw [List.drop_drop, header, Nat.add_assoc]
    have rest : bytes.drop 9 = (bytes.drop 9).take saltLength ++
        ((bytes.drop (9 + saltLength)).take nonceLength ++ bytes.drop sealHeaderLength) := by
      rw [last, List.take_append_drop, ← List.drop_drop, List.take_append_drop]
    calc bytes = bytes.take 8 ++ bytes.drop 8 := (List.take_append_drop 8 bytes).symm
      _ = sealMark ++ sealVersion :: bytes.drop 9 := by rw [layout.mark, version]
      _ = container ⟨_, _, salt, nonce⟩ (bytes.drop sealHeaderLength) := by
          rw [container, List.append_assoc, ← rest]

theorem getElem?_version (long : ¬ bytes.length < 9) : bytes[8]? = some (bytes.getD 8 0) := by
  rw [List.getD_eq_getElem?_getD, List.getElem?_eq_getElem (by omega : 8 < bytes.length),
    Option.getD_some]

theorem isContainer_of_sealFault? (unflawed : sealFault? bytes = none) : IsContainer bytes := by
  unfold sealFault? at unflawed
  by_cases short : bytes.length < 9
  · rw [if_pos short] at unflawed
    cases unflawed
  · rw [if_neg short] at unflawed
    by_cases mark : bytes.take 8 ≠ sealMark
    · rw [if_pos mark] at unflawed
      cases unflawed
    · rw [if_neg mark] at unflawed
      by_cases version : bytes.getD 8 0 ≠ sealVersion
      · rw [if_pos version] at unflawed
        cases unflawed
      · rw [if_neg version] at unflawed
        by_cases truncated : bytes.length < sealHeaderLength + sealTagLength
        · rw [if_pos truncated] at unflawed
          cases unflawed
        · rw [Decidable.not_not] at mark version
          exact ⟨Nat.le_of_not_lt truncated, mark, by rw [getElem?_version short, version]⟩

theorem sealFault?_eq_none_iff : sealFault? bytes = none ↔ IsContainer bytes := by
  refine ⟨isContainer_of_sealFault?, fun layout => ?_⟩
  obtain ⟨draw, encrypted, tagged, rfl⟩ := layout.exists_eq
  exact sealFault?_container draw encrypted tagged

/-! ## Opening -/

/-- What a password makes of a container is what decryption makes of what is in it. -/
theorem unlock_container (s : Sealer) (password : String) (draw : SealDraw) {encrypted : Bytes}
    (tagged : sealTagLength ≤ encrypted.length) :
    s.unlock password (container draw encrypted) =
      (s.decrypt (s.deriveKey (Bytes.ofText password) draw.salt) draw.nonce encrypted).elim
        (.error .wrongPassword) .ok := by
  rw [unlock, sealFault?_container _ _ tagged]
  simp only [salt_container, nonce_container, encrypted_container]
  cases s.decrypt (s.deriveKey (Bytes.ofText password) draw.salt) draw.nonce encrypted <;> rfl

open Unsealing

theorem runFrom_takeApart_of_fault (s : Sealer) (password : String) {fault : SealFault}
    (flawed : sealFault? bytes = some fault) :
    (s.takeApart password bytes).runFrom [] = some (.error (.sealedData fault), []) := by
  unfold sealFault? at flawed
  unfold takeApart
  by_cases short : bytes.length < 9
  · rw [if_pos short] at flawed ⊢
    rw [runFrom_throw, Option.some.inj flawed]
  · rw [if_neg short] at flawed ⊢
    rw [runFrom_slice_bind (by decide) (by omega), Nat.sub_zero, List.drop_zero]
    by_cases mark : bytes.take 8 ≠ sealMark
    · rw [if_pos mark] at flawed ⊢
      rw [runFrom_throw, Option.some.inj flawed]
    · rw [if_neg mark] at flawed ⊢
      rw [runFrom_byteAt_bind (getElem?_version short)]
      by_cases version : bytes.getD 8 0 ≠ sealVersion
      · rw [if_pos version] at flawed ⊢
        rw [runFrom_throw, Option.some.inj flawed]
      · rw [if_neg version] at flawed ⊢
        by_cases truncated : bytes.length < sealHeaderLength + sealTagLength
        · rw [if_pos truncated] at flawed ⊢
          rw [runFrom_throw, Option.some.inj flawed]
        · rw [if_neg truncated] at flawed
          cases flawed

/-- A container is taken apart inside its bounds, and a single key is made for it. -/
theorem runFrom_takeApart_container (s : Sealer) (password : String) (draw : SealDraw)
    {encrypted : Bytes} (tagged : sealTagLength ≤ encrypted.length) :
    (s.takeApart password (container draw encrypted)).runFrom [] =
      some (s.unlock password (container draw encrypted),
        [{ password := Bytes.ofText password, salt := draw.salt }]) := by
  have layout := isContainer_container draw tagged
  have long := layout.length
  have header : sealHeaderLength = 37 := rfl
  have saltWidth : saltLength = 16 := rfl
  have nonceWidth : sealHeaderLength - (9 + saltLength) = nonceLength := rfl
  have salt := salt_container draw encrypted
  have nonce := nonce_container draw encrypted
  have rest := encrypted_container draw encrypted
  rw [unlock_container s password draw tagged]
  generalize container draw encrypted = bytes at *
  have all : (bytes.drop sealHeaderLength).take (bytes.length - sealHeaderLength) = encrypted := by
    rw [← List.length_drop, List.take_length, rest]
  rw [takeApart, if_neg (by omega), runFrom_slice_bind (by decide) (by omega), Nat.sub_zero,
    List.drop_zero, if_neg (not_not_intro layout.mark), runFrom_byteAt_bind layout.version,
    if_neg (not_not_intro rfl), if_neg (Nat.not_lt.mpr long),
    runFrom_slice_bind (Nat.le_add_right _ _) (by omega), Nat.add_sub_cancel_left, salt,
    runFrom_slice_bind (by decide) (by omega), nonceWidth, nonce,
    runFrom_slice_bind (by omega) (Nat.le_refl _), all, runFrom_makeKey_bind]
  cases s.decrypt (s.deriveKey (Bytes.ofText password) draw.salt) draw.nonce encrypted <;> rfl

/-! ## The standard sealer -/

theorem isInvertible_standard : standard.IsInvertible where
  tagged password draw data := decrypts_standard.tagged password draw.salt draw.nonce data
  inverse password draw _ _ :=
    Gcm.decrypt_eq_some_iff (Argon2.length_derive (Bytes.ofText password) draw.salt) draw.nonce

/-! ## Exactness -/

variable {draw : SealDraw}

theorem lock_eq_container (s : Sealer) (draw : SealDraw) (password : String) (data : Bytes) :
    s.lock draw password data =
      container draw (s.encrypt (s.deriveKey (Bytes.ofText password) draw.salt) draw.nonce data) :=
  rfl

theorem unlock_of_fault (s : Sealer) (password : String) {fault : SealFault}
    (flawed : sealFault? bytes = some fault) :
    s.unlock password bytes = .error (.sealedData fault) := by
  rw [unlock, flawed]

/-- A container opens to data exactly if that is what encrypts to what is in it. -/
theorem IsInvertible.unlock_container_eq_ok_iff (invertible : s.IsInvertible) {encrypted : Bytes}
    (tagged : sealTagLength ≤ encrypted.length) :
    s.unlock password (container draw encrypted) = .ok data ↔
      s.encrypt (s.deriveKey (Bytes.ofText password) draw.salt) draw.nonce data = encrypted := by
  rw [unlock_container s password draw tagged, ← invertible.inverse]
  cases s.decrypt (s.deriveKey (Bytes.ofText password) draw.salt) draw.nonce encrypted <;> simp

theorem eq_wrongPassword_of_unlock_container {encrypted : Bytes} {error : KeyringError}
    (tagged : sealTagLength ≤ encrypted.length)
    (failed : s.unlock password (container draw encrypted) = .error error) :
    error = .wrongPassword := by
  rw [unlock_container s password draw tagged] at failed
  cases decrypted : s.decrypt (s.deriveKey (Bytes.ofText password) draw.salt) draw.nonce
      encrypted with
  | none =>
      rw [decrypted] at failed
      exact (Except.error.inj failed).symm
  | some data =>
      rw [decrypted] at failed
      cases failed

theorem IsInvertible.unlock_eq_ok_iff (invertible : s.IsInvertible) :
    s.unlock password bytes = .ok data ↔ ∃ draw, bytes = s.lock draw password data := by
  constructor
  · intro opened
    cases flaw : sealFault? bytes with
    | some fault =>
        rw [unlock_of_fault s password flaw] at opened
        cases opened
    | none =>
        obtain ⟨draw, encrypted, tagged, rfl⟩ := (isContainer_of_sealFault? flaw).exists_eq
        have encrypts := (invertible.unlock_container_eq_ok_iff tagged).mp opened
        exact ⟨draw, by rw [lock_eq_container, encrypts]⟩
  · rintro ⟨draw, rfl⟩
    rw [lock_eq_container]
    exact (invertible.unlock_container_eq_ok_iff (invertible.tagged password draw data)).mpr rfl

/-- A password opens exactly the bytes that lock data under it, and gives that data; anything
else fails.  Bytes are never read beyond their end, and what is too short or has another mark
or version is refused before a key is made. -/
theorem unlock_isExact (invertible : s.IsInvertible) (password : String) (bytes : Bytes) :
    ∃ made, (s.takeApart password bytes).runFrom [] = some (s.unlock password bytes, made) ∧
      (∀ data, s.unlock password bytes = .ok data ↔ ∃ draw, bytes = s.lock draw password data) ∧
      ((∀ draw data, bytes ≠ s.lock draw password data) →
        ∃ error, s.unlock password bytes = .error error) ∧
      (bytes.length < 53 ∨ bytes.take 8 ≠ sealMark ∨ bytes[8]? ≠ some sealVersion →
        (∃ fault, s.unlock password bytes = .error (.sealedData fault)) ∧ made = []) ∧
      (IsContainer bytes →
        (∀ error, s.unlock password bytes = .error error → error = .wrongPassword) ∧
          ∃ salt, made = [{ password := Bytes.ofText password, salt }]) := by
  have misshapen : bytes.length < 53 ∨ bytes.take 8 ≠ sealMark ∨ bytes[8]? ≠ some sealVersion →
      ¬ IsContainer bytes := by
    rintro (short | mark | version) layout
    · exact Nat.not_le.mpr short layout.length
    · exact mark layout.mark
    · exact version layout.version
  have opens (data : Bytes) :
      s.unlock password bytes = .ok data ↔ ∃ draw, bytes = s.lock draw password data :=
    invertible.unlock_eq_ok_iff
  have fails : (∀ draw data, bytes ≠ s.lock draw password data) →
      ∃ error, s.unlock password bytes = .error error := by
    intro foreign
    cases outcome : s.unlock password bytes with
    | error error => exact ⟨error, rfl⟩
    | ok data =>
        obtain ⟨draw, locked⟩ := (opens data).mp outcome
        exact absurd locked (foreign draw data)
  cases flaw : sealFault? bytes with
  | some fault =>
      have unlocked := unlock_of_fault s password flaw
      refine ⟨[], ?_, opens, fails, fun _ => ⟨⟨fault, unlocked⟩, rfl⟩, fun layout => ?_⟩
      · rw [runFrom_takeApart_of_fault s password flaw, unlocked]
      · rw [sealFault?_eq_none_iff.mpr layout] at flaw
        cases flaw
  | none =>
      have layout := isContainer_of_sealFault? flaw
      obtain ⟨draw, encrypted, tagged, rfl⟩ := layout.exists_eq
      refine ⟨_, runFrom_takeApart_container s password draw tagged, opens, fails,
        fun wrong => absurd layout (misshapen wrong), fun _ => ⟨fun error failed => ?_, _, rfl⟩⟩
      exact eq_wrongPassword_of_unlock_container tagged failed

/-- The standard sealer opens what it has locked.  A container that ends in its header is
refused at once. -/
theorem unlock_isExact_standard :
    let locked := standard.lock default "pw" [1, 2, 3]
    let cut := sealMark ++ sealVersion :: List.replicate 28 0
    standard.IsInvertible ∧
      (∃ made, (standard.takeApart "pw" locked).runFrom [] = some (.ok [1, 2, 3], made)) ∧
      ∃ fault, (standard.takeApart "pw" cut).runFrom [] = some (.error (.sealedData fault), []) := by
  intro locked cut
  obtain ⟨made, ran, opens, -⟩ := unlock_isExact isInvertible_standard "pw" locked
  obtain ⟨none, refused, -, -, misshapen, -⟩ := unlock_isExact isInvertible_standard "pw" cut
  obtain ⟨⟨fault, unlocked⟩, rfl⟩ := misshapen (.inl (by decide))
  rw [(opens [1, 2, 3]).mpr ⟨default, rfl⟩] at ran
  rw [unlocked] at refused
  exact ⟨isInvertible_standard, ⟨made, ran⟩, fault, refused⟩

end Sealer

end Ebms
