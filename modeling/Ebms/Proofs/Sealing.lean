import Ebms.Proofs.Text.Encoding
import Ebms.Sealing.Container

/-! # Sealed containers open

A container has its mark, its version, and the salt and the nonce that were drawn for it
at fixed places, so that unlocking decrypts what locking encrypted, with the key that was
made of the password given.  What comes of that is a matter of the encryption. -/

set_option autoImplicit false

namespace Ebms

/-- What is relied on of the encryption: encrypted data has a tag, and it decrypts to itself
with a key made of the same password. -/
structure Sealer.Decrypts (s : Sealer) : Prop where
  tagged : ∀ password salt nonce data, sealTagLength ≤
    (s.encrypt (s.deriveKey (Bytes.ofText password) salt) nonce data).length
  opens : ∀ password salt nonce data,
    s.decrypt (s.deriveKey (Bytes.ofText password) salt) nonce
      (s.encrypt (s.deriveKey (Bytes.ofText password) salt) nonce data) = some data

/-- Data that was locked under a password does not decrypt with a key made of another one.  No
sealer can do this for all of them, since there are fewer keys than passwords. -/
def Sealer.Refuses (s : Sealer) (draw : SealDraw) (password other : String) (data : Bytes) :
    Prop :=
  s.decrypt (s.deriveKey (Bytes.ofText other) draw.salt) draw.nonce
    (s.encrypt (s.deriveKey (Bytes.ofText password) draw.salt) draw.nonce data) = none

namespace Sealer

/-! ## Containers -/

def container (draw : SealDraw) (encrypted : Bytes) : Bytes :=
  sealMark ++ sealVersion :: (draw.salt ++ draw.nonce ++ encrypted)

section Container

variable (draw : SealDraw) (encrypted : Bytes)

theorem length_sealMark : sealMark.length = 8 := by decide

theorem length_container :
    (container draw encrypted).length = sealHeaderLength + encrypted.length := by
  simp only [container, sealHeaderLength, List.length_append, List.length_cons, length_sealMark,
    draw.salt_length, draw.nonce_length]
  omega

theorem drop_container :
    (container draw encrypted).drop 9 = draw.salt ++ draw.nonce ++ encrypted := by
  have front : container draw encrypted =
      (sealMark ++ [sealVersion]) ++ (draw.salt ++ draw.nonce ++ encrypted) := by
    simp only [container, List.append_assoc, List.singleton_append]
  rw [front]
  exact List.drop_left' (by rw [List.length_append, length_sealMark]; rfl)

theorem salt_container : ((container draw encrypted).drop 9).take saltLength = draw.salt := by
  rw [drop_container, List.append_assoc]
  exact List.take_left' draw.salt_length

theorem nonce_container :
    ((container draw encrypted).drop (9 + saltLength)).take nonceLength = draw.nonce := by
  rw [← List.drop_drop, drop_container, List.append_assoc, List.drop_left' draw.salt_length]
  exact List.take_left' draw.nonce_length

theorem encrypted_container : (container draw encrypted).drop sealHeaderLength = encrypted := by
  have length : (draw.salt ++ draw.nonce).length = saltLength + nonceLength := by
    rw [List.length_append, draw.salt_length, draw.nonce_length]
  have header : sealHeaderLength = 9 + (saltLength + nonceLength) := rfl
  rw [header, ← List.drop_drop, drop_container]
  exact List.drop_left' length

theorem sealFault?_container (tagged : sealTagLength ≤ encrypted.length) :
    sealFault? (container draw encrypted) = none := by
  have length := length_container draw encrypted
  have mark : (container draw encrypted).take 8 = sealMark := List.take_left' length_sealMark
  have version : (container draw encrypted).getD 8 0 = sealVersion := by
    simp [container, length_sealMark]
  unfold sealFault?
  rw [if_neg (by rw [length]; unfold sealHeaderLength; omega), if_neg (by rw [mark]; simp),
    if_neg (by rw [version]; simp), if_neg (by rw [length]; omega)]

end Container

variable {s : Sealer}

theorem unlock_lock_eq (draw : SealDraw) (password other : String) (data : Bytes)
    (tagged : sealTagLength ≤
      (s.encrypt (s.deriveKey (Bytes.ofText password) draw.salt) draw.nonce data).length) :
    s.unlock other (s.lock draw password data) =
      (s.decrypt (s.deriveKey (Bytes.ofText other) draw.salt) draw.nonce
        (s.encrypt (s.deriveKey (Bytes.ofText password) draw.salt) draw.nonce data)).elim
        (.error .wrongPassword) .ok := by
  have locked : s.lock draw password data =
      container draw (s.encrypt (s.deriveKey (Bytes.ofText password) draw.salt) draw.nonce data) :=
    rfl
  rw [locked, unlock, sealFault?_container _ _ tagged]
  simp only [salt_container, nonce_container, encrypted_container]
  cases s.decrypt (s.deriveKey (Bytes.ofText other) draw.salt) draw.nonce
    (s.encrypt (s.deriveKey (Bytes.ofText password) draw.salt) draw.nonce data) <;> rfl

theorem Decrypts.unlock_lock (decrypts : s.Decrypts) (draw : SealDraw) (password : String)
    (data : Bytes) : s.unlock password (s.lock draw password data) = .ok data := by
  rw [unlock_lock_eq draw password password data (decrypts.tagged _ _ _ _), decrypts.opens,
    Option.elim_some]

theorem Decrypts.unlock_lock_of_refuses (decrypts : s.Decrypts) {draw : SealDraw}
    {password other : String} {data : Bytes} (refuses : s.Refuses draw password other data) :
    s.unlock other (s.lock draw password data) = .error .wrongPassword := by
  rw [unlock_lock_eq draw password other data (decrypts.tagged _ _ _ _), refuses, Option.elim_none]

end Sealer

end Ebms
