import Ebms.Proofs.Certificate
import Ebms.Proofs.Sealing
import Ebms.Sealing.Standard

/-! # The standard sealer decrypts what it encrypts

Counter mode changes each block by the encryption of a counter that is as long as a block, so
that doing it twice gives back the message, and the tag is computed alike on both sides.  For
that the blocks have to have their length: the keys of the rounds are whole blocks because a
key made of a password has thirty-two bytes. -/

set_option autoImplicit false

namespace Ebms

namespace Aes

theorem length_xor (a b : Bytes) : (xor a b).length = min a.length b.length :=
  List.length_zipWith

theorem xor_xor {a b : Bytes} (covered : a.length ≤ b.length) : xor (xor a b) b = a := by
  induction a generalizing b with
  | nil => rfl
  | cons x a inductionHypothesis =>
      cases b with
      | nil => cases covered
      | cons y b =>
          have rest := inductionHypothesis (Nat.le_of_succ_le_succ covered)
          simp only [xor] at rest ⊢
          rw [List.zipWith_cons_cons, List.zipWith_cons_cons, rest, UInt8.xor_assoc,
            UInt8.xor_self, UInt8.xor_zero]

/-! ## Pieces -/

@[simp] theorem piecesOf_nil (size count : Nat) : piecesOf size [] count = [] := by
  cases count <;> rfl

theorem piecesOf_succ {size : Nat} {bytes : Bytes} (nonempty : bytes ≠ []) (count : Nat) :
    piecesOf size bytes (count + 1) =
      bytes.take size :: piecesOf size (bytes.drop size) count := by
  rw [piecesOf, if_neg (by simpa using nonempty)]

theorem piecesOf_full {size : Nat} (positive : 0 < size) (count : Nat) {bytes : Bytes}
    (full : bytes.length = size * count) :
    (piecesOf size bytes count).length = count ∧
      ∀ piece ∈ piecesOf size bytes count, piece.length = size := by
  induction count generalizing bytes with
  | zero => simp [piecesOf]
  | succ count inductionHypothesis =>
      have length : size ≤ bytes.length := by rw [full, Nat.mul_succ]; omega
      have nonempty : bytes ≠ [] := List.ne_nil_of_length_pos (Nat.lt_of_lt_of_le positive length)
      have remaining : (bytes.drop size).length = size * count := by
        rw [List.length_drop, full, Nat.mul_succ, Nat.add_sub_cancel]
      have rest := inductionHypothesis remaining
      rw [piecesOf_succ nonempty]
      refine ⟨by rw [List.length_cons, rest.1], fun piece member => ?_⟩
      rcases List.mem_cons.mp member with rfl | later
      · rw [List.length_take, Nat.min_eq_left length]
      · exact rest.2 piece later

/-! ## Blocks -/

theorem length_shiftRows (block : Bytes) : (shiftRows block).length = 16 := by
  rw [shiftRows, List.length_map]
  rfl

theorem length_rounds {keys : List Bytes} (nonempty : keys ≠ [])
    (whole : ∀ key ∈ keys, key.length = 16) (block : Bytes) : (rounds block keys).length = 16 := by
  induction keys generalizing block with
  | nil => exact absurd rfl nonempty
  | cons key keys inductionHypothesis =>
      cases keys with
      | nil =>
          rw [rounds, length_xor, length_shiftRows, whole key List.mem_cons_self]
          rfl
      | cons next keys =>
          rw [rounds]
          · exact inductionHypothesis (List.cons_ne_nil _ _)
              (fun other member => whole other (List.mem_cons_of_mem _ member)) _
          · simp

theorem length_encryptBlock {keys : List Bytes} (several : 1 < keys.length)
    (whole : ∀ key ∈ keys, key.length = 16) (block : Bytes) :
    (encryptBlock keys block).length = 16 := by
  obtain ⟨first, second, keys, rfl⟩ : ∃ first second rest, keys = first :: second :: rest := by
    match keys, several with
    | first :: second :: rest, _ => exact ⟨first, second, rest, rfl⟩
  exact length_rounds (List.cons_ne_nil _ _)
    (fun key member => whole key (List.mem_cons_of_mem _ member)) _

/-! ## Keys -/

def AreColumns (columns : Array Bytes) : Prop :=
  8 ≤ columns.size ∧ ∀ column ∈ columns, column.length = 4

theorem AreColumns.length_getD {columns : Array Bytes} (are : AreColumns columns) {index : Nat}
    (inside : index < columns.size) : (columns.getD index []).length = 4 := by
  rw [Array.getD, dif_pos inside]
  exact are.2 _ (Array.getElem_mem inside)

theorem AreColumns.length_nextColumn {columns : Array Bytes} (are : AreColumns columns) :
    (nextColumn columns).length = 4 := by
  have enough := are.1
  have before : (columns.getD (columns.size - 1) []).length = 4 := are.length_getD (by omega)
  have earlier : (columns.getD (columns.size - 8) []).length = 4 := are.length_getD (by omega)
  simp only [nextColumn, length_xor, earlier]
  generalize columns.getD (columns.size - 1) [] = previous at before ⊢
  split
  · simp [length_xor, before]
  · split <;> simp [before]

theorem AreColumns.push {columns : Array Bytes} (are : AreColumns columns) :
    AreColumns (columns.push (nextColumn columns)) := by
  refine ⟨by rw [Array.size_push]; exact Nat.le_succ_of_le are.1, fun column member => ?_⟩
  rcases Array.mem_push.mp member with old | rfl
  · exact are.2 column old
  · exact are.length_nextColumn

theorem AreColumns.expandFrom {columns : Array Bytes} (are : AreColumns columns) (count : Nat) :
    AreColumns (expandFrom columns count) ∧
      (Aes.expandFrom columns count).size = columns.size + count := by
  induction count generalizing columns with
  | zero => exact ⟨are, rfl⟩
  | succ count inductionHypothesis =>
      obtain ⟨columnsAfter, size⟩ := inductionHypothesis are.push
      refine ⟨columnsAfter, ?_⟩
      rw [Aes.expandFrom, size, Array.size_push]
      omega

/-- A key of thirty-two bytes gives fifteen whole blocks for the rounds. -/
theorem expand_whole {key : Bytes} (length : key.length = 32) :
    (expand key).length = 15 ∧ ∀ roundKey ∈ expand key, roundKey.length = 16 := by
  obtain ⟨count, words⟩ := piecesOf_full (show 0 < 4 by decide) 8 length
  have start : AreColumns (piecesOf 4 key 8).toArray :=
    ⟨by simp [count], fun column member => words column (by simpa using member)⟩
  obtain ⟨⟨-, columns⟩, size⟩ := start.expandFrom 52
  refine piecesOf_full (by decide) 15 ?_
  have lengths : (expandFrom (piecesOf 4 key 8).toArray 52).toList.map List.length =
      List.replicate 60 4 := by
    refine List.eq_replicate_iff.mpr ⟨by simp [size, count], fun length member => ?_⟩
    obtain ⟨column, inColumns, rfl⟩ := List.mem_map.mp member
    exact columns column (Array.mem_toList_iff.mp inColumns)
  rw [List.length_flatten, lengths]
  rfl

end Aes

namespace Gcm

/-! ## Counter mode -/

theorem length_encryptBlock_expand {key : Bytes} (length : key.length = 32) (block : Bytes) :
    (Aes.encryptBlock (Aes.expand key) block).length = 16 := by
  obtain ⟨count, whole⟩ := Aes.expand_whole length
  exact Aes.length_encryptBlock (by rw [count]; decide) whole block

/-- The bytes changed by the encryptions of the counters from a number on. -/
def maskFrom (keys : List Bytes) (nonce : Bytes) (number : Nat) (bytes : Bytes) (count : Nat) :
    Bytes :=
  ((Aes.piecesOf 16 bytes count).zipIdx number).flatMap fun (block, number) =>
    Aes.xor block (Aes.encryptBlock keys (counter nonce number))

section Mask

variable {keys : List Bytes} {nonce : Bytes}

@[simp] theorem maskFrom_nil (number count : Nat) : maskFrom keys nonce number [] count = [] := by
  simp [maskFrom]

theorem maskFrom_succ {bytes : Bytes} (nonempty : bytes ≠ []) (number count : Nat) :
    maskFrom keys nonce number bytes (count + 1) =
      Aes.xor (bytes.take 16) (Aes.encryptBlock keys (counter nonce number)) ++
        maskFrom keys nonce (number + 1) (bytes.drop 16) count := by
  rw [maskFrom, Aes.piecesOf_succ nonempty, List.zipIdx_cons, List.flatMap_cons]
  rfl

theorem length_drop_le {bytes : Bytes} {count : Nat} (nonempty : bytes ≠ [])
    (enough : bytes.length ≤ count + 1) : (bytes.drop 16).length ≤ count := by
  have positive := List.length_pos_iff.mpr nonempty
  rw [List.length_drop]
  omega

variable (blocks : ∀ block, (Aes.encryptBlock keys block).length = 16)

include blocks in
theorem length_xor_encryptBlock (bytes block : Bytes) :
    (Aes.xor (bytes.take 16) (Aes.encryptBlock keys block)).length = min 16 bytes.length := by
  rw [Aes.length_xor, blocks, List.length_take]
  omega

variable (nonce) in
include blocks in
theorem take_drop_masked (number : Nat) {bytes masked : Bytes}
    (length : masked.length = (bytes.drop 16).length) :
    let piece := Aes.xor (bytes.take 16) (Aes.encryptBlock keys (counter nonce number))
    (piece ++ masked).take 16 = piece ∧ (piece ++ masked).drop 16 = masked := by
  intro piece
  have pieceLength : piece.length = min 16 bytes.length :=
    length_xor_encryptBlock blocks bytes (counter nonce number)
  rw [List.length_drop] at length
  by_cases full : 16 ≤ bytes.length
  · rw [Nat.min_eq_left full] at pieceLength
    exact ⟨List.take_left' pieceLength, List.drop_left' pieceLength⟩
  · obtain rfl : masked = [] := List.length_eq_zero_iff.mp (by omega)
    rw [List.append_nil]
    exact ⟨List.take_of_length_le (by omega), List.drop_of_length_le (by omega)⟩

variable (nonce) in
include blocks in
theorem length_maskFrom (number : Nat) {bytes : Bytes} {count : Nat}
    (enough : bytes.length ≤ count) :
    (maskFrom keys nonce number bytes count).length = bytes.length := by
  induction count generalizing number bytes with
  | zero =>
      rw [List.length_eq_zero_iff.mp (Nat.le_zero.mp enough), maskFrom_nil]
  | succ count inductionHypothesis =>
      by_cases nonempty : bytes = []
      · rw [nonempty, maskFrom_nil]
      · rw [maskFrom_succ nonempty, List.length_append, length_xor_encryptBlock blocks,
          inductionHypothesis (number + 1) (length_drop_le nonempty enough), List.length_drop]
        omega

include blocks in
/-- Masking twice gives back the bytes, piece by piece. -/
theorem maskFrom_maskFrom (number : Nat) {bytes : Bytes} {count again : Nat}
    (enough : bytes.length ≤ count) (enoughAgain : bytes.length ≤ again) :
    maskFrom keys nonce number (maskFrom keys nonce number bytes count) again = bytes := by
  -- The second run has its own bound, since it is masked bytes that it counts.
  induction count generalizing number bytes again with
  | zero =>
      rw [List.length_eq_zero_iff.mp (Nat.le_zero.mp enough), maskFrom_nil, maskFrom_nil]
  | succ count inductionHypothesis =>
      by_cases nonempty : bytes = []
      · rw [nonempty, maskFrom_nil, maskFrom_nil]
      · have positive := List.length_pos_iff.mpr nonempty
        obtain ⟨again, rfl⟩ := Nat.exists_eq_succ_of_ne_zero (n := again) (by omega)
        have remaining := length_drop_le nonempty enough
        have rest := inductionHypothesis (number + 1) remaining
          (length_drop_le nonempty enoughAgain)
        have cut := take_drop_masked nonce blocks number
          (length_maskFrom nonce blocks (number + 1) remaining)
        have covered : (bytes.take 16).length ≤
            (Aes.encryptBlock keys (counter nonce number)).length := by
          rw [blocks, List.length_take]
          exact Nat.min_le_left ..
        rw [maskFrom_succ nonempty, maskFrom_succ, cut.1, cut.2, rest, Aes.xor_xor covered,
          List.take_append_drop]
        refine List.append_ne_nil_of_left_ne_nil (List.ne_nil_of_length_pos ?_) _
        rw [length_xor_encryptBlock blocks]
        omega

end Mask

variable {key : Bytes} (length : key.length = 32) (nonce : Bytes)

include length in
theorem mask_mask (bytes : Bytes) :
    mask (Aes.expand key) nonce (mask (Aes.expand key) nonce bytes) = bytes := by
  have blocks := length_encryptBlock_expand length
  have masked : mask (Aes.expand key) nonce bytes =
      maskFrom (Aes.expand key) nonce 2 bytes bytes.length := rfl
  have twice : mask (Aes.expand key) nonce (mask (Aes.expand key) nonce bytes) =
      maskFrom (Aes.expand key) nonce 2 (mask (Aes.expand key) nonce bytes)
        (mask (Aes.expand key) nonce bytes).length := rfl
  rw [twice, masked, length_maskFrom nonce blocks 2 (Nat.le_refl _),
    maskFrom_maskFrom blocks 2 (Nat.le_refl _) (Nat.le_refl _)]

include length in
theorem length_tag (bytes : Bytes) : (tag (Aes.expand key) nonce bytes).length = tagLength := by
  rw [tag, Aes.length_xor, length_encryptBlock_expand length, blockOf, List.length_reverse,
    Bytes.length_ofNatLittleEndian]
  rfl

include length in
theorem decrypt_encrypt (plain : Bytes) :
    decrypt key nonce (encrypt key nonce plain) = some plain := by
  have tagged := length_tag length nonce (mask (Aes.expand key) nonce plain)
  rw [decrypt, encrypt, List.length_append, tagged, if_neg (by omega), Nat.add_sub_cancel]
  simp only [List.take_left', List.drop_left', if_pos, mask_mask length]

include length in
theorem decrypt_eq_some_iff {plain box : Bytes} :
    decrypt key nonce box = some plain ↔ encrypt key nonce plain = box := by
  constructor
  · intro decrypted
    by_cases short : box.length < tagLength
    · rw [decrypt, if_pos short] at decrypted
      cases decrypted
    · rw [decrypt, if_neg short] at decrypted
      dsimp only at decrypted
      split at decrypted
      · rename_i genuine
        obtain rfl := Option.some.inj decrypted
        dsimp only [encrypt]
        rw [mask_mask length, genuine, List.take_append_drop]
      · cases decrypted
  · rintro rfl
    exact decrypt_encrypt length nonce plain

end Gcm

/-! ## Derived keys -/

theorem Blake2b.length_digest {size : Nat} (small : size ≤ 64) (message : Bytes) :
    (digest size message).length = size := by
  simp [digest, wordBytes, Bytes.length_ofNatLittleEndian]
  omega

theorem Argon2.length_derive (password salt : Bytes) :
    (derive .standard password salt).length = 32 := by
  have short : Cost.standard.keyLength ≤ 64 := by decide
  rw [derive, stretch, if_pos short, Blake2b.length_digest short]
  rfl

/-- Data that is encrypted with a key made of a password decrypts with that key. -/
theorem Sealer.decrypts_standard : Sealer.standard.Decrypts where
  tagged password salt nonce data := by
    have length := Argon2.length_derive (Bytes.ofText password) salt
    simp only [standard, Gcm.encrypt, List.length_append, Gcm.length_tag length]
    exact Nat.le_add_left ..
  opens password salt nonce data :=
    Gcm.decrypt_encrypt (Argon2.length_derive (Bytes.ofText password) salt) nonce data

end Ebms
