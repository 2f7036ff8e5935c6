import Mathlib.Data.List.Basic
import PeerLink.Crypto.Standard

/-!
# The suite in use opens what it has sealed

Combining a text with the key stream twice gives the text back, block by block, so that what the
cipher has sealed opens (`Suite.opens_standard`), and what opens is what the cipher makes of its
text (`Aead.eq_encrypt_of_decrypt?`). That the owners of two key pairs agree on the same secret is a
fact about their curve; here it is evaluated for the keys of the examples.
-/

namespace PeerLink

/-! ## The key stream -/

namespace ChaCha20

/-- Octets that are combined twice with the same ones are as before. -/
theorem zipWith_xor_xor {text stream : Bytes} (short : text.length ≤ stream.length) :
    List.zipWith (· ^^^ ·) (List.zipWith (· ^^^ ·) text stream) stream = text := by
  induction text generalizing stream with
  | nil => rfl
  | cons a text ih =>
    cases stream with
    | nil => simp at short
    | cons b stream =>
      have same : a ^^^ b ^^^ b = a := by
        rw [UInt8.xor_assoc, UInt8.xor_self, UInt8.xor_zero]
      have short' : text.length ≤ stream.length := Nat.le_of_succ_le_succ short
      rw [List.zipWith_cons_cons, List.zipWith_cons_cons, same, ih short']

variable (key nonce : List UInt32)

/-- What was combined before stands in front. -/
theorem applyFrom_done (counter : UInt32) (done text : Bytes) :
    applyFrom key nonce counter done text =
      done.reverse ++ applyFrom key nonce counter [] text := by
  match text with
  | [] => simp [applyFrom]
  | b :: rest =>
    rw [applyFrom, applyFrom_done, applyFrom, applyFrom_done (counter + 1) (List.reverseAux _ [])]
    simp only [List.reverseAux_eq, List.reverse_append, List.reverse_reverse, List.append_nil,
      List.append_assoc]
termination_by text.length

/-- A text is combined block by block. -/
theorem applyFrom_block (counter : UInt32) (text : Bytes) :
    applyFrom key nonce counter [] text =
      List.zipWith (· ^^^ ·) (text.take 64) (block key nonce counter) ++
        applyFrom key nonce (counter + 1) [] (text.drop 64) := by
  cases text with
  | nil => simp [applyFrom]
  | cons b rest =>
    rw [applyFrom, applyFrom_done]
    simp only [List.reverseAux_eq, List.reverse_reverse, List.append_nil]

/-- A text that is combined twice is as before. -/
theorem applyFrom_applyFrom (counter : UInt32) (text : Bytes) :
    applyFrom key nonce counter [] (applyFrom key nonce counter [] text) = text := by
  by_cases nothing : text = []
  · subst nothing
    simp [applyFrom]
  have stream := length_block key nonce counter
  have shorter : (text.drop 64).length < text.length := by
    rw [List.length_drop]
    have some_octets := List.length_pos_iff.2 nothing
    omega
  have later := applyFrom_applyFrom (counter + 1) (text.drop 64)
  have first := @zipWith_xor_xor (text.take 64) (block key nonce counter)
    (by rw [List.length_take]; omega)
  rw [applyFrom_block key nonce counter text]
  set piece := List.zipWith (· ^^^ ·) (text.take 64) (block key nonce counter) with piece_eq
  set tail := applyFrom key nonce (counter + 1) [] (text.drop 64) with tail_eq
  have size : piece.length = min 64 text.length := by
    rw [piece_eq, List.length_zipWith, List.length_take]
    omega
  -- Either the first block is whole, or there is nothing behind it.
  have cut : (piece ++ tail).take 64 = piece ∧ (piece ++ tail).drop 64 = tail := by
    by_cases whole : 64 ≤ text.length
    · have size : piece.length = 64 := by omega
      exact ⟨List.take_left' size, List.drop_left' size⟩
    · have none_left : text.drop 64 = [] := List.drop_of_length_le (by omega)
      have none_behind : tail = [] := by
        rw [tail_eq, none_left, applyFrom]
        rfl
      rw [none_behind, List.append_nil]
      exact ⟨List.take_of_length_le (by omega), List.drop_of_length_le (by omega)⟩
  rw [applyFrom_block key nonce counter (piece ++ tail), cut.1, cut.2, later, first,
    List.take_append_drop]
termination_by text.length

/-- A text that is combined twice is as before. -/
theorem apply_apply (key nonce : Bytes) (counter : UInt32) (text : Bytes) :
    apply key nonce counter (apply key nonce counter text) = text :=
  applyFrom_applyFrom _ _ counter text

end ChaCha20

/-! ## The cipher -/

namespace Aead

variable (key : Bytes) (nonce : Nat) (ad : Bytes)

/-- What is sealed opens. -/
theorem decrypt?_encrypt (text : Bytes) :
    decrypt? key nonce ad (encrypt key nonce ad text) = some text := by
  unfold decrypt? encrypt
  dsimp only
  set ciphertext := ChaCha20.apply key (nonceOctets nonce) 1 text with ciphertext_eq
  have tagged : (tag key nonce ad ciphertext).length = 16 := Poly1305.length_tag _ _
  have size : (ciphertext ++ tag key nonce ad ciphertext).length - 16 = ciphertext.length := by
    rw [List.length_append, tagged, Nat.add_sub_cancel]
  have least : 16 ≤ (ciphertext ++ tag key nonce ad ciphertext).length := by
    rw [List.length_append, tagged]
    exact Nat.le_add_left _ _
  rw [size, List.take_left, List.drop_left, if_pos ⟨least, rfl⟩, ciphertext_eq,
    ChaCha20.apply_apply]

/-- What opens was sealed as its text. -/
theorem eq_encrypt_of_decrypt? {ciphertext text : Bytes}
    (opened : decrypt? key nonce ad ciphertext = some text) :
    ciphertext = encrypt key nonce ad text := by
  unfold decrypt? at opened
  dsimp only at opened
  split at opened
  · rename_i tagged
    rw [encrypt, ← Option.some.inj opened, ChaCha20.apply_apply, ← tagged.2, List.take_append_drop]
  · simp at opened

end Aead

namespace Suite

/-- What the suite in use has sealed opens. -/
theorem opens_standard : standard.Opens :=
  Aead.decrypt?_encrypt

end Suite

/-! ## Keys of examples -/

/-- The secret key whose seed has one octet over and over. -/
def SecretKey.filled (octet : UInt8) : SecretKey :=
  ⟨List.replicate 32 octet, List.length_replicate⟩

/-- A public key of equal octets; it belongs to nobody in particular. -/
def PublicKey.filled (octet : UInt8) : PublicKey :=
  ⟨List.replicate 32 octet, List.length_replicate⟩

/-- Those who own some of these keys agree with those who own the others. -/
theorem Suite.agrees_standard :
    ∀ a ∈ [SecretKey.filled 3, .filled 1], ∀ b ∈ [SecretKey.filled 4, .filled 2],
      standard.Agrees a b := by
  unfold Agrees
  decide +kernel

end PeerLink
