import Mathlib.Data.List.Basic
import PeerLink.Text.Utf8

/-!
# Text survives its encoding

Each character is read back from its octets, whatever follows them, and therefore a whole text is.
-/

namespace PeerLink.Utf8

/-- A code point is valid. -/
theorem isValidChar_toNat (c : Char) : c.toNat.isValidChar := c.valid

/-- A character is read back from its code point. -/
theorem charAbove?_toNat {c : Char} {least : Nat} (h : least ≤ c.toNat) :
    charAbove? least c.toNat = some c := by
  rw [charAbove?, dif_pos (isValidChar_toNat c), if_pos h]
  rfl

/-- Six bits of a code point are read back from their octet. -/
theorem continuation?_ofNat {n : Nat} (h : n < 64) :
    continuation? (UInt8.ofNat (0x80 + n)) = some n := by
  have octet : (UInt8.ofNat (0x80 + n)).toNat = 0x80 + n := by
    rw [UInt8.toNat_ofNat']
    omega
  have shifted : 0x80 + n - 0x80 = n := Nat.add_sub_cancel_left _ _
  unfold continuation?
  simp only [octet, shifted]
  exact if_pos (by omega)

/-- The first character of a text is read back from its octets. -/
theorem first?_encodeChar (c : Char) (rest : Bytes) :
    first? (encodeChar c ++ rest) = some (c, (encodeChar c).length) := by
  have bound : c.toNat < 0x110000 := by
    rcases isValidChar_toNat c with h | h
    · omega
    · exact h.2
  unfold encodeChar
  dsimp only
  split_ifs with one two three
  · -- One octet.
    have octet : (UInt8.ofNat c.toNat).toNat = c.toNat := by
      rw [UInt8.toNat_ofNat']
      omega
    simp only [List.cons_append, List.nil_append, first?, octet, if_pos one]
    rw [charAbove?_toNat (Nat.zero_le _)]
    rfl
  · -- Two octets.
    have octet : (UInt8.ofNat (0xc0 + c.toNat / 64)).toNat = 0xc0 + c.toNat / 64 := by
      rw [UInt8.toNat_ofNat']
      omega
    have low := continuation?_ofNat (show c.toNat % 64 < 64 by omega)
    have whole : 64 * (0xc0 + c.toNat / 64 - 0xc0) + c.toNat % 64 = c.toNat := by omega
    simp only [List.cons_append, List.nil_append, first?, octet, low]
    rw [if_neg (by omega), if_neg (by omega), if_pos (by omega)]
    simp only [Option.bind_eq_bind, Option.bind_some, whole]
    rw [charAbove?_toNat (by omega)]
    rfl
  · -- Three octets.
    have octet : (UInt8.ofNat (0xe0 + c.toNat / 4096)).toNat = 0xe0 + c.toNat / 4096 := by
      rw [UInt8.toNat_ofNat']
      omega
    have middle := continuation?_ofNat (show c.toNat / 64 % 64 < 64 by omega)
    have low := continuation?_ofNat (show c.toNat % 64 < 64 by omega)
    have whole : 4096 * (0xe0 + c.toNat / 4096 - 0xe0) + 64 * (c.toNat / 64 % 64) +
        c.toNat % 64 = c.toNat := by omega
    simp only [List.cons_append, List.nil_append, first?, octet, middle, low]
    rw [if_neg (by omega), if_neg (by omega), if_neg (by omega), if_pos (by omega)]
    simp only [Option.bind_eq_bind, Option.bind_some, whole]
    rw [charAbove?_toNat (by omega)]
    rfl
  · -- Four octets.
    have octet : (UInt8.ofNat (0xf0 + c.toNat / 262144)).toNat = 0xf0 + c.toNat / 262144 := by
      rw [UInt8.toNat_ofNat']
      omega
    have high := continuation?_ofNat (show c.toNat / 4096 % 64 < 64 by omega)
    have middle := continuation?_ofNat (show c.toNat / 64 % 64 < 64 by omega)
    have low := continuation?_ofNat (show c.toNat % 64 < 64 by omega)
    have whole : 262144 * (0xf0 + c.toNat / 262144 - 0xf0) + 4096 * (c.toNat / 4096 % 64) +
        64 * (c.toNat / 64 % 64) + c.toNat % 64 = c.toNat := by omega
    simp only [List.cons_append, List.nil_append, first?, octet, high, middle, low]
    rw [if_neg (by omega), if_neg (by omega), if_neg (by omega), if_neg (by omega),
      if_pos (by omega)]
    simp only [Option.bind_eq_bind, Option.bind_some, whole]
    rw [charAbove?_toNat (by omega)]
    rfl

/-- A character has at least one octet. -/
theorem length_encodeChar_pos (c : Char) : 0 < (encodeChar c).length := by
  unfold encodeChar
  dsimp only
  split_ifs <;> simp

/-- The octets that belong to a character that was read are passed over. -/
theorem decodeFrom_append (read : List Char) (octets rest : Bytes) :
    decodeFrom read octets.length (octets ++ rest) = decodeFrom read 0 rest := by
  induction octets with
  | nil => rfl
  | cons b octets ih =>
    rw [List.length_cons, List.cons_append, decodeFrom, ih]

/-- Characters are read one after the other. -/
theorem decodeFrom_encode (read text : List Char) :
    decodeFrom read 0 (encode text) = some (read.reverse ++ text) := by
  induction text generalizing read with
  | nil => simp [encode, decodeFrom]
  | cons c text ih =>
    have first := first?_encodeChar c (encode text)
    have some_octet := length_encodeChar_pos c
    rw [encode, List.flatMap_cons, ← encode]
    rcases octets : encodeChar c with _ | ⟨b, octets'⟩
    · rw [octets] at some_octet
      simp at some_octet
    · rw [octets, List.cons_append] at first
      rw [List.cons_append, decodeFrom, first]
      simp only [List.length_cons, Nat.add_sub_cancel]
      rw [decodeFrom_append, ih, List.reverse_cons, List.append_assoc]
      rfl

/-- A text is read back from its octets. -/
theorem decode?_encode (text : List Char) : decode? (encode text) = some text :=
  decodeFrom_encode [] text

/-- The octets of a text are those of its first character and of the other ones. -/
theorem encode_cons (c : Char) (text : List Char) :
    encode (c :: text) = encodeChar c ++ encode text :=
  List.flatMap_cons

/-- The octets of a text are those of its parts. -/
theorem encode_append (text text' : List Char) :
    encode (text ++ text') = encode text ++ encode text' :=
  List.flatMap_append

/-- A text has at most four octets for each character. -/
theorem length_encode_le (text : List Char) : (encode text).length ≤ 4 * text.length := by
  induction text with
  | nil => exact Nat.le_refl _
  | cons c text ih =>
    have one : (encodeChar c).length ≤ 4 := by
      unfold encodeChar
      dsimp only
      split_ifs <;> simp
    rw [encode_cons, List.length_append, List.length_cons]
    omega

end PeerLink.Utf8
