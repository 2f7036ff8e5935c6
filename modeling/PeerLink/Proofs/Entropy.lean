import PeerLink.Entropy
import PeerLink.Proofs.Hex
import PeerLink.Proofs.Text.Blank

/-!
# Entropy is read from its digits only

A text is read as the entropy that its hexadecimal digits denote, and any other text is blamed for
its first fault: `Reads` says what reading comes to, for a text as it is and for the text without
the white space around it. `text_is_read_exactly` says that both readers do so, and that entropy
survives its text.
-/

namespace PeerLink.Entropy

/-- What reading entropy from a text comes to. -/
structure Reads (result : Except HexError Entropy) (text : List Char) : Prop where
  /-- A text is accepted exactly if it consists of 128 digits, each of either case. -/
  accepts : (∃ entropy, result = .ok entropy) ↔ text.length = 128 ∧ ∀ c ∈ text, c ∈ Hex.alphabet
  /-- The entropy is the one of the octets that the digits denote. -/
  denotes : ∀ entropy, result = .ok entropy ↔ Hex.Denotes text entropy.bytes
  /-- The entropy is written in small digits. -/
  writes : ∀ entropy, result = .ok entropy → entropy.text.toList = text.map Char.toLower
  /-- A text that is refused is blamed for an odd number of octets, else for a number of octets that
  is not 128, else for the first octet that is no digit. -/
  blames : ∀ error, result = .error error ↔ Hex.Misfit 64 (Utf8.encode text) error

/-- The reader without entropy of another size: octets of the right number are entropy. -/
theorem ofText_eq (text : String) :
    (ofText text).map bytes = Hex.decodeExactly size text := by
  rw [ofText]
  cases read : Hex.decodeExactly size text with
  | error e => rfl
  | ok bytes =>
    have length : bytes.length = 64 := (Hex.decodeExactly_eq_ok_iff.1 read).1
    simp only [ofBytes?, dif_pos length]
    rfl

/-- Entropy is read from a text exactly if the characters of the text denote its octets. -/
theorem ofText_eq_ok_iff {text : String} {entropy : Entropy} :
    ofText text = .ok entropy ↔ Hex.Denotes text.toList entropy.bytes := by
  have octets := ofText_eq text
  have read : Hex.decodeExactly size text = .ok entropy.bytes ↔
      Hex.Denotes text.toList entropy.bytes := by
    rw [Hex.decodeExactly_eq_ok_iff, size]
    exact and_iff_right entropy.length_bytes
  rw [← read, ← octets]
  cases ofText text with
  | error e => simp [Except.map]
  | ok found =>
    obtain ⟨bytes, length⟩ := found
    obtain ⟨bytes', length'⟩ := entropy
    simp [Except.map]

/-- A text is blamed for what keeps it from being the hexadecimal form of 64 octets. -/
theorem ofText_eq_error_iff {text : String} {error : HexError} :
    ofText text = .error error ↔ Hex.Misfit 64 (Utf8.encode text.toList) error := by
  have octets := ofText_eq text
  rw [← Hex.decodeExactly_eq_error_iff, ← size, ← octets]
  cases ofText text <;> simp [Except.map]

/-- A text is read as it is. -/
theorem reads_ofText (text : List Char) : Reads (ofText (String.ofList text)) text where
  accepts := by
    have digits : (∃ bytes : Bytes, bytes.length = 64 ∧ Hex.Denotes text bytes) ↔
        text.length = 128 ∧ ∀ c ∈ text, c ∈ Hex.alphabet := Hex.exists_denotes_iff
    rw [← digits]
    simp only [ofText_eq_ok_iff, String.toList_ofList]
    constructor
    · rintro ⟨entropy, denotes⟩
      exact ⟨entropy.bytes, entropy.length_bytes, denotes⟩
    · rintro ⟨bytes, length, denotes⟩
      exact ⟨⟨bytes, length⟩, denotes⟩
  denotes entropy := by rw [ofText_eq_ok_iff, String.toList_ofList]
  writes entropy read := by
    rw [ofText_eq_ok_iff, String.toList_ofList, Hex.denotes_iff] at read
    rw [Entropy.text, Hex.encode, String.toList_ofList, read]
  blames error := by rw [ofText_eq_error_iff, String.toList_ofList]

/-- Entropy is read back from its text. -/
theorem ofText_text (entropy : Entropy) : ofText entropy.text = .ok entropy := by
  have lower : entropy.text.toLower = Hex.encode entropy.bytes :=
    Hex.decode_eq_ok_iff.1 (Hex.decode_encode entropy.bytes)
  rw [ofText_eq_ok_iff, Hex.denotes_iff, ← String.toList_map]
  change entropy.text.toLower.toList = _
  rw [lower, Hex.encode, String.toList_ofList]

/-- There is no white space in the text of entropy. -/
theorem trim_text (entropy : Entropy) : Text.trim entropy.text.toList = entropy.text.toList := by
  refine Text.trim_eq_self fun c mem => ?_
  have accepted := (reads_ofText entropy.text.toList).accepts
  rw [String.ofList_toList] at accepted
  have digit := (accepted.1 ⟨entropy, entropy.ofText_text⟩).2 c mem
  obtain ⟨n, bound, case⟩ := Hex.exists_isDigitOf_iff.2 digit
  have each : ∀ n < 16, n.digitChar.toNat ∉ Text.whiteSpace ∧
      n.digitChar.toUpper.toNat ∉ Text.whiteSpace := by decide
  rcases case with rfl | rfl
  · exact (each n bound).1
  · exact (each n bound).2

/-- A text is read as entropy exactly if it is 128 hexadecimal digits, of either case, in white
space, and then as the octets that the digits denote; any other text is blamed for the first fault
of its part between the white space. The strict reader does the same to the text as it is. Entropy
is written as its digits in lower case, from which both readers read it back. -/
theorem text_is_read_exactly (text : String) :
    (∃ core, Text.Trimmed text.toList core ∧ Reads (parse text) core) ∧
      Reads (ofText text) text.toList ∧
      ∀ entropy : Entropy, parse entropy.text = .ok entropy ∧
        ofText entropy.text = .ok entropy := by
  refine ⟨⟨_, Text.trimmed_trim text.toList, reads_ofText _⟩, ?_, fun entropy => ⟨?_, ?_⟩⟩
  · have reads := reads_ofText text.toList
    rwa [String.ofList_toList] at reads
  · rw [parse, trim_text, String.ofList_toList, ofText_text]
  · exact ofText_text entropy

/-- Octets are counted, not characters: one that takes two octets makes an even length odd. -/
example : parse "\n\u00e9\u3000" = .error .invalidStringLength ∧
    parse "0\u00e9" = .error .oddLength := by decide

end PeerLink.Entropy
