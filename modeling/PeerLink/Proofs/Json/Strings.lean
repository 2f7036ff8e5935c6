import PeerLink.Json.Scan
import PeerLink.Json.Writer
import PeerLink.Proofs.Text.Utf8

/-!
# The octets of strings

A character of a string stands for itself or is escaped. The scanner takes octets that are no mark
and no control as they are (`stringOctets_plain`), and an escape as what it stands for
(`stringOctets_escape`). The octets that a string is written as, `tailOctets`, have escapes only for
the characters that need one.
-/

namespace PeerLink.Json

/-- The octets of a string behind its opening mark. -/
def tailOctets (s : String) : Bytes :=
  Utf8.encode (s.toList.flatMap escapeChar) ++ [34]

/-- Octets that are no mark of a string and no control. -/
def Plain (b : UInt8) : Prop :=
  b.toNat ≠ 34 ∧ b.toNat ≠ 92 ∧ 32 ≤ b.toNat

/-- An octet is plain if its number is. -/
theorem plain_ofNat {n : Nat} (octet : n < 256) (no_mark : n ≠ 34) (no_escape : n ≠ 92)
    (no_control : 32 ≤ n) : Plain (UInt8.ofNat n) := by
  have number : (UInt8.ofNat n).toNat = n := by
    rw [UInt8.toNat_ofNat']
    omega
  rw [Plain, number]
  exact ⟨no_mark, no_escape, no_control⟩

/-- The octets of a character that is no mark of a string and no control are plain. -/
theorem plain_of_mem_encodeChar {c : Char} (no_mark : c.toNat ≠ 34) (no_escape : c.toNat ≠ 92)
    (no_control : 32 ≤ c.toNat) {b : UInt8} (h : b ∈ Utf8.encodeChar c) : Plain b := by
  have bound : c.toNat < 0x110000 := by
    rcases Utf8.isValidChar_toNat c with h | h
    · omega
    · exact h.2
  unfold Utf8.encodeChar at h
  dsimp only at h
  split_ifs at h with one two three
  · obtain rfl := List.mem_singleton.1 h
    exact plain_ofNat (by omega) no_mark no_escape no_control
  · simp only [List.mem_cons, List.not_mem_nil, or_false] at h
    rcases h with rfl | rfl
    all_goals exact plain_ofNat (by omega) (by omega) (by omega) (by omega)
  · simp only [List.mem_cons, List.not_mem_nil, or_false] at h
    rcases h with rfl | rfl | rfl
    all_goals exact plain_ofNat (by omega) (by omega) (by omega) (by omega)
  · simp only [List.mem_cons, List.not_mem_nil, or_false] at h
    rcases h with rfl | rfl | rfl | rfl
    all_goals exact plain_ofNat (by omega) (by omega) (by omega) (by omega)

/-- Plain octets are taken as they are. -/
theorem stringOctets_plain {input : Bytes} {octets : Bytes} (plain : ∀ b ∈ octets, Plain b)
    (done text : Bytes) (h : (octets ++ text).length ≤ input.length)
    (h' : text.length ≤ input.length) :
    stringOctets input done 0 (octets ++ text) h =
      stringOctets input (octets.reverse ++ done) 0 text h' := by
  induction octets generalizing done with
  | nil => rfl
  | cons b octets ih =>
    obtain ⟨no_mark, no_escape, no_control⟩ := plain b List.mem_cons_self
    have later := fun b mem => plain b (List.mem_cons_of_mem _ mem)
    have no_control : ¬ b < 32 := fun h => Nat.not_lt.2 no_control (UInt8.lt_iff_toNat_lt.1 h)
    show stringOctets input done 0 (b :: (octets ++ text)) h = _
    rw [stringOctets, if_neg (fun h => no_mark (congrArg UInt8.toNat h)),
      if_neg (fun h => no_escape (congrArg UInt8.toNat h)), if_neg no_control, ih later,
      List.reverse_cons, List.append_assoc]
    rfl

/-- The octets of an escape are passed over once it was taken. -/
theorem stringOctets_pending {input : Bytes} (done octets text : Bytes)
    (h : (octets ++ text).length ≤ input.length) (h' : text.length ≤ input.length) :
    stringOctets input done octets.length (octets ++ text) h =
      stringOctets input done 0 text h' := by
  induction octets with
  | nil => rfl
  | cons b octets ih =>
    show stringOctets input done (octets.length + 1) (b :: (octets ++ text)) h = _
    rw [stringOctets, ih]

/-- An escape is taken as what it stands for. -/
theorem stringOctets_escape {input : Bytes} (octets stands text : Bytes)
    (taken : escape (octets ++ text) = .ok (stands, octets.length)) (done : Bytes)
    (h : (92 :: octets ++ text).length ≤ input.length) (h' : text.length ≤ input.length) :
    stringOctets input done 0 (92 :: octets ++ text) h =
      stringOctets input (stands.reverse ++ done) 0 text h' := by
  show stringOctets input done 0 (92 :: (octets ++ text)) h = _
  rw [stringOctets, if_neg (by decide), if_pos rfl, taken]
  simp only
  rw [stringOctets_pending _ _ _ _ h', List.reverseAux_eq]

/-- The digits of a control are read as its number. -/
theorem hexWord?_control : ∀ n, n < 32 →
    Utf8.encode [Nat.digitChar (n / 16), Nat.digitChar (n % 16)] =
        [UInt8.ofNat (Nat.digitChar (n / 16)).toNat, UInt8.ofNat (Nat.digitChar (n % 16)).toNat] ∧
      hexWord? 48 48 (UInt8.ofNat (Nat.digitChar (n / 16)).toNat)
        (UInt8.ofNat (Nat.digitChar (n % 16)).toNat) = some n := by
  decide

/-- The characters that are escaped by a letter or by themselves. -/
def shortEscaped : List Char :=
  ['"', '\\', '\x08', '\t', '\n', '\x0c', '\r']

/-- How all other characters stand in a string. -/
theorem escapeChar_of_not_short {c : Char} (h : c ∉ shortEscaped) :
    escapeChar c =
      if c.toNat < 32 then
        ['\\', 'u', '0', '0', Nat.digitChar (c.toNat / 16), Nat.digitChar (c.toNat % 16)]
      else [c] := by
  simp only [shortEscaped, List.mem_cons, List.not_mem_nil, or_false, not_or] at h
  obtain ⟨mark, slash, backspace, tab, feed, form, carriage⟩ := h
  rw [escapeChar, if_neg mark, if_neg slash, if_neg backspace, if_neg tab, if_neg feed,
    if_neg form, if_neg carriage]

/-- A character stands as at most six. -/
theorem length_escapeChar_le (c : Char) : (escapeChar c).length ≤ 6 := by
  unfold escapeChar
  split_ifs <;> simp

/-- A string has at most so many octets for each character. -/
theorem length_tailOctets_le (s : String) : (tailOctets s).length ≤ 24 * s.toList.length + 1 := by
  have chars (text : List Char) : (text.flatMap escapeChar).length ≤ 6 * text.length := by
    induction text with
    | nil => exact Nat.le_refl _
    | cons c text ih =>
      have one := length_escapeChar_le c
      rw [List.flatMap_cons, List.length_append, List.length_cons]
      omega
  have escaped := chars s.toList
  have octets := Utf8.length_encode_le (s.toList.flatMap escapeChar)
  rw [tailOctets, List.length_append, List.length_singleton]
  omega

/-- A string has at least one octet for each character, and its closing mark. -/
theorem lt_length_tailOctets (s : String) : s.toList.length < (tailOctets s).length := by
  have chars (text : List Char) : text.length ≤ (Utf8.encode (text.flatMap escapeChar)).length := by
    induction text with
    | nil => exact Nat.le_refl _
    | cons c text ih =>
      obtain ⟨d, escaped, stands⟩ : ∃ d escaped, escapeChar c = d :: escaped := by
        unfold escapeChar
        split_ifs <;> exact ⟨_, _, rfl⟩
      have positive := Utf8.length_encodeChar_pos d
      rw [List.flatMap_cons, stands, List.cons_append, Utf8.encode_cons, Utf8.encode_append]
      simp only [List.length_append, List.length_cons]
      omega
  have octets := chars s.toList
  rw [tailOctets, List.length_append, List.length_singleton]
  omega

end PeerLink.Json
