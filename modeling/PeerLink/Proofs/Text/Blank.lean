import Mathlib.Data.List.TakeWhile
import PeerLink.Text.Blank

/-!
# Texts without the blank characters around them

The blank characters are the ones with the property `White_Space` (`isBlank_iff`), and what is left
of a text when they are taken away at its two ends begins and ends with other characters, if it is
not empty (`trimmed_trim`).
-/

namespace PeerLink.Text

/-- The code points with the property `White_Space`. -/
def whiteSpace : List Nat :=
  [0x9, 0xa, 0xb, 0xc, 0xd, 0x20, 0x85, 0xa0, 0x1680, 0x2000, 0x2001, 0x2002, 0x2003, 0x2004,
    0x2005, 0x2006, 0x2007, 0x2008, 0x2009, 0x200a, 0x2028, 0x2029, 0x202f, 0x205f, 0x3000]

/-- A character is blank exactly if its code point has the property. -/
theorem isBlank_iff {c : Char} : isBlank c = true ↔ c.toNat ∈ whiteSpace := by
  simp only [isBlank, blankRanges, List.any_cons, List.any_nil, Bool.or_false, Bool.or_eq_true,
    Bool.and_eq_true, decide_eq_true_eq, whiteSpace, List.mem_cons, List.not_mem_nil, or_false]
  omega

/-- `core` is a text without the white space at its start and at its end. -/
structure Trimmed (text core : List Char) : Prop where
  /-- Only white space is taken away. -/
  parts : ∃ front back, text = front ++ core ++ back ∧ (∀ c ∈ front, c.toNat ∈ whiteSpace) ∧
    ∀ c ∈ back, c.toNat ∈ whiteSpace
  /-- What is left does not begin with white space. -/
  first : ∀ c ∈ core.head?, c.toNat ∉ whiteSpace
  /-- What is left does not end with white space. -/
  last : ∀ c ∈ core.getLast?, c.toNat ∉ whiteSpace

/-- What is behind the blank characters of a text does not begin with one. -/
theorem not_mem_head?_dropWhile {text : List Char} {c : Char}
    (mem : c ∈ (text.dropWhile isBlank).head?) : c.toNat ∉ whiteSpace := by
  have other := List.head?_dropWhile_not isBlank text
  rw [Option.mem_def.1 mem] at other
  rw [← isBlank_iff, Bool.not_eq_true]
  exact other

/-- Only blank characters are passed over. -/
theorem mem_whiteSpace_of_mem_takeWhile {text : List Char} {c : Char}
    (mem : c ∈ text.takeWhile isBlank) : c.toNat ∈ whiteSpace :=
  isBlank_iff.1 (List.mem_takeWhile_imp mem)

/-- A text is trimmed at both ends. -/
theorem trimmed_trim (text : List Char) : Trimmed text (trim text) := by
  have behind : trim text ++ ((text.dropWhile isBlank).reverse.takeWhile isBlank).reverse =
      text.dropWhile isBlank := by
    rw [trim, ← List.reverse_append, List.takeWhile_append_dropWhile, List.reverse_reverse]
  have parts : text = text.takeWhile isBlank ++ trim text ++
      ((text.dropWhile isBlank).reverse.takeWhile isBlank).reverse := by
    rw [List.append_assoc, behind, List.takeWhile_append_dropWhile]
  refine ⟨⟨_, _, parts, fun c => mem_whiteSpace_of_mem_takeWhile, fun c mem =>
    mem_whiteSpace_of_mem_takeWhile (List.mem_reverse.1 mem)⟩, fun c mem => ?_, fun c mem => ?_⟩
  · -- What is left begins as the text does behind its first blank characters.
    have begins : c ∈ (text.dropWhile isBlank).head? := by
      rw [← behind, List.head?_append]
      simp [Option.mem_def.1 mem]
    exact not_mem_head?_dropWhile begins
  · rw [trim, List.getLast?_reverse] at mem
    exact not_mem_head?_dropWhile mem

/-- A text without white space is left as it is. -/
theorem trim_eq_self {text : List Char} (other : ∀ c ∈ text, c.toNat ∉ whiteSpace) :
    trim text = text := by
  have kept (text : List Char) (other : ∀ c ∈ text, c.toNat ∉ whiteSpace) :
      text.dropWhile isBlank = text := by
    rw [List.dropWhile_eq_self_iff]
    exact fun nonempty => fun blank => other _ (List.getElem_mem nonempty) (isBlank_iff.1 blank)
  rw [trim, kept text other, kept text.reverse fun c mem => other c (List.mem_reverse.1 mem),
    List.reverse_reverse]

end PeerLink.Text
