import Mathlib.Data.Nat.Basic
import Mathlib.Data.Option.Basic
import PeerLink.Text.Decimal

/-!
# Digits are read back

A number written in a base, without leading zeros, is read back digit by digit (`foldlM_toDigits`).
So a decimal text is read as a number up to a limit exactly if it is the text of that number
(`parse?_eq_some_iff`). `Spells` has all the ways to write a number with digits, in either case and
with zeros in front, and each of them is read as the number (`foldlM_of_spells`).
-/

namespace PeerLink.Text

/-- What holds of single digits, and of a number with one more digit behind it, holds of all
numbers. -/
theorem toDigits_induction {base : Nat} (one_lt : 1 < base) {holds : List Char → Nat → Prop}
    (single : ∀ k < base, holds [k.digitChar] k)
    (append : ∀ text n k, 0 < n → k < base → holds text n →
      holds (text ++ [k.digitChar]) (base * n + k)) (n : Nat) :
    holds (Nat.toDigits base n) n := by
  induction n using Nat.strongRecOn with
  | ind n ih =>
    rw [Nat.toDigits_eq_if one_lt]
    split
    case isTrue small => exact single n small
    case isFalse large =>
      -- The last digit is split off, as a reader meets it last.
      have positive : 0 < n / base := Nat.div_pos (by omega) (by omega)
      have front := ih (n / base) (Nat.div_lt_self (by omega) one_lt)
      have whole := append _ _ (n % base) positive (Nat.mod_lt n (by omega)) front
      rwa [Nat.div_add_mod] at whole

/-- Each character of a number in a base is the one of a digit below the base. -/
theorem exists_of_mem_toDigits {base n : Nat} {c : Char} (one_lt : 1 < base)
    (mem : c ∈ Nat.toDigits base n) : ∃ k < base, c = k.digitChar := by
  refine @toDigits_induction base one_lt (fun text _ => ∀ c ∈ text, ∃ k < base, c = k.digitChar)
    (fun k small c last => ?_) (fun text _ k _ small ih c mem => ?_) n c mem
  · exact ⟨k, small, List.mem_singleton.1 last⟩
  · rcases List.mem_append.1 mem with front | last
    · exact ih c front
    · exact ⟨k, small, List.mem_singleton.1 last⟩

/-- A number is read back from its digits, whatever reads the single ones. -/
theorem foldlM_toDigits {base : Nat} {digit? : Char → Option Nat} (one_lt : 1 < base)
    (digits : ∀ k < base, digit? k.digitChar = some k) (n : Nat) :
    (Nat.toDigits base n).foldlM (fun m c => (digit? c).map (base * m + ·)) 0 = some n := by
  refine @toDigits_induction base one_lt
    (fun text n => text.foldlM (fun m c => (digit? c).map (base * m + ·)) 0 = some n)
    (fun k small => ?_) (fun text n k _ small ih => ?_) n
  · simp [digits k small]
  · simp [List.foldlM_append, ih, digits k small]

/-- The first digit of a number is not a zero, unless the number is zero. -/
theorem head?_toDigits_ne_zero {n : Nat} (positive : 0 < n) :
    (Nat.toDigits 10 n).head? ≠ some '0' := by
  have digits : ∀ k < 10, 0 < k → k.digitChar ≠ '0' := by decide
  refine (@toDigits_induction 10 (by decide)
    (fun text n => text ≠ [] ∧ (0 < n → text.head? ≠ some '0'))
    (fun k small => ⟨by simp, fun positive => ?_⟩)
    (fun text n k front _ ⟨ne_nil, ih⟩ => ⟨by simp, fun _ => ?_⟩) n).2 positive
  · simpa using digits k small positive
  · -- The first digit is the one of the number without its last digit.
    obtain ⟨c, rest, rfl⟩ := List.exists_cons_of_ne_nil ne_nil
    exact ih front

/-! ## All ways to write a number -/

/-- A character is the digit of a number in a base; letters may be capital. -/
def IsDigit (base : Nat) (c : Char) (k : Nat) : Prop :=
  k < base ∧ (c = k.digitChar ∨ c = k.digitChar.toUpper)

instance (base : Nat) (c : Char) (k : Nat) : Decidable (IsDigit base c k) :=
  inferInstanceAs (Decidable (_ ∧ _))

/-- Digits spell a number in a base; there may be zeros in front. -/
inductive Spells (base : Nat) : List Char → Nat → Prop
  /-- A digit. -/
  | digit {c : Char} {k : Nat} (digit : IsDigit base c k) : Spells base [c] k
  /-- A digit behind others. -/
  | append {text : List Char} {n : Nat} {c : Char} {k : Nat} (front : Spells base text n)
      (digit : IsDigit base c k) : Spells base (text ++ [c]) (base * n + k)

/-- A spelled number has digits. -/
theorem Spells.ne_nil {base n : Nat} {text : List Char} (spells : Spells base text n) :
    text ≠ [] := by
  cases spells <;> simp

/-- A spelled number begins with a digit. -/
theorem Spells.head? {base n : Nat} {text : List Char} (spells : Spells base text n) :
    ∃ c k, text.head? = some c ∧ IsDigit base c k := by
  induction spells with
  | digit digit => exact ⟨_, _, rfl, digit⟩
  | append front digit ih =>
    obtain ⟨c, k, first, digit'⟩ := ih
    refine ⟨c, k, ?_, digit'⟩
    rw [List.head?_append, first]
    rfl

/-- A number is read as it is spelled, whatever reads the single digits. -/
theorem foldlM_of_spells {base n : Nat} {digit? : Char → Option Nat} {text : List Char}
    (digits : ∀ c k, IsDigit base c k → digit? c = some k) (spells : Spells base text n) :
    text.foldlM (fun m c => (digit? c).map (base * m + ·)) 0 = some n := by
  induction spells with
  | digit digit => simp [digits _ _ digit]
  | append front digit ih => simp [List.foldlM_append, ih, digits _ _ digit]

/-- The digits of a number spell it. -/
theorem spells_toDigits {base : Nat} (one_lt : 1 < base) (n : Nat) :
    Spells base (Nat.toDigits base n) n :=
  @toDigits_induction base one_lt (Spells base) (fun _ small => .digit ⟨small, .inl rfl⟩)
    (fun _ _ _ _ small front => front.append ⟨small, .inl rfl⟩) n

namespace Decimal

/-- The digits of a number are not empty. -/
theorem digits_ne_nil (n : Nat) : digits n ≠ [] :=
  Nat.toDigits_ne_nil

/-- Each character of a decimal text is one of the ten digits. -/
theorem exists_of_mem_digits {n : Nat} {c : Char} (mem : c ∈ digits n) :
    ∃ k < 10, c = k.digitChar :=
  exists_of_mem_toDigits (by decide) mem

/-- The value of a decimal digit is read. -/
theorem digit?_of_isDigit (c : Char) (k : Nat) (digit : IsDigit 10 c k) : digit? c = some k := by
  have single : ∀ k < 10, k.digitChar.toUpper = k.digitChar ∧ digit? k.digitChar = some k := by
    decide
  obtain ⟨small, either⟩ := digit
  obtain ⟨upper, read⟩ := single k small
  rw [upper, or_self] at either
  rwa [either]

/-- A number is read as it is spelled. -/
theorem read?_of_spells {n : Nat} {text : List Char} (spells : Spells 10 text n) :
    read? text = some n := by
  have nonempty : ¬ text.isEmpty := by simpa using spells.ne_nil
  rw [read?, if_neg nonempty]
  exact foldlM_of_spells digit?_of_isDigit spells

/-- A number is read back from its digits. -/
theorem read?_digits (n : Nat) : read? (digits n) = some n :=
  read?_of_spells (spells_toDigits (by decide) n)

/-- A text is the one of a number up to a limit exactly if it consists of the digits of this
number. -/
theorem parse?_eq_some_iff {limit n : Nat} {text : List Char} :
    parse? limit text = some n ↔ n ≤ limit ∧ digits n = text := by
  simp only [parse?, Option.filter_eq_some_iff, Bool.and_eq_true, decide_eq_true_eq, beq_iff_eq]
  constructor
  · exact fun ⟨_, bound, same⟩ => ⟨bound, same⟩
  · rintro ⟨bound, rfl⟩
    exact ⟨read?_digits n, bound, rfl⟩

end Decimal

end PeerLink.Text
