import Mathlib.Tactic.Linarith
import Mathlib.Tactic.Ring
import PeerLink.Proofs.Json.Spelling

/-!
# The range of the reader

A number is made a double by two roundings and a product, so that not every number is read whose
nearest double is finite. Whatever its digits are, a number is read if its absolute value is at most
`10 ^ 307`.

The roundings add little: `round_le` bounds what one of them adds, and `mul?_powerOfTen_isSome`
bounds the product of two rounded factors.
-/

namespace PeerLink

namespace Binary64

/-- Doubles are next to each other, or they have 53 binary digits. -/
theorem spacing_le (n : Nat) : spacing n = 1 ∨ spacing n * 2 ^ 52 ≤ n := by
  unfold spacing
  rw [Nat.one_shiftLeft]
  by_cases small : n.log2 ≤ 52
  · left
    rw [Nat.sub_eq_zero_of_le (by omega), Nat.pow_zero]
  · right
    have not_zero : n ≠ 0 := by
      rintro rfl
      simp at small
    rw [← Nat.pow_add, show n.log2 + 1 - 53 + 52 = n.log2 by omega]
    exact Nat.log2_self_le not_zero

/-- The nearest whole number is at most one larger than the quotient. -/
theorem nearest_le (num den : Nat) : nearest num den ≤ num / den + 1 := by
  unfold nearest
  dsimp only
  split_ifs <;> omega

/-- What a rounding adds is small. -/
theorem round_le (num den : Nat) :
    round num den * 2 ^ 52 ≤ num / den * (2 ^ 52 + 1) + 2 ^ 52 := by
  have step : round num den ≤ num / den + spacing (num / den) := by
    have nearest := Nat.mul_le_mul_left (spacing (num / den))
      (nearest_le num (den * spacing (num / den)))
    have below := Nat.mul_div_le (num / den) (spacing (num / den))
    rw [Nat.div_div_eq_div_mul] at below
    rw [Nat.mul_add, Nat.mul_one] at nearest
    exact nearest.trans (Nat.add_le_add_right below _)
  have apart := spacing_le (num / den)
  generalize round num den = units at *
  generalize spacing (num / den) = gap at *
  generalize num / den = quotient at *
  omega

/-- The double nearest to a whole number is not much larger. -/
theorem ofNat_le (n : Nat) : ofNat n * 2 ^ 51 ≤ n * unitsOfOne * (2 ^ 51 + 1) := by
  rcases Nat.eq_zero_or_pos n with rfl | positive
  · have zero : ofNat 0 = 0 := by decide +kernel
    rw [zero, Nat.zero_mul]
    exact Nat.zero_le _
  · have rounded := round_le (n * unitsOfOne) 1
    rw [Nat.div_one] at rounded
    have one_le : 2 ^ 52 ≤ unitsOfOne := by decide +kernel
    have units_le : unitsOfOne ≤ n * unitsOfOne := Nat.le_mul_of_pos_left _ positive
    rw [ofNat]
    linarith only [rounded, one_le, units_le]

/-- The product of two factors that were rounded, and is rounded itself, stays below a limit that
leaves room for the three roundings. -/
theorem lt_of_rounded {n m a b k r unit s t most limit : Nat} (positive : 0 < unit)
    (small : n * m ≤ most) (left : a * s ≤ n * unit * (s + 1))
    (right : b * s ≤ m * unit * (s + 1)) (quotient : k * unit ≤ a * b)
    (rounded : r * t ≤ k * (t + 1) + t)
    (room : most * (s + 1) ^ 2 * (t + 1) + t * s ^ 2 < limit * t * s ^ 2) : r < limit * unit := by
  have factors : k * s ^ 2 ≤ most * unit * (s + 1) ^ 2 := by
    refine Nat.le_of_mul_le_mul_right ?_ positive
    calc k * s ^ 2 * unit = k * unit * s ^ 2 := by ring
      _ ≤ a * b * s ^ 2 := Nat.mul_le_mul_right _ quotient
      _ = (a * s) * (b * s) := by ring
      _ ≤ (n * unit * (s + 1)) * (m * unit * (s + 1)) := Nat.mul_le_mul left right
      _ = n * m * (unit ^ 2 * (s + 1) ^ 2) := by ring
      _ ≤ most * (unit ^ 2 * (s + 1) ^ 2) := Nat.mul_le_mul_right _ small
      _ = most * unit * (s + 1) ^ 2 * unit := by ring
  by_contra large
  refine absurd (Nat.mul_lt_mul_of_pos_right room positive) (Nat.not_lt.2 ?_)
  calc limit * t * s ^ 2 * unit = limit * unit * (t * s ^ 2) := by ring
    _ ≤ r * (t * s ^ 2) := Nat.mul_le_mul_right _ (Nat.not_lt.1 large)
    _ = r * t * s ^ 2 := by ring
    _ ≤ (k * (t + 1) + t) * s ^ 2 := Nat.mul_le_mul_right _ rounded
    _ = k * s ^ 2 * (t + 1) + t * s ^ 2 := by ring
    _ ≤ most * unit * (s + 1) ^ 2 * (t + 1) + t * s ^ 2 * unit :=
      Nat.add_le_add (Nat.mul_le_mul_right _ factors) (Nat.le_mul_of_pos_right _ positive)
    _ = (most * (s + 1) ^ 2 * (t + 1) + t * s ^ 2) * unit := by ring

/-- The product of a whole number and a power of ten is a double if it is not too large. -/
theorem mul?_powerOfTen_isSome {n exponent : Nat} (small : n * 10 ^ exponent ≤ 10 ^ largestPower) :
    (mul? (ofNat n) (powerOfTen exponent)).isSome := by
  have positive : 0 < unitsOfOne := by decide +kernel
  have room : 10 ^ largestPower * (2 ^ 51 + 1) ^ 2 * (2 ^ 52 + 1) + 2 ^ 52 * (2 ^ 51) ^ 2 <
      2 ^ 1024 * 2 ^ 52 * (2 ^ 51) ^ 2 := by decide +kernel
  have limit : 2 ^ 1024 * unitsOfOne = overflow := by decide +kernel
  have product := lt_of_rounded positive small (ofNat_le n) (ofNat_le (10 ^ exponent))
    (Nat.div_mul_le_self _ _) (round_le (ofNat n * powerOfTen exponent) unitsOfOne) room
  rw [limit] at product
  rw [mul?, if_pos product]
  rfl

/-- A significand times a power of ten is a double if it is not too large. -/
theorem scale?_isSome {significand : Nat} {exponent : Int}
    (small : 0 ≤ exponent → significand * 10 ^ exponent.toNat ≤ 10 ^ largestPower) :
    (scale? significand exponent).isSome := by
  unfold scale?
  dsimp only
  split_ifs with below far nothing
  · rfl
  · exact mul?_powerOfTen_isSome (small (Int.not_lt.1 below))
  · rfl
  · -- A power of ten that is too large is the one of a zero.
    have zero : significand = 0 := by
      by_contra not_zero
      have power_le := (Nat.le_mul_of_pos_left _ (Nat.pos_of_ne_zero not_zero)).trans
        (small (Int.not_lt.1 below))
      exact far ((Nat.pow_le_pow_iff_right (by decide)).1 power_le)
    rw [zero] at nothing
    exact absurd (by decide) nothing

end Binary64

namespace Json.Number

/-- The number that digits stand for. -/
def value (digits : List Nat) : Nat :=
  digits.foldl (fun n d => 10 * n + d) 0

/-- All digits of a number, without the point. -/
def Lexeme.digits (x : Lexeme) : List Nat :=
  x.whole ++ x.fraction.getD []

/-- The power of ten of the last digit of a number. -/
def Lexeme.power (x : Lexeme) : Int :=
  (match x.exponent with
    | none => 0
    | some (below, digits) => if below then -(value digits : Int) else value digits) -
    (x.fraction.getD []).length

/-- The absolute value of a number is at most `10 ^ n`. -/
def Lexeme.AtMost (x : Lexeme) (n : Nat) : Prop :=
  value x.digits * 10 ^ x.power.toNat ≤ 10 ^ n * 10 ^ (-x.power).toNat

/-- Digits behind a number shift it. -/
theorem foldl_digits (n : Nat) (digits : List Nat) :
    digits.foldl (fun n d => 10 * n + d) n = n * 10 ^ digits.length + value digits := by
  induction digits generalizing n with
  | nil => simp [value]
  | cons d digits ih =>
    rw [value, List.foldl_cons, List.foldl_cons, ih, ih (10 * 0 + d), List.length_cons]
    ring

/-- Digits stand for a number that has no more digits. -/
theorem value_lt {digits : List Nat} (decimal : ∀ d ∈ digits, d < 10) :
    value digits < 10 ^ digits.length := by
  induction digits with
  | nil => exact Nat.one_pos
  | cons d digits ih =>
    obtain ⟨first, others⟩ := List.forall_mem_cons.1 decimal
    rw [value, List.foldl_cons, foldl_digits, List.length_cons]
    have rest := ih others
    have shifted := Nat.mul_le_mul_right (10 ^ digits.length) (Nat.le_of_lt_succ first)
    rw [Nat.pow_succ]
    linarith

/-- Digits that are left out make a number no larger, and there is a number in front of them. -/
theorem fill_le (n : Nat) {digits : List Nat} (decimal : ∀ d ∈ digits, d < 10) :
    (fill n digits).1 * 10 ^ (fill n digits).2.length ≤ digits.foldl (fun n d => 10 * n + d) n ∧
      (fill n digits).2.length ≤ digits.length ∧
      ((fill n digits).2 ≠ [] → 0 < (fill n digits).1) := by
  induction digits generalizing n with
  | nil => simp [fill]
  | cons d digits ih =>
    obtain ⟨first, others⟩ := List.forall_mem_cons.1 decimal
    rw [fill]
    split_ifs with fits
    · obtain ⟨le, length_le, some_left⟩ := ih (10 * n + d) others
      exact ⟨le, length_le.trans (Nat.le_succ _), some_left⟩
    · refine ⟨?_, Nat.le_refl _, fun _ => ?_⟩
      · rw [foldl_digits]
        exact Nat.le_add_right _ _
      · -- A single digit would fit.
        have ten_le : 10 ≤ wordLimit := by decide
        show 0 < n
        omega

/-- The digits that are kept of a number, with its power of ten, are at most ten times as much. -/
theorem kept_le {x : Lexeme} (decimal : ∀ d ∈ x.digits, d < 10) :
    let whole := fill 0 x.whole
    let all := fill whole.1 (x.fraction.getD [])
    all.1 * 10 ^ (whole.2.length + all.2.length) ≤ 10 * value x.digits ∧
      all.2.length ≤ (x.fraction.getD []).length := by
  obtain ⟨negative, whole, fraction, exponent⟩ := x
  intro kept all
  obtain ⟨decimal_whole, decimal_fraction⟩ := List.forall_mem_append.1 decimal
  obtain ⟨whole_le, -, some_left⟩ := fill_le 0 decimal_whole
  obtain ⟨all_le, length_le, -⟩ := fill_le kept.1 decimal_fraction
  refine ⟨?_, length_le⟩
  have below := value_lt decimal_fraction
  rw [foldl_digits] at all_le
  have digits : value (Lexeme.digits ⟨negative, whole, fraction, exponent⟩) =
      value whole * 10 ^ (fraction.getD []).length + value (fraction.getD []) := by
    rw [Lexeme.digits, value, List.foldl_append, foldl_digits]
    rfl
  rw [digits]
  generalize value (fraction.getD []) = behind at *
  generalize 10 ^ (fraction.getD []).length = shift at *
  change kept.1 * 10 ^ kept.2.length ≤ value whole at whole_le
  change all.1 * 10 ^ all.2.length ≤ kept.1 * shift + behind at all_le
  rw [Nat.pow_add]
  by_cases nothing : kept.2 = []
  · rw [nothing, List.length_nil, Nat.pow_zero] at whole_le ⊢
    have shifted := Nat.mul_le_mul_right shift whole_le
    linarith
  · -- The digits behind the point are less than one, and the kept ones are one at least.
    have one_le : shift ≤ kept.1 * shift := Nat.le_mul_of_pos_left _ (some_left nothing)
    calc all.1 * (10 ^ kept.2.length * 10 ^ all.2.length)
        = all.1 * 10 ^ all.2.length * 10 ^ kept.2.length := by ring
      _ ≤ (10 * (kept.1 * shift)) * 10 ^ kept.2.length :=
        Nat.mul_le_mul_right _ (by linarith)
      _ = 10 * (kept.1 * 10 ^ kept.2.length * shift) := by ring
      _ ≤ 10 * (value whole * shift + behind) :=
        Nat.mul_le_mul_left _ ((Nat.mul_le_mul_right _ whole_le).trans (Nat.le_add_right _ _))

/-- A number that is not zero has no power of ten above its absolute value. -/
theorem Lexeme.AtMost.power_le {x : Lexeme} {n : Nat} (small : x.AtMost n)
    (positive : 0 < value x.digits) : x.power ≤ n := by
  by_contra above
  have no_places : (-x.power).toNat = 0 := by omega
  rw [AtMost, no_places, Nat.pow_zero, Nat.mul_one] at small
  have power_le := (Nat.pow_le_pow_iff_right (by decide)).1
    ((Nat.le_mul_of_pos_left _ positive).trans small)
  omega

/-- What is kept of a number whose absolute value is at most `10 ^ 307` is at most ten times as
much. -/
theorem Lexeme.AtMost.kept {x : Lexeme} (small : x.AtMost 307) {n left : Nat}
    (kept : n * 10 ^ left ≤ 10 * value x.digits) (whole : 0 ≤ x.power + left) :
    n * 10 ^ (x.power + left).toNat ≤ 10 ^ Binary64.largestPower := by
  have places : (x.power + left).toNat + (-x.power).toNat = left + x.power.toNat := by omega
  have ten_times : 10 * 10 ^ 307 = 10 ^ Binary64.largestPower := by decide +kernel
  refine Nat.le_of_mul_le_mul_right ?_ (Nat.pow_pos (n := (-x.power).toNat) (Nat.succ_pos 9))
  calc n * 10 ^ (x.power + left).toNat * 10 ^ (-x.power).toNat
      = n * 10 ^ left * 10 ^ x.power.toNat := by
        rw [Nat.mul_assoc, Nat.mul_assoc, ← Nat.pow_add, ← Nat.pow_add, places]
    _ ≤ 10 * value x.digits * 10 ^ x.power.toNat := Nat.mul_le_mul_right _ kept
    _ = 10 * (value x.digits * 10 ^ x.power.toNat) := Nat.mul_assoc ..
    _ ≤ 10 * (10 ^ 307 * 10 ^ (-x.power).toNat) := Nat.mul_le_mul_left _ small
    _ = 10 ^ Binary64.largestPower * 10 ^ (-x.power).toNat := by
        rw [← Nat.mul_assoc, ten_times]

/-- A number whose absolute value is at most `10 ^ 307` has a double. -/
theorem double?_isSome {x : Lexeme} (decimal : ∀ d ∈ x.digits, d < 10)
    (short : (x.fraction.getD []).length ≤ 2 ^ 30) (small : x.AtMost 307) :
    (double? x).isSome := by
  obtain ⟨kept, length_le⟩ := kept_le decimal
  have kept_small := small.kept kept
  unfold double?
  dsimp only at kept kept_small length_le ⊢
  rcases whole : fill 0 x.whole with ⟨n, wholeLeft⟩
  rw [whole] at kept kept_small length_le
  rcases all : fill n (x.fraction.getD []) with ⟨n', fractionLeft⟩
  rw [all] at kept kept_small length_le
  dsimp only at kept kept_small length_le ⊢
  -- Whatever the exponent is, what is scaled is what is kept.
  have scaled {place : Int}
      (same : place = x.power + (wholeLeft.length + fractionLeft.length : Nat)) :
      ((Binary64.scale? n' place).map (Binary64.mk x.negative)).isSome := by
    rw [Option.isSome_map, same]
    exact Binary64.scale?_isSome kept_small
  have power : x.power = _ - ((x.fraction.getD []).length : Int) := rfl
  rcases exponent : x.exponent with _ | ⟨_ | _, digits⟩ <;> rw [exponent] at power
  · change x.power = 0 - _ at power
    exact scaled (by omega)
  · change x.power = (value digits : Int) - _ at power
    change (if exponentLimit < value digits then if n' ≠ 0 ∧ true = true then none else some _
      else Option.map _ (Binary64.scale? n' (_ + (value digits : Int)))).isSome
    split_ifs with far large
    · -- With so large an exponent there are many digits behind the point, or all of them are zero.
      have limit : exponentLimit = 2147483647 := rfl
      have kept_pos := Nat.mul_pos (Nat.pos_of_ne_zero large.1)
        (Nat.pow_pos (n := wholeLeft.length + fractionLeft.length) (by decide : 0 < 10))
      have power_le := small.power_le (by omega)
      omega
    · rfl
    · exact scaled (by omega)
  · change x.power = -(value digits : Int) - _ at power
    change (if exponentLimit < value digits then if n' ≠ 0 ∧ false = true then none else some _
      else Option.map _ (Binary64.scale? n' (_ - (value digits : Int)))).isSome
    split_ifs with far large
    · exact large.2.elim
    · rfl
    · exact scaled (by omega)

/-- A number is read if its absolute value is at most `10 ^ 307`. -/
theorem eval?_isSome {x : Lexeme} (decimal : ∀ d ∈ x.digits, d < 10)
    (short : (x.fraction.getD []).length ≤ 2 ^ 30) (small : x.AtMost 307) :
    (eval? x).isSome := by
  have double := double?_isSome decimal short small
  unfold eval?
  split
  · split_ifs <;> rfl
  · rwa [Option.isSome_map]

end Json.Number

namespace Json

/-- Digits are decimal. -/
theorem SpellsDigits.decimal {octets : Bytes} {digits : List Nat}
    (spells : SpellsDigits octets digits) : ∀ d ∈ digits, d < 10 := by
  rw [spells.value, List.forall_mem_map]
  intro b mem
  have digit := spells.digit b mem
  simp only [Number.isDigit, Bool.and_eq_true, decide_eq_true_iff, UInt8.le_iff_toNat_le] at digit
  have last : (57 : UInt8).toNat = 57 := rfl
  omega

/-- The digits of a number are decimal. -/
theorem SpellsNumber.decimal {octets : Bytes} {x : Number.Lexeme} (spells : SpellsNumber octets x) :
    ∀ d ∈ x.digits, d < 10 := by
  cases spells with
  | mk spellsWhole alone spellsFraction spellsExponent =>
    refine List.forall_mem_append.2 ⟨spellsWhole.decimal, ?_⟩
    cases spellsFraction with
    | none => exact fun d mem => absurd mem List.not_mem_nil
    | some spells => exact spells.decimal

/-- Every number whose absolute value is at most `10 ^ 307` is in the range of the reader. -/
theorem SpellsNumber.exists_spells {octets : Bytes} {x : Number.Lexeme}
    (spells : SpellsNumber octets x) (short : (x.fraction.getD []).length ≤ 2 ^ 30)
    (small : x.AtMost 307) (depth : Nat) : ∃ n, Spells depth octets (.number n) := by
  obtain ⟨n, read⟩ := Option.isSome_iff_exists.1 (Number.eval?_isSome spells.decimal short small)
  exact ⟨n, .number spells read⟩

end Json

end PeerLink
