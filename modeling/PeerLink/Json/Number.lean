import PeerLink.Json.Basic
import PeerLink.Bytes

/-!
# Numbers in JSON text

A number is first cut from the front of a text and then evaluated. Whole numbers that fit a word of
64 bits keep their value; all others become doubles, from the leading digits that fit such a word
and a power of ten.
-/

namespace PeerLink.Json.Number

/-- The parts of a number as it is written. -/
structure Lexeme where
  /-- Whether there is a minus sign. -/
  negative : Bool
  /-- The digits before the point. -/
  whole : List Nat
  /-- The digits after the point, if there is a point. -/
  fraction : Option (List Nat)
  /-- The sign (true for minus) and the digits of the exponent, if there is one. -/
  exponent : Option (Bool × List Nat)

/-- Whether an octet is a decimal digit. -/
def isDigit (b : UInt8) : Bool :=
  48 ≤ b && b ≤ 57

/-- The values of the digits at the front of a text. -/
def digits (text : Bytes) : List Nat :=
  (text.takeWhile isDigit).map fun b => b.toNat - 48

/-- The text behind the digits at its front. -/
def afterDigits (text : Bytes) : Bytes :=
  text.dropWhile isDigit

/-- The fault of a text that goes on with something else than a digit where one must stand. -/
def digitFault (text : Bytes) : Fault :=
  if text.isEmpty then .truncated else .malformed

/-- The text behind the sign at its front, if there is one. -/
def afterSign (text : Bytes) : Bytes :=
  if text.head? = some 45 ∨ text.head? = some 43 then text.tail else text

/-- Cuts the exponent from a text, if there is one. -/
def cutExponent (text : Bytes) : Except Fault (Option (Bool × List Nat) × Bytes) :=
  match text with
  | mark :: rest =>
    if mark = 101 ∨ mark = 69 then
      if digits (afterSign rest) = [] then .error (digitFault (afterSign rest))
      else .ok (some (rest.head? == some 45, digits (afterSign rest)), afterDigits (afterSign rest))
    else .ok (none, text)
  | [] => .ok (none, text)

/-- Cuts the point and the digits behind it from a text, if there is a point. -/
def cutFraction (text : Bytes) : Except Fault (Option (List Nat) × Bytes) :=
  match text with
  | mark :: rest =>
    if mark = 46 then
      if digits rest = [] then .error (digitFault rest)
      else .ok (some (digits rest), afterDigits rest)
    else .ok (none, text)
  | [] => .ok (none, text)

/-- Cuts the digits before the point from a text: a zero stands alone. -/
def cutWhole (text : Bytes) : Except Fault (List Nat × Bytes) :=
  match digits text with
  | [] => .error (digitFault text)
  | 0 :: _ :: _ => .error .malformed
  | whole => .ok (whole, afterDigits text)

/-- Cuts a number from the front of a text. -/
def cut (text : Bytes) : Except Fault (Lexeme × Bytes) := do
  let negative := text.head? == some 45
  let (whole, text) ← cutWhole (if negative then text.drop 1 else text)
  let (fraction, text) ← cutFraction text
  let (exponent, text) ← cutExponent text
  .ok (⟨negative, whole, fraction, exponent⟩, text)

/-- The first number that does not fit a word of 64 bits. -/
def wordLimit : Nat := UInt64.size

/-- Appends digits to a number as long as it fits a word; gives the number and the digits left. -/
def fill (n : Nat) : List Nat → Nat × List Nat
  | [] => (n, [])
  | d :: rest => if 10 * n + d < wordLimit then fill (10 * n + d) rest else (n, d :: rest)

/-- The largest exponent that is told from a larger one. -/
def exponentLimit : Nat := UInt32.size / 2 - 1

/-- The double of the leading digits and a power of ten; `none` if it is too large. -/
def double? (x : Lexeme) : Option Binary64 :=
  let (n, wholeLeft) := fill 0 x.whole
  let fraction := x.fraction.getD []
  let (n, fractionLeft) := fill n fraction
  -- A digit left before the point is a power of ten more, and one left behind it is nothing.
  let place : Int := (wholeLeft.length : Int) - (fraction.length - fractionLeft.length : Nat)
  match x.exponent with
  | none => (Binary64.scale? n place).map (⟨x.negative, ·⟩)
  | some (below, exponent) =>
    let e := exponent.foldl (fun e d => 10 * e + d) 0
    if exponentLimit < e then
      if n ≠ 0 ∧ !below then none else some ⟨x.negative, 0⟩
    else
      let power := if below then place - e else place + e
      (Binary64.scale? n power).map (⟨x.negative, ·⟩)

/-- The value of a number; `none` if it is too large for a double. -/
def eval? (x : Lexeme) : Option Number :=
  match x.fraction, x.exponent, fill 0 x.whole with
  | none, none, (n, []) =>
    if x.negative then
      -- Minus zero is no whole number, and neither is what does not fit a signed word.
      if n = 0 ∨ wordLimit / 2 < n then some (.double ⟨true, Binary64.ofNat n⟩)
      else some (.integer (-n))
    else some (.integer n)
  | _, _, _ => (double? x).map .double

/-! ## What is left is shorter -/

/-- Digits cut from a text make it no longer. -/
theorem length_afterDigits_le (text : Bytes) : (afterDigits text).length ≤ text.length := by
  unfold afterDigits
  have h := List.takeWhile_append_dropWhile (p := isDigit) (l := text)
  have := congrArg List.length h
  simp only [List.length_append] at this
  omega

/-- A text that begins with a digit is shorter without its digits. -/
theorem length_afterDigits_lt {text : Bytes} (h : digits text ≠ []) :
    (afterDigits text).length < text.length := by
  cases text with
  | nil => simp [digits] at h
  | cons b rest =>
    by_cases hb : isDigit b = true
    · have := length_afterDigits_le rest
      simp only [afterDigits, List.dropWhile_cons, hb, if_true, List.length_cons] at *
      omega
    · simp [digits, hb] at h

/-- What is left behind the digits before the point is shorter. -/
theorem length_cutWhole {text rest : Bytes} {whole : List Nat}
    (h : cutWhole text = .ok (whole, rest)) : rest.length < text.length := by
  unfold cutWhole at h
  split at h
  · simp at h
  · simp at h
  · rename_i hne _
    simp only [Except.ok.injEq, Prod.mk.injEq] at h
    rw [← h.2]
    exact length_afterDigits_lt hne

/-- What is left behind a fraction is not longer. -/
theorem length_cutFraction {text rest : Bytes} {fraction : Option (List Nat)}
    (h : cutFraction text = .ok (fraction, rest)) : rest.length ≤ text.length := by
  unfold cutFraction at h
  split at h
  · rename_i mark tail
    split at h
    · split at h
      · simp at h
      · simp only [Except.ok.injEq, Prod.mk.injEq] at h
        have := length_afterDigits_le tail
        rw [← h.2, List.length_cons]
        omega
    · simp only [Except.ok.injEq, Prod.mk.injEq] at h
      simp [← h.2]
  · simp only [Except.ok.injEq, Prod.mk.injEq] at h
    simp [← h.2]

/-- A sign cut from a text makes it no longer. -/
theorem length_afterSign_le (text : Bytes) : (afterSign text).length ≤ text.length := by
  unfold afterSign
  split <;> simp

/-- What is left behind an exponent is not longer. -/
theorem length_cutExponent {text rest : Bytes} {exponent : Option (Bool × List Nat)}
    (h : cutExponent text = .ok (exponent, rest)) : rest.length ≤ text.length := by
  unfold cutExponent at h
  split at h
  · rename_i mark tail
    split at h
    · split at h
      · simp at h
      · simp only [Except.ok.injEq, Prod.mk.injEq] at h
        have h1 := length_afterDigits_le (afterSign tail)
        have h2 := length_afterSign_le tail
        rw [← h.2, List.length_cons]
        omega
    · simp only [Except.ok.injEq, Prod.mk.injEq] at h
      simp [← h.2]
  · simp only [Except.ok.injEq, Prod.mk.injEq] at h
    simp [← h.2]

/-- What is left behind a number is shorter than the text with the number. -/
theorem length_cut {text rest : Bytes} {x : Lexeme} (h : cut text = .ok (x, rest)) :
    rest.length < text.length := by
  unfold cut at h
  simp only [bind, Except.bind] at h
  split at h
  · simp at h
  · rename_i whole hw
    split at h
    · simp at h
    · rename_i fraction hf
      split at h
      · simp at h
      · rename_i exponent he
        simp only [Except.ok.injEq, Prod.mk.injEq] at h
        have h1 := @length_cutWhole _ whole.2 whole.1 hw
        have h2 := @length_cutFraction _ fraction.2 fraction.1 hf
        have h3 := @length_cutExponent _ exponent.2 exponent.1 he
        have h4 : (if (text.head? == some 45) = true then text.drop 1 else text).length
            ≤ text.length := by split <;> simp
        rw [← h.2]
        omega

end PeerLink.Json.Number
