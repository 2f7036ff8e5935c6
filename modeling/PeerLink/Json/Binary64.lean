import PeerLink.Text.Decimal

/-!
# Finite doubles

The finite binary floating point numbers of 64 bits, in exact arithmetic: the absolute value of a
double is a whole number of units of `2 ^ -1074`. Products and quotients are rounded to the nearest
double, a tie to the even one. The text of a double is the shortest decimal number that rounds to
it, in positional notation from `1e-5` to `1e16`.
-/

namespace PeerLink

/-- A finite double: its sign and its absolute value in units of `2 ^ -1074`. -/
structure Binary64 where
  /-- Whether the sign is set. -/
  negative : Bool
  /-- The absolute value in units of `2 ^ -1074`. -/
  units : Nat
  deriving DecidableEq, Repr

namespace Binary64

/-- The number of units in one. -/
def unitsOfOne : Nat := 1 <<< 1074

/-- The first number of units that is too large for a double. -/
def overflow : Nat := 1 <<< 2098

/-- The number of units between doubles of the magnitude of `n` units: 53 binary digits are kept. -/
def spacing (n : Nat) : Nat :=
  1 <<< (n.log2 + 1 - 53)

/-- The quotient rounded to the nearest whole number, a tie to the even one. -/
def nearest (num den : Nat) : Nat :=
  let q := num / den
  let twice := 2 * (num % den)
  if twice < den then q
  else if den < twice then q + 1
  else if q % 2 = 0 then q else q + 1

/-- The number of units of the double nearest to a quotient of units. -/
def round (num den : Nat) : Nat :=
  let step := spacing (num / den)
  step * nearest num (den * step)

/-- The units of the double nearest to a whole number. -/
def ofNat (n : Nat) : Nat :=
  round (n * unitsOfOne) 1

/-- The units of the product of two doubles, `none` when it is too large. -/
def mul? (a b : Nat) : Option Nat :=
  let product := round (a * b) unitsOfOne
  if product < overflow then some product else none

/-- The units of the quotient of two doubles. -/
def div (a b : Nat) : Nat :=
  round (a * unitsOfOne) b

/-- The largest power of ten that is a double has this exponent. -/
def largestPower : Nat := 308

/-- The units of the double nearest to a power of ten. -/
def powerOfTen (exponent : Nat) : Nat :=
  ofNat (Nat.pow 10 exponent)

/-- Divides by a power of ten, in steps of the largest one until the rest is a power of a double. -/
def divPowerOfTen (units exponent : Nat) : Nat :=
  if exponent ≤ largestPower then div units (powerOfTen exponent)
  else if units = 0 then 0
  else divPowerOfTen (div units (powerOfTen largestPower)) (exponent - largestPower)
termination_by exponent
decreasing_by simp_all [largestPower]; omega

/-- The units of a significand times a power of ten, `none` when this is too large. The significand
is made a double first and the power of ten is applied to it with rounding, in as few steps as the
largest power of ten allows. -/
def scale? (significand : Nat) (exponent : Int) : Option Nat :=
  let units := ofNat significand
  if exponent < 0 then some (divPowerOfTen units exponent.natAbs)
  else if exponent.toNat ≤ largestPower then mul? units (powerOfTen exponent.toNat)
  else if units = 0 then some 0
  else none

/-! ## Shortest decimal -/

/-- The numbers that round to a double of so many units: the distances, in half units, to the ends
below and above it, and whether the ends belong to it. -/
def roundingRange (units : Nat) : Nat × Nat × Bool :=
  let step := spacing units
  let below := if 1 < step ∧ units = step <<< 52 then step / 2 else step
  (below, step, units / step % 2 == 0)

/-- Whether `numerator / denominator`, in half units, rounds to the double of so many units. -/
def roundsTo (units numerator denominator : Nat) : Bool :=
  let (below, above, ends) := roundingRange units
  let low := (2 * units - below) * denominator
  let high := (2 * units + above) * denominator
  if ends then low ≤ numerator && numerator ≤ high else low < numerator && numerator < high

/-- The multiple of `10 ^ exponent` nearest to a double among its two neighbours that round to
it. -/
def onGrid? (units : Nat) (exponent : Int) : Option Nat :=
  -- `d * 10 ^ exponent` is `d * num / den` half units.
  let num := 2 * unitsOfOne * Nat.pow 10 exponent.toNat
  let den := Nat.pow 10 (-exponent).toNat
  let d := 2 * units * den / num
  let down := roundsTo units (d * num) den
  let up := roundsTo units ((d + 1) * num) den
  let remainder := 2 * units * den % num
  if down && up then
    if 2 * remainder < num then some d
    else if num < 2 * remainder then some (d + 1)
    else if d % 2 = 0 then some d else some (d + 1)
  else if down then some d
  else if up then some (d + 1)
  else none

/-- The shortest number of digits from `exponent` downwards. -/
def shortestFrom (units : Nat) : Nat → Int → Nat × Int
  | 0, exponent => ((onGrid? units exponent).getD 0, exponent)
  | more + 1, exponent =>
    match onGrid? units exponent with
    | some d => if d = 0 then shortestFrom units more (exponent - 1) else (d, exponent)
    | none => shortestFrom units more (exponent - 1)

/-- Drops the zeros at the end of a number and counts them into the exponent. -/
def dropZeros (exponent : Int) (d : Nat) : Nat × Int :=
  if h : d ≠ 0 ∧ d % 10 = 0 then dropZeros (exponent + 1) (d / 10) else (d, exponent)
termination_by d
decreasing_by omega

/-- An exponent above the first digit of a double. -/
def topExponent (units : Nat) : Int :=
  ((units.log2 : Int) - 1074) * 30103 / 100000 + 2

/-- The digits and the exponent of ten of the shortest decimal number that rounds to a double; of
several it is the nearest. -/
def shortest (units : Nat) : Nat × Int :=
  let (d, exponent) := shortestFrom units 24 (topExponent units)
  dropZeros exponent d

/-- The text of digits times a power of ten: positional if the point falls at most five places
before the first digit and at most sixteen behind it, and with an exponent otherwise. -/
def layout (digits : List Char) (exponent : Int) : List Char :=
  let size : Int := digits.length
  let point := size + exponent
  if 0 ≤ exponent ∧ point ≤ 16 then
    digits ++ List.replicate exponent.toNat '0' ++ ['.', '0']
  else if 0 < point ∧ point ≤ 16 then
    digits.take point.toNat ++ '.' :: digits.drop point.toNat
  else if -5 < point ∧ point ≤ 0 then
    ['0', '.'] ++ List.replicate (-point).toNat '0' ++ digits
  else
    let power := point - 1
    let powerText := (if power < 0 then '-' else '+') :: Text.Decimal.digits power.natAbs
    match digits with
    | [d] => d :: 'e' :: powerText
    | d :: rest => d :: '.' :: (rest ++ 'e' :: powerText)
    | [] => []

/-- The characters of a double. -/
def chars (x : Binary64) : List Char :=
  let sign := if x.negative then ['-'] else []
  if x.units = 0 then sign ++ ['0', '.', '0']
  else
    let (d, exponent) := shortest x.units
    sign ++ layout (Text.Decimal.digits d) exponent

end Binary64

end PeerLink
