/-!
# Decimal text

The digits of a natural number without leading zeros, and the number that such a text denotes.
-/

namespace PeerLink.Text.Decimal

/-- The decimal digits of a number, without leading zeros. -/
def digits (n : Nat) : List Char :=
  Nat.toDigits 10 n

/-- The decimal text of a number. -/
def text (n : Nat) : String :=
  String.ofList (digits n)

/-- The value of a decimal digit. -/
def digit? (c : Char) : Option Nat :=
  if '0' ≤ c ∧ c ≤ '9' then some (c.toNat - 48) else none

/-- The number denoted by at least one digit; leading zeros are read. -/
def read? (text : List Char) : Option Nat :=
  if text.isEmpty then none
  else text.foldlM (fun n c => (digit? c).map (10 * n + ·)) 0

/-- The number denoted by at least one digit, with or without a plus sign in front. -/
def readSigned? : List Char → Option Nat
  | '+' :: text => read? text
  | text => read? text

/-- The number at most `limit` whose digits, without leading zeros, are the text. -/
def parse? (limit : Nat) (text : List Char) : Option Nat :=
  (read? text).filter fun n => decide (n ≤ limit) && digits n == text

end PeerLink.Text.Decimal
