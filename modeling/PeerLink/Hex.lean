import PeerLink.Bytes
import PeerLink.Text.Decimal
import PeerLink.Text.Quoted
import PeerLink.Text.Utf8

/-!
# Hexadecimal text

Octets as pairs of hexadecimal digits. Writing uses lower case; reading takes either case and
blames, in this order, an odd number of octets of text, a length other than the expected one, and
the first octet that is not a digit.
-/

namespace PeerLink

/-- Why a text is not the hexadecimal form of a byte string. -/
inductive HexError where
  /-- The text has an odd number of octets. -/
  | oddLength
  /-- The text does not have the length of the expected byte string. -/
  | invalidStringLength
  /-- The octet at this index of the text is not a hexadecimal digit. -/
  | invalidCharacter (octet : UInt8) (index : Nat)
  deriving DecidableEq, Repr

/-- The text of an error; the octet that is not a digit is shown as the character of its value. -/
def HexError.message : HexError → String
  | oddLength => "Odd number of digits"
  | invalidStringLength => "Invalid string length"
  | invalidCharacter octet index =>
    "Invalid character " ++ Text.Quoted.char (Char.ofNat octet.toNat) ++ " at position " ++
      Text.Decimal.text index

namespace Hex

/-- The digit of a number below sixteen. -/
def digit (n : Nat) : Char :=
  if n < 10 then Char.ofNat (48 + n) else Char.ofNat (87 + n)

/-- The two digits of each octet, the high one first. -/
def digits (bytes : Bytes) : List Char :=
  bytes.flatMap fun b => [digit (b.toNat / 16), digit (b.toNat % 16)]

/-- The hexadecimal text of a byte string, in lower case. -/
def encode (bytes : Bytes) : String :=
  String.ofList (digits bytes)

/-- The value of a hexadecimal digit of either case, given as an octet of text. -/
def value? (b : UInt8) : Option Nat :=
  if 48 ≤ b ∧ b ≤ 57 then some (b.toNat - 48)
  else if 65 ≤ b ∧ b ≤ 70 then some (b.toNat - 55)
  else if 97 ≤ b ∧ b ≤ 102 then some (b.toNat - 87)
  else none

/-- Reads pairs of digits from the octets of a text, the first of which is at `index`; `read` holds
the octets read so far in reverse order. -/
def decodeFrom (index : Nat) (read : Bytes) : Bytes → Except HexError Bytes
  | [] => .ok read.reverse
  | [_] => .error .oddLength
  | high :: low :: rest =>
    match value? high with
    | none => .error (.invalidCharacter high index)
    | some h =>
      match value? low with
      | none => .error (.invalidCharacter low (index + 1))
      | some l => decodeFrom (index + 2) (UInt8.ofNat (16 * h + l) :: read) rest

/-- The byte string written by pairs of digits. -/
def decode (text : String) : Except HexError Bytes :=
  let octets := Utf8.encode text.toList
  if octets.length % 2 = 1 then .error .oddLength else decodeFrom 0 [] octets

/-- The byte string of `size` octets written by pairs of digits. -/
def decodeExactly (size : Nat) (text : String) : Except HexError Bytes :=
  let octets := Utf8.encode text.toList
  if octets.length % 2 = 1 then .error .oddLength
  else if octets.length / 2 ≠ size then .error .invalidStringLength
  else decodeFrom 0 [] octets

end Hex

end PeerLink
