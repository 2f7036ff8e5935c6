import PeerLink.Bytes

/-!
# UTF-8

The octets of a text and back. `encode` writes each character in one to four octets; `decode?` reads
a whole byte string and refuses a stray or missing continuation octet, an overlong form, a surrogate
and a code point above `0x10ffff`.
-/

namespace PeerLink.Utf8

/-- The octets of one character. -/
def encodeChar (c : Char) : Bytes :=
  let n := c.toNat
  if n < 0x80 then [UInt8.ofNat n]
  else if n < 0x800 then [UInt8.ofNat (0xc0 + n / 64), UInt8.ofNat (0x80 + n % 64)]
  else if n < 0x10000 then
    [UInt8.ofNat (0xe0 + n / 4096), UInt8.ofNat (0x80 + n / 64 % 64), UInt8.ofNat (0x80 + n % 64)]
  else
    [UInt8.ofNat (0xf0 + n / 262144), UInt8.ofNat (0x80 + n / 4096 % 64),
      UInt8.ofNat (0x80 + n / 64 % 64), UInt8.ofNat (0x80 + n % 64)]

/-- The octets of a text, given by its characters. -/
def encode (text : List Char) : Bytes :=
  text.flatMap encodeChar

/-- The six low bits of a continuation octet, if it is one. -/
def continuation? (b : UInt8) : Option Nat :=
  if 0x80 ≤ b.toNat ∧ b.toNat < 0xc0 then some (b.toNat - 0x80) else none

/-- The character of a code point that needs at least `least` to be written in this many octets. -/
def charAbove? (least n : Nat) : Option Char :=
  if h : n.isValidChar then if least ≤ n then some (Char.ofNatAux n h) else none else none

/-- The first character of a byte string and the number of its octets. -/
def first? : Bytes → Option (Char × Nat)
  | [] => none
  | a :: rest =>
    let n := a.toNat
    if n < 0x80 then (charAbove? 0 n).map (·, 1)
    else if n < 0xc0 then none
    else if n < 0xe0 then
      match rest with
      | b :: _ => do
        let x ← continuation? b
        (charAbove? 0x80 (64 * (n - 0xc0) + x)).map (·, 2)
      | _ => none
    else if n < 0xf0 then
      match rest with
      | b :: c :: _ => do
        let x ← continuation? b
        let y ← continuation? c
        (charAbove? 0x800 (4096 * (n - 0xe0) + 64 * x + y)).map (·, 3)
      | _ => none
    else if n < 0xf8 then
      match rest with
      | b :: c :: d :: _ => do
        let x ← continuation? b
        let y ← continuation? c
        let z ← continuation? d
        (charAbove? 0x10000 (262144 * (n - 0xf0) + 4096 * x + 64 * y + z)).map (·, 4)
      | _ => none
    else none

/-- Reads characters one after the other, the ones already read in reverse order; `pending` counts
the octets that belong to the character read last. -/
def decodeFrom (read : List Char) : (pending : Nat) → Bytes → Option (List Char)
  | 0, [] => some read.reverse
  | _ + 1, [] => none
  | pending + 1, _ :: rest => decodeFrom read pending rest
  | 0, b :: rest =>
    match first? (b :: rest) with
    | none => none
    | some (c, size) => decodeFrom (c :: read) (size - 1) rest

/-- The characters of a byte string, if it is well formed. -/
def decode? (bytes : Bytes) : Option (List Char) :=
  decodeFrom [] 0 bytes

end PeerLink.Utf8
