import PeerLink.Bytes
import PeerLink.Text.Decimal

/-!
# Network addresses

Addresses of the two network families and their canonical texts: four decimal numbers for `ip4`, and
for `ip6` eight hexadecimal groups of which the first longest run of at least two zero groups is
written `::`. The addresses that embed an `ip4` address are written with its four decimal numbers
behind `::ffff:`. An address is read from its canonical text and from no other.
-/

namespace PeerLink

/-- The network families. -/
inductive Family where
  /-- Addresses of 32 bits. -/
  | ip4
  /-- Addresses of 128 bits. -/
  | ip6
  deriving DecidableEq, Repr

/-- The name of a family, as the first segment of a peer address spells it. -/
def Family.name : Family → String
  | ip4 => "ip4"
  | ip6 => "ip6"

/-- The family of a name. -/
def Family.ofName? (name : String) : Option Family :=
  if name = "ip4" then some ip4 else if name = "ip6" then some ip6 else none

/-- Families are ordered: `ip4` is before `ip6`. -/
instance : Ord Family where
  compare
    | .ip4, .ip6 => .lt
    | .ip6, .ip4 => .gt
    | _, _ => .eq

/-- An address of 32 bits, as four octets. -/
structure Ip4 where
  /-- The first octet. -/
  a : UInt8
  /-- The second octet. -/
  b : UInt8
  /-- The third octet. -/
  c : UInt8
  /-- The fourth octet. -/
  d : UInt8
  deriving DecidableEq, Repr

namespace Ip4

/-- The four octets. -/
def octets (host : Ip4) : Bytes :=
  [host.a, host.b, host.c, host.d]

/-- The address of four octets. -/
def ofOctets? : Bytes → Option Ip4
  | [a, b, c, d] => some ⟨a, b, c, d⟩
  | _ => none

/-- The characters of the canonical text. -/
def chars (host : Ip4) : List Char :=
  List.intercalate ['.'] (host.octets.map fun b => Text.Decimal.digits b.toNat)

/-- The address of a canonical text. -/
def ofChars? (text : List Char) : Option Ip4 := do
  let numbers ← (text.splitOn '.').mapM (Text.Decimal.parse? 255)
  ofOctets? (numbers.map UInt8.ofNat)

end Ip4

/-- An address of 128 bits, as eight groups of 16 bits. -/
structure Ip6 where
  /-- The groups, the most significant first. -/
  groups : List UInt16
  /-- There are eight groups. -/
  length_groups : groups.length = 8
  deriving DecidableEq, Repr

namespace Ip6

/-- The address of eight groups. -/
def ofGroups? (groups : List UInt16) : Option Ip6 :=
  if h : groups.length = 8 then some ⟨groups, h⟩ else none

/-- The groups written by pairs of octets, the high octet first. -/
def pairOctets : Bytes → List UInt16
  | high :: low :: rest => UInt16.ofNat (256 * high.toNat + low.toNat) :: pairOctets rest
  | _ => []

/-- The address of sixteen octets. -/
def ofOctets? (octets : Bytes) : Option Ip6 :=
  if octets.length = 16 then ofGroups? (pairOctets octets) else none

/-- The hexadecimal digits of a group, without leading zeros. -/
def groupChars (group : UInt16) : List Char :=
  Nat.toDigits 16 group.toNat

/-- Groups between colons. -/
def groupsChars (groups : List UInt16) : List Char :=
  List.intercalate [':'] (groups.map groupChars)

/-- The number of zero groups at the start. -/
def zeroRun (groups : List UInt16) : Nat :=
  (groups.takeWhile (· == 0)).length

/-- The start and the length of the first longest run of zero groups; `start` is the place of the
first of these groups. -/
def longestZeroRun (start : Nat) : List UInt16 → Nat × Nat
  | [] => (start, 0)
  | group :: rest =>
    let here := zeroRun (group :: rest)
    let later := longestZeroRun (start + 1) rest
    if later.2 ≤ here then (start, here) else later

/-- The `ip4` address in the last two groups. -/
def embedded (high low : UInt16) : Ip4 :=
  ⟨UInt8.ofNat (high.toNat / 256), UInt8.ofNat high.toNat, UInt8.ofNat (low.toNat / 256),
    UInt8.ofNat low.toNat⟩

/-- The address that embeds an `ip4` address. -/
def ofIp4 (host : Ip4) : Ip6 :=
  ⟨[0, 0, 0, 0, 0, 0xffff] ++ pairOctets host.octets, rfl⟩

/-- The text in front of an embedded `ip4` address. -/
def embeddedMark : List Char :=
  "::ffff:".toList

/-- The characters of the canonical text. -/
def chars (host : Ip6) : List Char :=
  match host.groups with
  | [0, 0, 0, 0, 0, 0xffff, high, low] => embeddedMark ++ (embedded high low).chars
  | groups =>
    let (start, length) := longestZeroRun 0 groups
    if length < 2 then groupsChars groups
    else groupsChars (groups.take start) ++ [':', ':'] ++ groupsChars (groups.drop (start + length))

/-- The value of a hexadecimal digit in lower case. -/
def digit? (c : Char) : Option Nat :=
  if '0' ≤ c ∧ c ≤ '9' then some (c.toNat - 48)
  else if 'a' ≤ c ∧ c ≤ 'f' then some (c.toNat - 87)
  else none

/-- The group of one to four digits. -/
def groupOfChars? (text : List Char) : Option UInt16 :=
  if text.isEmpty ∨ 4 < text.length then none
  else (text.foldlM (fun n c => (digit? c).map (16 * n + ·)) 0).map UInt16.ofNat

/-- The groups between the colons of a text; the empty text has none. -/
def groupsOfChars? (text : List Char) : Option (List UInt16) :=
  if text.isEmpty then some [] else (text.splitOn ':').mapM groupOfChars?

/-- The text before the first `::`, in reverse order behind `before`, and the text after it. -/
def splitGap (before : List Char) : List Char → Option (List Char × List Char)
  | ':' :: ':' :: rest => some (before.reverse, rest)
  | c :: rest => splitGap (c :: before) rest
  | [] => none

/-- The address that a text denotes, whether or not the text is the canonical one. -/
def read? (text : List Char) : Option Ip6 :=
  match embeddedMark.isPrefixOf? text >>= Ip4.ofChars? with
  | some host => some (ofIp4 host)
  | none =>
    match splitGap [] text with
    | none => groupsOfChars? text >>= ofGroups?
    | some (left, right) => do
      let left ← groupsOfChars? left
      let right ← groupsOfChars? right
      ofGroups? (left ++ List.replicate (8 - left.length - right.length) 0 ++ right)

/-- The address of a canonical text. -/
def ofChars? (text : List Char) : Option Ip6 :=
  (read? text).filter fun host => host.chars == text

end Ip6

/-- An address of either family. -/
inductive IpAddress where
  /-- An address of 32 bits. -/
  | v4 (host : Ip4)
  /-- An address of 128 bits. -/
  | v6 (host : Ip6)
  deriving DecidableEq, Repr

namespace IpAddress

/-- The family of an address. -/
def family : IpAddress → Family
  | v4 _ => .ip4
  | v6 _ => .ip6

/-- The characters of the canonical text. -/
def chars : IpAddress → List Char
  | v4 host => host.chars
  | v6 host => host.chars

/-- The canonical text. -/
def text (host : IpAddress) : String :=
  String.ofList host.chars

/-- The address of the given family that has this canonical text. -/
def ofChars? : Family → List Char → Option IpAddress
  | .ip4, text => (Ip4.ofChars? text).map v4
  | .ip6, text => (Ip6.ofChars? text).map v6

/-- The address of four or of sixteen octets. -/
def ofOctets? (octets : Bytes) : Option IpAddress :=
  (Ip4.ofOctets? octets).map v4 <|> (Ip6.ofOctets? octets).map v6

/-- The address and a port in one text; the colons of an `ip6` address are kept apart by
brackets. -/
def socketText (host : IpAddress) (port : UInt16) : String :=
  match host with
  | v4 _ => host.text ++ ":" ++ Text.Decimal.text port.toNat
  | v6 _ => "[" ++ host.text ++ "]:" ++ Text.Decimal.text port.toNat

end IpAddress

end PeerLink
