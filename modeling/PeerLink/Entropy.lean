import PeerLink.Hex
import PeerLink.Text.Blank

/-!
# Entropy

The 64 random octets that a node's identity starts from. They are kept in a file as hexadecimal
text; blank characters around the text are ignored.
-/

namespace PeerLink

/-- The random octets of a node. -/
structure Entropy where
  /-- The octets. -/
  bytes : Bytes
  /-- There are 64 octets. -/
  length_bytes : bytes.length = 64
  deriving DecidableEq

namespace Entropy

/-- The number of octets. -/
def size : Nat := 64

/-- The hexadecimal text of the octets. -/
def text (entropy : Entropy) : String :=
  Hex.encode entropy.bytes

/-- What a description shows, which is never the octets. -/
def describe (_ : Entropy) : String :=
  "Entropy(\"..\")"

/-- The entropy of a byte string of the right size. -/
def ofBytes? (bytes : Bytes) : Option Entropy :=
  if h : bytes.length = 64 then some ⟨bytes, h⟩ else none

/-- The entropy of its exact text (`from_str`). -/
def ofText (text : String) : Except HexError Entropy :=
  match Hex.decodeExactly size text with
  | .error e => .error e
  | .ok bytes =>
    match ofBytes? bytes with
    | none => .error .invalidStringLength
    | some entropy => .ok entropy

/-- The entropy of a text with blank characters around it. -/
def parse (text : String) : Except HexError Entropy :=
  ofText (String.ofList (Text.trim text.toList))

/-- The entropy taken from a source of random octets (`generate`), which is used again from its
start when it is short; an empty source gives zeros. -/
def generate (source : Bytes) : Entropy :=
  ⟨(List.range size).map fun i => source.getD (i % source.length) 0, by simp [size]⟩

end Entropy

end PeerLink
