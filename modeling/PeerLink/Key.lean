import PeerLink.Bytes
import PeerLink.Hex
import PeerLink.Text.Decimal

/-!
# Keys

The public key that identifies a peer, the secret key it is made from, and the DER form in which the
public key travels: a fixed preamble that names the algorithm, then the 32 octets of the key.
-/

namespace PeerLink

/-- A public key: any 32 octets. -/
structure PublicKey where
  /-- The octets of the key. -/
  bytes : Bytes
  /-- There are 32 octets. -/
  length_bytes : bytes.length = 32
  deriving DecidableEq, Repr

/-- A secret key: the seed of 32 octets. -/
structure SecretKey where
  /-- The octets of the seed. -/
  seed : Bytes
  /-- There are 32 octets. -/
  length_seed : seed.length = 32
  deriving DecidableEq, Repr

/-- The secret key of a seed of 32 octets. -/
def SecretKey.ofBytes? (seed : Bytes) : Option SecretKey :=
  if h : seed.length = 32 then some ⟨seed, h⟩ else none

/-- Why octets or hexadecimal text are not the DER form of a public key. -/
inductive KeyError where
  /-- The text is not hexadecimal. -/
  | hex (cause : HexError)
  /-- The form does not have the length of a public key's. -/
  | invalidLength (received : Nat)
  /-- The preamble names something else than the algorithm of the keys. -/
  | invalidDer
  deriving DecidableEq, Repr

namespace PublicKey

/-- The public key of 32 octets. -/
def ofBytes? (bytes : Bytes) : Option PublicKey :=
  if h : bytes.length = 32 then some ⟨bytes, h⟩ else none

/-- The octets in front of the key in its DER form. -/
def derPreamble : Bytes :=
  [0x30, 0x2a, 0x30, 0x05, 0x06, 0x03, 0x2b, 0x65, 0x70, 0x03, 0x21, 0x00]

/-- The number of octets of the DER form. -/
def derSize : Nat := 44

/-- The DER form of a public key (`encode_public_key`). -/
def toDer (key : PublicKey) : Bytes :=
  derPreamble ++ key.bytes

/-- The public key of a DER form (`decode_public_key`). -/
def ofDer (der : Bytes) : Except KeyError PublicKey :=
  if h : der.length = derSize then
    if der.take 12 = derPreamble then .ok ⟨der.drop 12, by simp [h, derSize]⟩
    else .error .invalidDer
  else .error (.invalidLength der.length)

/-- The public key of the hexadecimal text of a DER form. -/
def ofDerHex (text : String) : Except KeyError PublicKey :=
  match Hex.decode text with
  | .error cause => .error (.hex cause)
  | .ok der => ofDer der

/-- The hexadecimal text of a public key. -/
def text (key : PublicKey) : String :=
  Hex.encode key.bytes

/-- How a public key is shown in a description of something that holds it. -/
def describe (key : PublicKey) : String :=
  "PublicKey<Ed25519>(" ++ Text.Quoted.text key.text ++ ")"

/-- The DER form has its fixed size. -/
@[simp]
theorem length_toDer (key : PublicKey) : key.toDer.length = derSize := by
  simp [toDer, derPreamble, key.length_bytes, derSize]

/-- A public key is read back from its DER form. -/
theorem ofDer_toDer (key : PublicKey) : ofDer key.toDer = .ok key := by
  simp [ofDer, length_toDer]
  simp [toDer, derPreamble]

end PublicKey

/-- The text of an error. -/
def KeyError.message : KeyError → String
  | hex _ => "Invalid hexadecimal encoding"
  | invalidLength received =>
    "Invalid DER length, expected " ++ Text.Decimal.text PublicKey.derSize ++
      " bytes but received " ++ Text.Decimal.text received
  | invalidDer => "Not a DER encoded Ed25519 public key"

end PeerLink
