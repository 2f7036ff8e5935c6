import PeerLink.Crypto.ChaCha20
import PeerLink.Crypto.Poly1305

/-!
# Authenticated encryption

A text is combined with the key stream of ChaCha20 and followed by the Poly1305 tag of the
associated data and the ciphertext. A nonce is a number of 64 bits behind four zero octets.
-/

namespace PeerLink.Aead

/-- The octets of a nonce. -/
def nonceOctets (nonce : Nat) : Bytes :=
  [0, 0, 0, 0] ++ Bytes.ofNatLE 8 nonce

/-- Zeros that fill a text up to a multiple of sixteen octets. -/
def padding (text : Bytes) : Bytes :=
  List.replicate ((16 - text.length % 16) % 16) 0

/-- The tag of associated data and a ciphertext. -/
def tag (key : Bytes) (nonce : Nat) (ad ciphertext : Bytes) : Bytes :=
  let once := ChaCha20.apply key (nonceOctets nonce) 0 (List.replicate 32 0)
  Poly1305.tag once (ad ++ padding ad ++ ciphertext ++ padding ciphertext ++
    Bytes.ofNatLE 8 ad.length ++ Bytes.ofNatLE 8 ciphertext.length)

/-- The ciphertext of a text, with its tag behind. -/
def encrypt (key : Bytes) (nonce : Nat) (ad text : Bytes) : Bytes :=
  let ciphertext := ChaCha20.apply key (nonceOctets nonce) 1 text
  ciphertext ++ tag key nonce ad ciphertext

/-- The text of a ciphertext with its tag behind, if the tag is the right one. -/
def decrypt? (key : Bytes) (nonce : Nat) (ad sealed : Bytes) : Option Bytes :=
  let size := sealed.length - 16
  let ciphertext := sealed.take size
  if 16 ≤ sealed.length ∧ sealed.drop size = tag key nonce ad ciphertext then
    some (ChaCha20.apply key (nonceOctets nonce) 1 ciphertext)
  else none

/-- A ciphertext is as long as its text, with the tag behind. -/
@[simp]
theorem length_encrypt (key : Bytes) (nonce : Nat) (ad text : Bytes) :
    (encrypt key nonce ad text).length = text.length + 16 := by
  simp [encrypt, tag]

end PeerLink.Aead
