import PeerLink.Crypto.Aead
import PeerLink.Crypto.Blake2b
import PeerLink.Crypto.Curve25519
import PeerLink.Crypto.Suite

/-!
# The suite in use

Ed25519 keys with an agreement on the Montgomery form of their curve, BLAKE2b, and ChaCha20 with
Poly1305.
-/

namespace PeerLink

/-- The primitives that peers use. -/
def Suite.standard : Suite where
  publicKey secret := ⟨Curve25519.publicKey secret.seed, by
    simp [Curve25519.publicKey, Curve25519.Point.encode]⟩
  agree secret key := Curve25519.agree secret.seed key.bytes
  hash := Blake2b.hash
  encrypt := Aead.encrypt
  decrypt? := Aead.decrypt?
  length_encrypt := Aead.length_encrypt

end PeerLink
