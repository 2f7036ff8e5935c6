import PeerLink.Key

/-!
# Suites of primitives

The cryptography that a secure channel is built on, as functions: the channel's protocol uses
nothing else of it. Two honest peers understand each other if what is sealed can be unsealed
(`Suite.Opens`) and if both of them agree on the same secrets (`Suite.Agrees`).
-/

namespace PeerLink

/-- The number of octets of the tag behind a ciphertext. -/
def Suite.tagSize : Nat := 16

/-- The primitives of a secure channel. Keys of the cipher have 32 octets and nonces are numbers of
64 bits. -/
structure Suite where
  /-- The public key of a secret key. -/
  publicKey : SecretKey → PublicKey
  /-- The secret that the owner of a secret key agrees on with the owner of a public key. -/
  agree : SecretKey → PublicKey → Bytes
  /-- The hash, of 64 octets. -/
  hash : Bytes → Bytes
  /-- The ciphertext, with its tag, of associated data and a text. -/
  encrypt : (key : Bytes) → (nonce : Nat) → (ad text : Bytes) → Bytes
  /-- The text of a ciphertext with its tag, if it is authentic. -/
  decrypt? : (key : Bytes) → (nonce : Nat) → (ad ciphertext : Bytes) → Option Bytes
  /-- A ciphertext is as long as its text, with the tag behind. -/
  length_encrypt : ∀ key nonce ad text,
    (encrypt key nonce ad text).length = text.length + Suite.tagSize

namespace Suite

/-- The number of octets of a hash. -/
def hashSize : Nat := 64

/-- The number of octets that the hash takes at a time. -/
def blockSize : Nat := 128

/-- What is sealed can be unsealed with the same key, nonce and associated data. -/
def Opens (suite : Suite) : Prop :=
  ∀ key nonce ad text, suite.decrypt? key nonce ad (suite.encrypt key nonce ad text) = some text

/-- The owners of two key pairs agree on the same secret. -/
def Agrees (suite : Suite) (a b : SecretKey) : Prop :=
  suite.agree a (suite.publicKey b) = suite.agree b (suite.publicKey a)

/-- The keyed hash of a text: the key is padded to a block. -/
def hmac (suite : Suite) (key text : Bytes) : Bytes :=
  let block := key ++ List.replicate (blockSize - key.length) 0
  let inner := suite.hash (block.map (· ^^^ 0x36) ++ text)
  suite.hash (block.map (· ^^^ 0x5c) ++ inner)

/-- Two new secrets from a chaining secret and new material. -/
def derive (suite : Suite) (chaining material : Bytes) : Bytes × Bytes :=
  let secret := suite.hmac chaining material
  let first := suite.hmac secret [1]
  (first, suite.hmac secret (first ++ [2]))

/-- The next key of a chain of keys: the first 32 octets of zeros encrypted with the last nonce. -/
def nextKey (suite : Suite) (key : Bytes) : Bytes :=
  (suite.encrypt key (UInt64.size - 1) [] (List.replicate 32 0)).take 32

end Suite

end PeerLink
