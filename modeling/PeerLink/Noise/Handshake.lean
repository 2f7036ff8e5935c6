import PeerLink.Noise.Sealing

/-!
# The handshake

The initiator knows the public key of the responder. It sends an ephemeral key and its own public
key, encrypted; the responder answers with an ephemeral key. Each message ends with an empty
payload that is encrypted too. Both sides mix every octet into a running hash, which starts from a
prologue that both must know alike, and every secret that they agree on into a chaining secret,
from which the keys of the two halves of the channel come.
-/

namespace PeerLink

namespace Noise

/-- The name of the protocol, which the running hash starts from. -/
def protocolName : Bytes :=
  Utf8.encode "Noise_IK_ed25519_ChaChaPoly_BLAKE2b".toList

/-- The secrets and the running hash of a handshake. -/
structure Symmetric where
  /-- The chaining secret. -/
  chaining : Bytes
  /-- The running hash. -/
  hash : Bytes
  /-- The key in use and the number of times it was used. -/
  sealing : Sealing
  deriving DecidableEq, Repr

namespace Symmetric

/-- Takes octets into the running hash. -/
def mixHash (suite : Suite) (bytes : Bytes) (s : Symmetric) : Symmetric :=
  { s with hash := suite.hash (s.hash ++ bytes) }

/-- Takes a secret into the chaining secret, and a new key into use. -/
def mixKey (suite : Suite) (secret : Bytes) (s : Symmetric) : Symmetric :=
  let (chaining, key) := suite.derive s.chaining secret
  { s with chaining, sealing := .start (key.take 32) }

/-- Encrypts octets under the running hash, and takes the ciphertext into it. -/
def encrypt (suite : Suite) (text : Bytes) (s : Symmetric) : Bytes × Symmetric :=
  let ciphertext := suite.encrypt s.sealing.key s.sealing.counter s.hash text
  (ciphertext,
    { s with sealing := { s.sealing with counter := s.sealing.counter + 1 } }.mixHash suite
      ciphertext)

/-- Decrypts octets under the running hash, and takes the ciphertext into it. -/
def decrypt? (suite : Suite) (ciphertext : Bytes) (s : Symmetric) : Option (Bytes × Symmetric) :=
  match suite.decrypt? s.sealing.key s.sealing.counter s.hash ciphertext with
  | none => none
  | some text =>
    some (text,
      { s with sealing := { s.sealing with counter := s.sealing.counter + 1 } }.mixHash suite
        ciphertext)

/-- The state before the first message: the name, the prologue and the responder's public key. -/
def start (suite : Suite) (prologue : Bytes) (responder : PublicKey) : Symmetric :=
  let name := protocolName ++ List.replicate (Suite.hashSize - protocolName.length) 0
  let s : Symmetric := ⟨name, name, .start []⟩
  (s.mixHash suite prologue).mixHash suite responder.bytes

/-- The keys of the two halves: the initiator sends with the first. -/
def split (suite : Suite) (s : Symmetric) : Sealing × Sealing :=
  let (first, second) := suite.derive s.chaining []
  (.start (first.take 32), .start (second.take 32))

end Symmetric

/-- A channel whose handshake is complete. -/
structure Established where
  /-- The half that this side sends with. -/
  sender : Sealing
  /-- The half that this side receives with. -/
  receiver : Sealing
  /-- The public key that the other side has proved to own. -/
  remote : PublicKey
  deriving DecidableEq, Repr

/-- The number of octets of a public key. -/
def keySize : Nat := 32

/-- The number of octets of the first message. -/
def initiationSize : Nat := keySize + (keySize + Suite.tagSize) + Suite.tagSize

/-- The number of octets of the second message. -/
def responseSize : Nat := keySize + Suite.tagSize

/-- An initiator that waits for the response. -/
structure Initiator where
  /-- The running state. -/
  state : Symmetric
  /-- The secret key of the initiator. -/
  secret : SecretKey
  /-- The ephemeral secret key. -/
  ephemeral : SecretKey
  /-- The public key of the responder. -/
  responder : PublicKey
  deriving DecidableEq, Repr

/-- A responder that has read the first message. -/
structure Responder where
  /-- The running state. -/
  state : Symmetric
  /-- The ephemeral public key of the initiator. -/
  remoteEphemeral : PublicKey
  /-- The public key of the initiator. -/
  initiator : PublicKey
  deriving DecidableEq, Repr

/-- The first message, to the owner of a public key. -/
def initiate (suite : Suite) (prologue : Bytes) (secret ephemeral : SecretKey)
    (responder : PublicKey) : Bytes × Initiator :=
  let e := (suite.publicKey ephemeral).bytes
  let s := (Symmetric.start suite prologue responder).mixHash suite e
  let s := s.mixKey suite (suite.agree ephemeral responder)
  let (static, s) := s.encrypt suite (suite.publicKey secret).bytes
  let s := s.mixKey suite (suite.agree secret responder)
  let (payload, s) := s.encrypt suite []
  (e ++ static ++ payload, ⟨s, secret, ephemeral, responder⟩)

/-- Reads the first message; `none` if it is not authentic. -/
def respond? (suite : Suite) (prologue : Bytes) (secret : SecretKey) (message : Bytes) :
    Option Responder := do
  let e ← PublicKey.ofBytes? (message.take keySize)
  let s := (Symmetric.start suite prologue (suite.publicKey secret)).mixHash suite e.bytes
  let s := s.mixKey suite (suite.agree secret e)
  let rest := message.drop keySize
  let (static, s) ← s.decrypt? suite (rest.take (keySize + Suite.tagSize))
  let initiator ← PublicKey.ofBytes? static
  let s := s.mixKey suite (suite.agree secret initiator)
  let (_, s) ← s.decrypt? suite (rest.drop (keySize + Suite.tagSize))
  some ⟨s, e, initiator⟩

/-- The second message, with which the responder's channel is complete. -/
def Responder.reply (suite : Suite) (ephemeral : SecretKey) (r : Responder) :
    Bytes × Established :=
  let e := (suite.publicKey ephemeral).bytes
  let s := r.state.mixHash suite e
  let s := s.mixKey suite (suite.agree ephemeral r.remoteEphemeral)
  let s := s.mixKey suite (suite.agree ephemeral r.initiator)
  let (payload, s) := s.encrypt suite []
  let (first, second) := s.split suite
  (e ++ payload, ⟨second, first, r.initiator⟩)

/-- Reads the second message, with which the initiator's channel is complete; `none` if it is not
authentic. -/
def Initiator.finish? (suite : Suite) (message : Bytes) (i : Initiator) : Option Established := do
  let e ← PublicKey.ofBytes? (message.take keySize)
  let s := i.state.mixHash suite e.bytes
  let s := s.mixKey suite (suite.agree i.ephemeral e)
  let s := s.mixKey suite (suite.agree i.secret e)
  let (_, s) ← s.decrypt? suite (message.drop keySize)
  let (first, second) := s.split suite
  some ⟨first, second, i.responder⟩

end Noise

end PeerLink
