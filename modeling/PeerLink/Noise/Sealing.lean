import PeerLink.Crypto.Suite
import PeerLink.Text.Decimal

/-!
# Sealing

The two halves of a secure channel. A message is sealed with the key and the counter of its half;
then the key is replaced by the next one of its chain and the counter is increased. The receiving
half of the peer is in step with the sending half as long as messages are unsealed in the order in
which they were sealed. A message that is not authentic changes nothing.
-/

namespace PeerLink

/-- Why a sealed message is refused. -/
inductive SealingError where
  /-- No sealed message has this length. -/
  | invalidLength (length : Nat)
  /-- The message is not what the peer sealed. -/
  | notAuthentic
  deriving DecidableEq, Repr

/-- The text of an error. -/
def SealingError.message : SealingError → String
  | invalidLength length =>
    "Sealed frame length " ++ Text.Decimal.text length ++ " is out of bounds"
  | notAuthentic => "Cannot unseal frame: Authenticated decryption failed, invalid final tag"

/-- The key of a half of a channel and the number of messages it was used for. -/
structure Sealing where
  /-- The key of the next message. -/
  key : Bytes
  /-- The counter of the next message. -/
  counter : Nat
  deriving DecidableEq, Repr

namespace Sealing

/-- A half of which no message was sent. -/
def start (key : Bytes) : Sealing := ⟨key, 0⟩

/-- The half after a message. -/
def advance (suite : Suite) (half : Sealing) : Sealing :=
  ⟨suite.nextKey half.key, half.counter + 1⟩

/-- Seals a message. -/
def sealMessage (suite : Suite) (half : Sealing) (text : Bytes) : Bytes × Sealing :=
  (suite.encrypt half.key half.counter [] text, half.advance suite)

/-- Unseals a message. -/
def unsealMessage (suite : Suite) (half : Sealing) (message : Bytes) :
    Except SealingError Bytes × Sealing :=
  match suite.decrypt? half.key half.counter [] message with
  | none => (.error .notAuthentic, half)
  | some text => (.ok text, half.advance suite)

end Sealing

end PeerLink
