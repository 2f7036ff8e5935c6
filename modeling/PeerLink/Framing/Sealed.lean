import PeerLink.Framing.Basic
import PeerLink.Noise.Sealing

/-!
# Sealed frames

Messages of a secure channel: two octets with the length of the sealed message, the most significant
first, then the message. A length is taken from the buffer as soon as it is there. It is remembered
until its message is unsealed; after a message that is not authentic, one of the same length is
expected.
-/

namespace PeerLink.SealedFrames

/-- The number of octets of the length. -/
def headSize : Nat := 2

/-- The smallest length of a sealed message: an empty one. -/
def minSize : Nat := Suite.tagSize

/-- The largest length of a sealed message. -/
def maxSize : Nat := 65535 - headSize

/-- The largest message that fits a frame (`MAX_SEALED_PAYLOAD`). -/
def maxPayload : Nat := maxSize - Suite.tagSize

/-- Why sealed frames cannot be read. -/
inductive Error where
  /-- The stream has failed. -/
  | io (cause : IoError)
  /-- A frame is not what the peer sealed. -/
  | sealing (cause : SealingError)
  deriving DecidableEq, Repr

/-- The receiving half of a channel and the length of a message that is not unsealed yet. -/
structure State where
  /-- The receiving half. -/
  receiver : Sealing
  /-- The length that was taken from the buffer. -/
  expected : Option Nat
  deriving DecidableEq, Repr

/-- The frame of a message, if it fits one (`encode` of the encoder). -/
def encode? (suite : Suite) (sender : Sealing) (message : Bytes) : Option (Bytes × Sealing) :=
  if message.length ≤ maxPayload then
    let (sealed, sender) := sender.sealMessage suite message
    some (Bytes.ofNatBE headSize (message.length + Suite.tagSize) ++ sealed, sender)
  else none

/-- Takes and unseals a message of `n` octets, if they are there (`decode_data`). -/
def cutBody (suite : Suite) (receiver : Sealing) (n : Nat) (buffer : Buffer) :
    Except Error (Option Bytes) × State × Buffer :=
  if buffer.size < n then (.ok none, ⟨receiver, some n⟩, buffer)
  else
    match receiver.unsealMessage suite (buffer.take n) with
    -- The length stays: the receiver goes on as if its message was still to come.
    | (.error e, receiver) => (.error (.sealing e), ⟨receiver, some n⟩, buffer.drop n)
    | (.ok text, receiver) => (.ok (some text), ⟨receiver, none⟩, buffer.drop n)

/-- Takes the length of the next message if it is not known yet (`decode_head`), and the message if
it is complete. -/
def cut (suite : Suite) (state : State) (buffer : Buffer) :
    Except Error (Option Bytes) × State × Buffer :=
  match state.expected with
  | some n => cutBody suite state.receiver n buffer
  | none =>
    if buffer.size < headSize then (.ok none, state, buffer)
    else
      let n := Bytes.toNatBE (buffer.take headSize)
      let buffer := buffer.drop headSize
      if minSize ≤ n ∧ n ≤ maxSize then cutBody suite state.receiver n buffer
      else (.error (.sealing (.invalidLength n)), state, buffer)

/-- At the end of the stream (`decode_eof`), an end is clean only if no length is remembered. -/
def cutLast (suite : Suite) (state : State) (buffer : Buffer) :
    Except Error (Option Bytes) × State × Buffer :=
  match cut suite state buffer with
  | (.ok none, state, buffer) =>
    if buffer.isEmpty && state.expected.isNone then (.ok none, state, buffer)
    else
      (.error (.io (.unexpectedEof "stream closed in the middle of a sealed frame")), state, buffer)
  | result => result

/-- The framing. -/
def framing (suite : Suite) : Framing State Error where
  cut := cut suite
  cutLast := cutLast suite
  ofIo := .io

end PeerLink.SealedFrames
