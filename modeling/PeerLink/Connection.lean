import PeerLink.Framing.LengthPrefixed
import PeerLink.Framing.Sealed
import PeerLink.Json.Decoder
import PeerLink.Json.Writer
import PeerLink.Noise.Handshake
import PeerLink.Resolution
import PeerLink.SecureChannel

/-!
# Connections

A connection carries octets and JSON objects over a stream. Octets are buffered until a flush; an
object is one frame, and is flushed at once. On a secure connection everything that is written is
sealed, the buffered octets in as few frames as possible. A connection does not hold its stream:
each operation takes the stream and gives it back. An operation that waits can be run again; the
octets it has taken from the stream stay in the buffers of the connection. Objects are given by
their JSON values and read by a decoder, so that an object that has no JSON text is left out.
-/

namespace PeerLink

/-- Why an operation of a connection fails. -/
inductive ConnectionError where
  /-- The stream has failed. -/
  | io (cause : IoError)
  /-- A frame is not what the peer sealed. -/
  | sealing (cause : SealingError)
  /-- The text of a frame is not an object of the expected shape. -/
  | codec (cause : Json.Fault)
  /-- An object is too large for a frame. -/
  | frameTooLarge (size : Nat)
  /-- The connection is closed. -/
  | closed
  deriving DecidableEq, Repr

namespace ConnectionError

/-- The text of an error. -/
def message : ConnectionError → String
  | io _ => "I/O error on the connection"
  | sealing _ => "Invalid sealed frame"
  | codec _ => "Cannot encode or decode the object"
  | frameTooLarge size => "Frame of " ++ Text.Decimal.text size ++ " bytes is too large"
  | closed => "The connection is closed"

/-- The error that a faulty sealed frame is. -/
def ofFrames : SealedFrames.Error → ConnectionError
  | .io cause => io cause
  | .sealing cause => sealing cause

end ConnectionError

/-- The secure layer of a connection. -/
structure SecureLayer where
  /-- The half of the channel that seals. -/
  sender : Sealing
  /-- The half of the channel that unseals, and what it knows of the frame it reads. -/
  frames : SealedFrames.State
  /-- The octets that are written and not sealed. -/
  pending : Buffer
  /-- The octets that are unsealed and not read. -/
  unsealed : Buffer
  /-- The public key that the peer has proved to own. -/
  remote : PublicKey

/-- The layer of a connection over its wire. -/
inductive Channel where
  /-- None; the state is the one of the framing of objects. -/
  | bare (frames : LengthPrefixed.State)
  /-- The secure layer. -/
  | secure (layer : SecureLayer)

/-- A connection with a peer. -/
structure Connection where
  /-- The buffers of the stream; none when the connection is closed. -/
  wire : Option Wire
  /-- The layer over the wire. -/
  channel : Channel
  /-- The endpoint of the peer, if it is known. -/
  remoteAddress : Option Endpoint
  /-- What was negotiated. -/
  resolution : Resolution

/-- Seals octets in frames that are as large as possible, the frames sealed so far in front. This is
the loop of `seal_pending`. -/
def sealFrames (suite : Suite) (sender : Sealing) (sealed : Buffer) :
    Bytes → Buffer × Sealing
  | [] => (sealed, sender)
  | b :: rest =>
    match SealedFrames.encode? suite sender ((b :: rest).take SealedFrames.maxPayload) with
    | none => (sealed, sender)
    | some (frame, sender) =>
      sealFrames suite sender (sealed.append frame) ((b :: rest).drop SealedFrames.maxPayload)
termination_by bytes => bytes.length
decreasing_by
  simp only [List.length_drop, List.length_cons, SealedFrames.maxPayload, SealedFrames.maxSize,
    SealedFrames.headSize, Suite.tagSize]
  omega

namespace SecureLayer

/-- The layer of a channel whose handshake is complete. -/
def new (channel : Noise.Established) : SecureLayer where
  sender := channel.sender
  frames := ⟨channel.receiver, none⟩
  pending := .empty
  unsealed := .empty
  remote := channel.remote

/-- Seals the pending octets (`seal_pending`). -/
def sealPending (suite : Suite) (wire : Wire) (layer : SecureLayer) : Wire × SecureLayer :=
  let (unwritten, sender) :=
    sealFrames suite layer.sender wire.unwritten layer.pending.toBytes
  ({ wire with unwritten }, { layer with sender, pending := .empty })

/-- Unseals frames until one is not empty, which is the loop of `read_bytes`; gives whether there
was one before the end of the stream. Every frame takes octets from the wire or from the stream, so
there is an end to it. -/
def unsealSome (suite : Suite) (layer : SecureLayer) (wire : Wire) (stream : Stream) :
    Outcome ConnectionError Bool × SecureLayer × Wire × Stream :=
  if layer.unsealed.isEmpty then
    match wire.readFrame (SealedFrames.framing suite) layer.frames stream with
    | (.failed e, frames, wire, stream) =>
      (.failed (.ofFrames e), { layer with frames }, wire, stream)
    | (.waiting, frames, wire, stream) => (.waiting, { layer with frames }, wire, stream)
    | (.done none, frames, wire, stream) => (.done false, { layer with frames }, wire, stream)
    | (.done (some frame), frames, wire', stream') =>
      let layer := { layer with frames, unsealed := .ofBytes frame }
      if _h : wire'.readAhead.size + stream'.available < wire.readAhead.size + stream.available then
        unsealSome suite layer wire' stream'
      else (.done (!frame.isEmpty), layer, wire', stream')
  else (.done true, layer, wire, stream)
termination_by wire.readAhead.size + stream.available

end SecureLayer

namespace Connection

/-- A connection over a stream as it is (`bare`). -/
def bare (remoteAddress : Option Endpoint) : Connection where
  wire := some .new
  channel := .bare none
  remoteAddress := remoteAddress
  resolution := .bare

/-- The connection that a negotiation has prepared (`negotiated`). -/
def negotiated (wire : Wire) (resolution : Resolution) (channel : Option Noise.Established)
    (remoteAddress : Endpoint) : Connection where
  wire := some wire
  channel :=
    match channel with
    | none => .bare none
    | some channel => .secure (.new channel)
  remoteAddress := some remoteAddress
  resolution := resolution

/-- Whether what is written is sealed. -/
def isSecure (connection : Connection) : Bool :=
  match connection.channel with
  | .bare _ => false
  | .secure _ => true

/-- Whether the connection is closed. -/
def isClosed (connection : Connection) : Bool :=
  connection.wire.isNone

/-- The public key that the peer has proved to own, on a secure connection
(`remote_public_identity`). -/
def remoteIdentity (connection : Connection) : Option PublicKey :=
  match connection.channel with
  | .bare _ => none
  | .secure layer => some layer.remote

/-- A description of a connection. -/
def describe (connection : Connection) : String :=
  "Connection \x7b remote_address: " ++
    (match connection.remoteAddress with
      | none => "None"
      | some address => "Some(" ++ address.text ++ ")") ++
    ", resolution: " ++ connection.resolution.describe ++ ", closed: " ++
    (if connection.isClosed then "true" else "false") ++ " \x7d"

/-! ## Writing -/

/-- Buffers octets until the next flush (`write_bytes`). -/
def writeBytes (bytes : Bytes) (connection : Connection) :
    Except ConnectionError Unit × Connection :=
  match connection.wire with
  | none => (.error .closed, connection)
  | some wire =>
    match connection.channel with
    | .bare _ => (.ok (), { connection with wire := some (wire.put bytes) })
    | .secure layer =>
      (.ok (),
        { connection with
          channel := .secure { layer with pending := layer.pending.append bytes } })

/-- Buffers an octet until the next flush (`write_byte`). -/
def writeByte (byte : UInt8) (connection : Connection) : Except ConnectionError Unit × Connection :=
  connection.writeBytes [byte]

/-- Seals what is pending, if the connection is secure. -/
def sealPending (suite : Suite) (wire : Wire) : Channel → Wire × Channel
  | .bare frames => (wire, .bare frames)
  | .secure layer =>
    let (wire, layer) := layer.sealPending suite wire
    (wire, .secure layer)

/-- Writes what is to be written. -/
def flushWire (channel : Channel) (wire : Wire) (connection : Connection) (stream : Stream) :
    Except ConnectionError Unit × Connection × Stream :=
  let (result, wire, stream) := wire.flush stream
  (result.mapError .io, { connection with wire := some wire, channel }, stream)

/-- Writes everything that is buffered (`flush`). -/
def flush (suite : Suite) (connection : Connection) (stream : Stream) :
    Except ConnectionError Unit × Connection × Stream :=
  match connection.wire with
  | none => (.error .closed, connection, stream)
  | some wire =>
    let (wire, channel) := sealPending suite wire connection.channel
    connection.flushWire channel wire stream

/-- Writes an object in one frame, behind everything that is buffered (`write_object`). -/
def writeObject (suite : Suite) (object : Json) (connection : Connection) (stream : Stream) :
    Except ConnectionError Unit × Connection × Stream :=
  let text := object.encode
  match connection.wire with
  | none => (.error .closed, connection, stream)
  | some wire =>
    match connection.channel with
    | .bare frames =>
      if LengthPrefixed.maxSize < text.length then
        (.error (.frameTooLarge text.length), connection, stream)
      else
        connection.flushWire (.bare frames) (wire.put (LengthPrefixed.encode text)) stream
    | .secure layer =>
      -- What is pending is sealed first, and stays so if the object does not fit a frame.
      let (wire, layer) := layer.sealPending suite wire
      match SealedFrames.encode? suite layer.sender text with
      | none =>
        (.error (.frameTooLarge text.length),
          { connection with wire := some wire, channel := .secure layer }, stream)
      | some (frame, sender) =>
        connection.flushWire (.secure { layer with sender }) (wire.put frame) stream

/-- Writes everything that is buffered, ends the stream and lets go of it (`close`), which happens
also when one of these fails. Closing a closed connection does nothing. -/
def close (suite : Suite) (connection : Connection) (stream : Stream) :
    Except ConnectionError Unit × Connection × Stream :=
  match connection.wire with
  | none => (.ok (), connection, stream)
  | some wire =>
    let (wire, channel) := sealPending suite wire connection.channel
    let closed := { connection with wire := none, channel }
    match wire.flush stream with
    | (.error e, _, stream) => (.error (.io e), closed, stream.release)
    | (.ok (), _, stream) =>
      let (result, stream) := stream.shutdown
      (result.mapError .io, closed, stream.release)

/-! ## Reading -/

/-- Reads at most `n` octets (`read_bytes`); none at the end of the stream only, unless none are
asked for. -/
def readBytes (suite : Suite) (n : Nat) (connection : Connection) (stream : Stream) :
    Outcome ConnectionError Bytes × Connection × Stream :=
  match connection.wire with
  | none => (.failed .closed, connection, stream)
  | some wire =>
    if n = 0 then (.done [], connection, stream)
    else
      match connection.channel with
      | .bare _ =>
        let (result, wire, stream) := wire.readSome n stream
        (result.mapError .io, { connection with wire := some wire }, stream)
      | .secure layer =>
        match layer.unsealSome suite wire stream with
        | (.failed e, layer, wire, stream) =>
          (.failed e, { connection with wire := some wire, channel := .secure layer }, stream)
        | (.waiting, layer, wire, stream) =>
          (.waiting, { connection with wire := some wire, channel := .secure layer }, stream)
        | (.done _, layer, wire, stream) =>
          let bytes := layer.unsealed.take n
          let layer := { layer with unsealed := layer.unsealed.drop n }
          (.done bytes, { connection with wire := some wire, channel := .secure layer }, stream)

/-- Reads an octet (`read_byte`); none at the end of the stream. -/
def readByte (suite : Suite) (connection : Connection) (stream : Stream) :
    Outcome ConnectionError (Option UInt8) × Connection × Stream :=
  let (result, connection, stream) := connection.readBytes suite 1 stream
  (result.map List.head?, connection, stream)

/-- Reads the octets of the next frame; none at the end of the stream. A secure connection does so
whatever is unsealed and not read yet. -/
def readFrame (suite : Suite) (connection : Connection) (stream : Stream) :
    Outcome ConnectionError (Option Bytes) × Connection × Stream :=
  match connection.wire with
  | none => (.failed .closed, connection, stream)
  | some wire =>
    match connection.channel with
    | .bare frames =>
      let (result, frames, wire, stream) :=
        wire.readFrame (LengthPrefixed.framing ConnectionError.io) frames stream
      (result, { connection with wire := some wire, channel := .bare frames }, stream)
    | .secure layer =>
      let (result, frames, wire, stream) :=
        wire.readFrame (SealedFrames.framing suite) layer.frames stream
      (result.mapError .ofFrames,
        { connection with wire := some wire, channel := .secure { layer with frames } }, stream)

/-- Reads the object of the next frame (`read_object`). -/
def readObject {α : Type} (suite : Suite) (decoder : Json.Decoder α) (connection : Connection)
    (stream : Stream) : Outcome ConnectionError α × Connection × Stream :=
  match connection.readFrame suite stream with
  | (.failed e, connection, stream) => (.failed e, connection, stream)
  | (.waiting, connection, stream) => (.waiting, connection, stream)
  | (.done none, connection, stream) =>
    (.failed (.io (.unexpectedEof "connection closed by the remote peer")), connection, stream)
  | (.done (some frame), connection, stream) =>
    (.ofExcept ((decoder.decode frame).mapError .codec), connection, stream)

end Connection

end PeerLink
