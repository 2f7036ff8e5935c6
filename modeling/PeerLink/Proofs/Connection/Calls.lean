import PeerLink.Connection

/-!
# Calls of a reader and of a writer

The operations that read from a connection, and the ones that write to it, as data, so that a reader
and a writer are lists of them.
-/

namespace PeerLink

/-- A call of a reader that reads objects as values of `α`. -/
inductive ReadCall (α : Type) where
  /-- Reads an octet. -/
  | byte
  /-- Reads at most `n` octets. -/
  | bytes (n : Nat)
  /-- Reads an object. -/
  | object (decoder : Json.Decoder α)

/-- What a call of a reader comes to. -/
inductive ReadAnswer (α : Type) where
  /-- What reading an octet comes to. -/
  | byte (outcome : Outcome ConnectionError (Option UInt8))
  /-- What reading octets comes to. -/
  | bytes (outcome : Outcome ConnectionError Bytes)
  /-- What reading an object comes to. -/
  | object (outcome : Outcome ConnectionError α)
  deriving DecidableEq

namespace ReadAnswer

variable {α : Type}

/-- The value of an object whose text was read. -/
def ofText (decoder : Json.Decoder α) (text : Bytes) : ReadAnswer α :=
  object (.ofExcept ((decoder.decode text).mapError .codec))

/-- The answers that neither give anything nor fail: the reader waits, or the stream ends. An end
where an object is asked for has the form of an error. -/
def IsIdle : ReadAnswer α → Prop
  | byte outcome => outcome = .waiting ∨ outcome = .done none
  | bytes outcome => outcome = .waiting ∨ outcome = .done []
  | object outcome => outcome = .waiting ∨
    outcome = .failed (.io (.unexpectedEof "connection closed by the remote peer"))

/-- The answers that are an error of the stream or of a sealed frame. -/
def IsFault : ReadAnswer α → Prop
  | byte outcome => ∃ e, outcome = .failed (.ofFrames e)
  | bytes outcome => ∃ e, outcome = .failed (.ofFrames e)
  | object outcome => ∃ e, outcome = .failed (.ofFrames e)

end ReadAnswer

/-- A call of a reader on its connection. -/
def Connection.call {α : Type} (suite : Suite) (call : ReadCall α) (connection : Connection)
    (stream : Stream) : ReadAnswer α × Connection × Stream :=
  match call with
  | .byte =>
    let (outcome, rest) := connection.readByte suite stream
    (.byte outcome, rest)
  | .bytes n =>
    let (outcome, rest) := connection.readBytes suite n stream
    (.bytes outcome, rest)
  | .object decoder =>
    let (outcome, rest) := connection.readObject suite decoder stream
    (.object outcome, rest)

/-- A call of a writer. -/
inductive WriteCall where
  /-- Writes an octet. -/
  | byte (octet : UInt8)
  /-- Writes octets. -/
  | bytes (bytes : Bytes)
  /-- Writes an object. -/
  | object (object : Json)
  /-- Writes everything that is buffered. -/
  | flush
  /-- Writes everything that is buffered and closes the connection. -/
  | close

/-- A call of a writer on its connection. -/
def Connection.write (suite : Suite) (call : WriteCall) (connection : Connection)
    (stream : Stream) : Except ConnectionError Unit × Connection × Stream :=
  match call with
  | .byte octet =>
    let (outcome, connection) := connection.writeByte octet
    (outcome, connection, stream)
  | .bytes bytes =>
    let (outcome, connection) := connection.writeBytes bytes
    (outcome, connection, stream)
  | .object object => connection.writeObject suite object stream
  | .flush => connection.flush suite stream
  | .close => connection.close suite stream

/-- An octet is the first one of at most one octet. -/
theorem Connection.call_byte {α : Type} (suite : Suite) (connection : Connection)
    (stream : Stream) :
    connection.call suite (.byte : ReadCall α) stream =
      (.byte ((connection.readBytes suite 1 stream).1.map List.head?),
        (connection.readBytes suite 1 stream).2) := rfl

end PeerLink
