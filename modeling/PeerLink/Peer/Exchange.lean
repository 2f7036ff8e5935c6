import PeerLink.Connection
import PeerLink.Peer.Message
import PeerLink.Peer.Store

/-!
# Bootstrap requests

A node asks a peer for the peers it knows with one message, and the peer answers with one message
for each request, until the node ends its direction of the stream.
-/

namespace PeerLink

/-- Why a request for the peers of a peer has no answer. -/
inductive RequestError where
  /-- The request cannot be sent. -/
  | send (cause : ConnectionError)
  /-- The answer cannot be read. -/
  | receive (cause : ConnectionError)
  deriving DecidableEq, Repr

namespace RequestError

/-- What went wrong on the connection. -/
def cause : RequestError → ConnectionError
  | send cause => cause
  | receive cause => cause

/-- The text of an error, with the one of its cause. -/
def message : RequestError → String
  | send cause => "Cannot send the bootstrap request: " ++ cause.message
  | receive cause => "Cannot read the bootstrap response: " ++ cause.message

end RequestError

/-- Asks the peer of a connection for the addresses of its peers (`request_peers`). -/
def requestPeers (suite : Suite) (connection : Connection) (stream : Stream) :
    Outcome RequestError (List PeerAddress) × Connection × Stream :=
  match connection.writeObject suite Message.request.toJson stream with
  | (.error cause, connection, stream) => (.failed (.send cause), connection, stream)
  | (.ok (), connection, stream) =>
    let (outcome, connection, stream) := connection.readObject suite Message.decoder stream
    ((outcome.map Message.peerAddresses).mapError .receive, connection, stream)

/-- The number of octets of a connection that are received and not used, read ahead or not. -/
def Connection.unread (connection : Connection) (stream : Stream) : Nat :=
  (match connection.wire with
    | none => 0
    | some wire => wire.readAhead.size) + stream.available

/-- Answers the requests of a peer until it ends its direction of the stream, then closes the
connection (`serve`). The `i`-th answer tells the peers that are in the store at its time. An end
within a request is an end too. Every request takes octets from the stream, so there is an end to
them. -/
def serve {κ : Type} (suite : Suite) (stores : Nat → Peerstore κ) (answered : Nat)
    (connection : Connection) (stream : Stream) :
    Outcome ConnectionError Unit × Connection × Stream :=
  match connection.readObject suite Message.decoder stream with
  | (.waiting, connection, stream) => (.waiting, connection, stream)
  | (.failed (.io e), connection, stream) =>
    if e.kind = .unexpectedEof then
      let (result, connection, stream) := connection.close suite stream
      (.ofExcept result, connection, stream)
    else (.failed (.io e), connection, stream.release)
  | (.failed e, connection, stream) => (.failed e, connection, stream.release)
  | (.done (.bootstrap _), connection', stream') =>
    let answer := Message.bootstrap (stores answered).addresses
    match connection'.writeObject suite answer.toJson stream' with
    | (.error e, connection', stream') => (.failed e, connection', stream'.release)
    | (.ok (), connection', stream') =>
      if _h : connection'.unread stream' < connection.unread stream then
        serve suite stores (answered + 1) connection' stream'
      else (.waiting, connection', stream')
termination_by connection.unread stream

end PeerLink
