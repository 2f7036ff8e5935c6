import PeerLink.Address.Json

/-!
# Messages between nodes

A node asks a peer for the addresses of the peers it knows, and answers such a request, with one and
the same message. It is marked by its type; a request usually has no addresses.
-/

namespace PeerLink

/-- What nodes send to each other. -/
inductive Message where
  /-- A request for addresses of peers, or the answer to one. -/
  | bootstrap (peerAddresses : List PeerAddress)
  deriving DecidableEq, Repr

namespace Message

/-- The addresses in a message. -/
def peerAddresses : Message → List PeerAddress
  | bootstrap addresses => addresses

/-- The request for addresses of peers. -/
def request : Message := bootstrap []

/-- The JSON value of a message. -/
def toJson : Message → Json
  | bootstrap addresses =>
    .object [("type", .string "BOOTSTRAP"),
      ("peerAddresses", .array (addresses.map PeerAddress.toJson))]

/-- Reads a message; the addresses may be left out. -/
def decoder : Json.Decoder Message :=
  Json.Decoder.tagged "type" "BOOTSTRAP"
    ((Json.Decoder.record
      [.defaulted "peerAddresses" (.list PeerAddress.decoder) fun _ addresses => addresses]
      []).filterMap fun addresses => some (bootstrap addresses))

end Message

end PeerLink
