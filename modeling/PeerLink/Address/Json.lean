import PeerLink.Address.Peer
import PeerLink.Json.Decoder
import PeerLink.Json.Writer

/-!
# Peer addresses in JSON

In JSON an address is the string of its text.
-/

namespace PeerLink.PeerAddress

/-- The JSON value of an address. -/
def toJson (address : PeerAddress) : Json :=
  .string address.text

/-- Reads an address from the string of its text. -/
def decoder : Json.Decoder PeerAddress :=
  Json.Decoder.string.filterMap fun text => (parse text).toOption

end PeerLink.PeerAddress
