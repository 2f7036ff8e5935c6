import PeerLink.Negotiation.Dialer
import PeerLink.Transport.Basic

/-!
# The transport over stream sockets

The first carrier of a node. It connects to the endpoint of an address, negotiates the upgrades of
the node and gives the negotiated connection. The public key in the address is read before anything
else, and only the owner of this key is accepted if the handshake takes place. Every other address
goes to the chain of fallbacks.

Of listening only the choice of the endpoint is modelled. The loop that accepts streams, its pause
behind a failure and its shutdown hand each stream to a negotiation of its own and have no other
part in it.
-/

namespace PeerLink

/-- How long the transport waits, in seconds. -/
structure Timeouts where
  /-- For a connection to an endpoint. -/
  dial : UInt64
  /-- For a negotiation. -/
  negotiation : UInt64
  deriving DecidableEq, Repr

/-- The times of a transport that is not told otherwise. -/
def Timeouts.standard : Timeouts := ⟨10, 10⟩

/-- What comes of connecting to an endpoint. -/
inductive Reach where
  /-- Nobody listens there. -/
  | refused
  /-- There is no answer in time. -/
  | unanswered
  /-- A stream, with everything that the peer sends in the time for a negotiation. -/
  | reached (stream : Stream)

/-- A connection with the stream that it is over. -/
structure Session where
  /-- The connection. -/
  connection : Connection
  /-- The end of the stream. -/
  stream : Stream

/-- A connection to a peer over a stream (`connect`), as the upgrades of a node and the public key
in the address demand it, and what the registry of the node is then. -/
def dialTcp (suite : Suite) (upgrades : Upgrades) (ephemeral : SecretKey) (reach : Endpoint → Reach)
    (address : PeerAddress) : Except TransportError Session × Registry :=
  match address.publicKey with
  | .error cause => (.error (.address cause), upgrades.registry)
  | .ok expected =>
    let remote := address.endpoint
    match reach remote with
    | .refused => (.error (.connect remote), upgrades.registry)
    | .unanswered => (.error (.timeout remote), upgrades.registry)
    | .reached stream =>
      let dialer := Negotiation.Dialer.new ⟨upgrades, remote, ephemeral, expected⟩
      match dialer.run suite upgrades.registry stream with
      | (.finished (.ok connection), registry, stream) => (.ok ⟨connection, stream⟩, registry)
      | (.finished (.error cause), registry, _) => (.error (.negotiation remote cause), registry)
      | (_, registry, _) => (.error (.negotiation remote .timeout), registry)

/-- The transport over stream sockets of a node, with what it falls back on. -/
structure TcpTransport (m : Type → Type) (κ : Type) where
  /-- The upgrades that are offered to peers. -/
  upgrades : Upgrades
  /-- How long the transport waits. -/
  timeouts : Timeouts
  /-- The chain for the addresses of other transports. -/
  fallback : Option (Transport m κ)

namespace TcpTransport

variable {m : Type → Type} {κ : Type}

/-- A transport without upgrades and fallbacks. -/
def new : TcpTransport m κ := ⟨.empty, .standard, none⟩

/-- The transport with one more upgrade (`with_upgrade`). -/
def withUpgrade (upgrade : Upgrade) (transport : TcpTransport m κ) : TcpTransport m κ :=
  { transport with upgrades := transport.upgrades.insert upgrade }

/-- The transport with another chain at the end of its fallbacks (`with_fallback`). -/
def withFallback (last : Transport m κ) (transport : TcpTransport m κ) : TcpTransport m κ :=
  { transport with
    fallback := some (match transport.fallback with
      | none => last
      | some fallback => .append last fallback) }

/-- The transport with other times to wait. -/
def withTimeouts (timeouts : Timeouts) (transport : TcpTransport m κ) : TcpTransport m κ :=
  { transport with timeouts }

/-- The whole chain of a transport that dials its own addresses with `own`. -/
def chain (own : PeerAddress → m (Except TransportError κ)) (transport : TcpTransport m κ) :
    Transport m κ :=
  match transport.fallback with
  | none => .alone ⟨.tcp, own⟩
  | some fallback => .backed ⟨.tcp, own⟩ fallback

/-- Where a node listens that is to listen at an address (the beginning of `listen`); only some
endpoints may be free. -/
def listen (isFree : Endpoint → Bool) (address : PeerAddress) : Except TransportError Endpoint :=
  if address.transport = .tcp then
    if isFree address.endpoint then .ok address.endpoint else .error (.bind address.endpoint)
  else .error (.unsupportedTransport address.transport)

end TcpTransport

end PeerLink
