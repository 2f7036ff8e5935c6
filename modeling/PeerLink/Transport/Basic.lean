import PeerLink.Address.Peer
import PeerLink.Negotiation.Error

/-!
# Transports

A carrier opens connections to the addresses of one transport. A transport is a chain of carriers:
an address is handed down the chain, unchanged, to the first carrier of its transport. What an
opened connection is, and what dialing does besides, is left open: the chain only decides who
dials.
-/

namespace PeerLink

/-- Why a transport does not give a connection, or does not listen. -/
inductive TransportError where
  /-- The address does not say whom to dial. -/
  | address (cause : AddressError)
  /-- No carrier of the chain is for the transport of the address. -/
  | unsupportedTransport (tag : TransportTag)
  /-- Nobody listens at the endpoint. -/
  | connect (remote : Endpoint)
  /-- The endpoint does not answer in time. -/
  | timeout (remote : Endpoint)
  /-- The node cannot listen at the endpoint. -/
  | bind (endpoint : Endpoint)
  /-- The negotiation with the peer at the endpoint fails. -/
  | negotiation (remote : Endpoint) (cause : NegotiationError)
  deriving DecidableEq, Repr

/-- The text of an error. -/
def TransportError.message : TransportError → String
  | address _ => "Invalid peer address"
  | unsupportedTransport tag =>
    "Unsupported transport " ++ Text.Quoted.text tag.name ++ ", no fallback transport available"
  | connect remote => "Cannot connect to " ++ remote.text
  | timeout remote => "Timed out connecting to " ++ remote.text
  | bind endpoint => "Cannot listen to " ++ endpoint.text
  | negotiation remote _ => "Failed to negotiate upgrades with " ++ remote.text

/-- The endpoint of an address. -/
def PeerAddress.endpoint (address : PeerAddress) : Endpoint :=
  ⟨address.host, address.port⟩

/-- A way to open connections `κ` to the addresses of one transport, as an action of `m`. -/
structure Carrier (m : Type → Type) (κ : Type) where
  /-- The transport. -/
  tag : TransportTag
  /-- Opens a connection to an address of the transport. -/
  dial : PeerAddress → m (Except TransportError κ)

/-- A chain of carriers, which is never empty. -/
inductive Transport (m : Type → Type) (κ : Type) where
  /-- A carrier with nothing to fall back on. -/
  | alone (carrier : Carrier m κ)
  /-- A carrier that falls back on another chain. -/
  | backed (carrier : Carrier m κ) (fallback : Transport m κ)

namespace Transport

variable {m : Type → Type} {κ : Type}

/-- The carriers in the order in which they are tried. -/
def carriers : Transport m κ → List (Carrier m κ)
  | alone carrier => [carrier]
  | backed carrier fallback => carrier :: fallback.carriers

/-- The name of a transport is the one of its first carrier. -/
def name : Transport m κ → String
  | alone carrier => carrier.tag.name
  | backed carrier _ => carrier.tag.name

/-- The chain with another one at its end (`append_fallback`). -/
def append (last : Transport m κ) : Transport m κ → Transport m κ
  | alone carrier => backed carrier last
  | backed carrier fallback => backed carrier (append last fallback)

/-- Opens a connection to an address (`dial`). -/
def dial [Pure m] (address : PeerAddress) : Transport m κ → m (Except TransportError κ)
  | alone carrier =>
    if address.transport = carrier.tag then carrier.dial address
    else pure (.error (.unsupportedTransport address.transport))
  | backed carrier fallback =>
    if address.transport = carrier.tag then carrier.dial address
    else fallback.dial address

/-- The carriers of a chain with another one at its end. -/
@[simp]
theorem carriers_append (last transport : Transport m κ) :
    (append last transport).carriers = transport.carriers ++ last.carriers := by
  induction transport with
  | alone carrier => rfl
  | backed carrier fallback ih => simp [append, carriers, ih]

end Transport

end PeerLink
