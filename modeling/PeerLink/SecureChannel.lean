import PeerLink.Address.Ip
import PeerLink.Crypto.Suite

/-!
# Secure channels

A secure channel holds the secret key of a node, which is the same towards every peer, and the
registry of its peers' public keys by their network address and port. A negotiation writes the key
that a peer claims into the registry, and the handshake reads it from there.
-/

namespace PeerLink

/-- A network address and a port. -/
structure Endpoint where
  /-- The network address. -/
  host : IpAddress
  /-- The port. -/
  port : UInt16
  deriving DecidableEq, Repr

/-- The text of an endpoint. -/
def Endpoint.text (endpoint : Endpoint) : String :=
  endpoint.host.socketText endpoint.port

/-- The public keys of peers by their endpoints. They are behind a lock in use, which is held for
one lookup or one insertion at a time. -/
structure Registry where
  /-- The entries, each endpoint once. -/
  entries : List (Endpoint × PublicKey)
  /-- No endpoint has two entries. -/
  nodup : (entries.map (·.1)).Nodup

namespace Registry

/-- The registry without entries. -/
def empty : Registry := ⟨[], by simp⟩

/-- The key of an endpoint. -/
def get? (registry : Registry) (endpoint : Endpoint) : Option PublicKey :=
  registry.entries.lookup endpoint

/-- The number of entries. -/
def size (registry : Registry) : Nat :=
  registry.entries.length

/-- The registry with a new key for an endpoint. -/
def insert (registry : Registry) (endpoint : Endpoint) (key : PublicKey) : Registry where
  entries := (endpoint, key) :: registry.entries.filter (·.1 ≠ endpoint)
  nodup := by
    simp only [List.map_cons, List.nodup_cons]
    constructor
    · simp
    · exact registry.nodup.sublist (List.filter_sublist.map _)

end Registry

/-- Why the registry does not give a key. -/
inductive RegistryError where
  /-- The endpoint has no entry. -/
  | notFound (endpoint : Endpoint)
  deriving DecidableEq, Repr

/-- The text of an error. -/
def RegistryError.message : RegistryError → String
  | notFound endpoint => "No inbound channel registered for " ++ endpoint.text

/-- The secret key of a node and the public keys of its peers. -/
structure SecureChannel where
  /-- The secret key of the node. -/
  secret : SecretKey
  /-- The public keys of its peers. -/
  registry : Registry

/-- Which side of a channel a key is wanted for. -/
inductive ChannelDirection where
  /-- The node's own side. -/
  | outbound
  /-- The side of the peer at an endpoint. -/
  | inbound (endpoint : Endpoint)
  deriving DecidableEq, Repr

/-- The key of a side of a channel. -/
inductive ChannelKey where
  /-- The secret key of the node. -/
  | outbound (secret : SecretKey)
  /-- The public key of a peer. -/
  | inbound (key : PublicKey)
  deriving DecidableEq

namespace SecureChannel

/-- The channel of a secret key, with an empty registry. -/
def new (secret : SecretKey) : SecureChannel := ⟨secret, .empty⟩

/-- The public key of the node. -/
def identity (suite : Suite) (channel : SecureChannel) : PublicKey :=
  suite.publicKey channel.secret

/-- The channel with a new key of the peer at an endpoint (`register_inbound`). -/
def register (channel : SecureChannel) (endpoint : Endpoint) (key : PublicKey) : SecureChannel :=
  { channel with registry := channel.registry.insert endpoint key }

/-- The key of a side of the channel (`resolve`). -/
def resolve (channel : SecureChannel) : ChannelDirection → Except RegistryError ChannelKey
  | .outbound => .ok (.outbound channel.secret)
  | .inbound endpoint =>
    match channel.registry.get? endpoint with
    | none => .error (.notFound endpoint)
    | some key => .ok (.inbound key)

/-- A description of a channel, which does not show the secret key. -/
def describe (suite : Suite) (channel : SecureChannel) : String :=
  "SecureChannel \x7b id: " ++ (channel.identity suite).describe ++ ", registered: " ++
    Text.Decimal.text channel.registry.size ++ " \x7d"

end SecureChannel

/-- A description of a key, which shows the public key of a secret one. -/
def ChannelKey.describe (suite : Suite) : ChannelKey → String
  | outbound secret => "Outbound(" ++ (suite.publicKey secret).describe ++ ")"
  | inbound key => "Inbound(" ++ key.describe ++ ")"

end PeerLink
