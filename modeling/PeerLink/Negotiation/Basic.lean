import PeerLink.Connection
import PeerLink.Negotiation.Error
import PeerLink.Upgrade

/-!
# Negotiations

What both sides of a negotiation share: what a side brings to it, the transcript that the handshake
is bound to, and the steps of a negotiation. A step is the largest part of a negotiation during
which no other negotiation can change the registry: writing the key of the peer into it and reading
it back are steps of their own. The time that a negotiation may take is not counted here; whoever
runs a side abandons it while it waits.
-/

namespace PeerLink.Negotiation

/-- What a side brings to a negotiation. -/
structure Party where
  /-- The upgrades of the side. -/
  upgrades : Upgrades
  /-- The endpoint of the other side. -/
  remote : Endpoint
  /-- The ephemeral secret key of the handshake. -/
  ephemeral : SecretKey
  /-- The public key that the other side must have, if the dialer wants to reach a certain one. -/
  expected : Option PublicKey

/-- The offer and the reply as they were exchanged, each with its length in front (`transcript`). -/
def transcript (offer reply : Bytes) : Bytes :=
  Bytes.ofNatBE 4 offer.length ++ offer ++ Bytes.ofNatBE 4 reply.length ++ reply

/-- What a step of a negotiation comes to. -/
inductive Move (σ : Type) where
  /-- The negotiation goes on. -/
  | next (state : σ)
  /-- The negotiation waits for the other side. -/
  | wait (state : σ)
  /-- The negotiation is over. -/
  | finished (result : Except NegotiationError Connection)

/-- What the envelopes of both sides come to, and the key to register if the secure channel is among
the upgrades of both. -/
structure Agreement where
  /-- The upgrades of both sides. -/
  resolution : Resolution
  /-- The secret key of this side and the public key that the other side claims. -/
  keys : Option (SecretKey × PublicKey)

/-- Compares the upgrades of a side with the envelope of the other one. `dial_wire` and
`accept_wire` do this alike, but that only a dialer expects a key, and it does so here only: not
when the secure channel is not among the upgrades of both. -/
def agree (party : Party) (envelope : Envelope) : Except NegotiationError Agreement :=
  let resolution := Resolution.ofKinds (party.upgrades.intersect envelope.offered)
  match party.upgrades.secureChannel? with
  | none => .ok ⟨resolution, none⟩
  | some channel =>
    if resolution.contains .secureChannel then
      match envelope.material with
      | none => .error .missingChannelMaterial
      | some material =>
        match material.publicKey with
        | .error e => .error (.invalidChannelMaterial e)
        | .ok key =>
          match party.expected with
          | none => .ok ⟨resolution, some (channel.secret, key)⟩
          | some expected =>
            if expected = key then .ok ⟨resolution, some (channel.secret, key)⟩
            else .error (.identityMismatch expected key)
    else .ok ⟨resolution, none⟩

/-- The framing of envelopes. -/
def framing : Framing LengthPrefixed.State NegotiationError :=
  LengthPrefixed.framing .io

end PeerLink.Negotiation
