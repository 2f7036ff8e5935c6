import PeerLink.Json.Basic
import PeerLink.Key
import PeerLink.SecureChannel
import PeerLink.Stream.Pipe

/-!
# Errors of a negotiation

A negotiation that fails is not tried again; the stream is let go of.
-/

namespace PeerLink

/-- Why a negotiation fails. -/
inductive NegotiationError where
  /-- The stream has failed. -/
  | io (cause : IoError)
  /-- The peer took too long. -/
  | timeout
  /-- The first frame of the listener is no envelope. -/
  | invalidEnvelope (cause : Json.Fault)
  /-- Both sides have the secure channel and the other one sent no key. -/
  | missingChannelMaterial
  /-- What the other side sent as its key is none. -/
  | invalidChannelMaterial (cause : KeyError)
  /-- The other side sent another key than the one that the dialer wants to reach. -/
  | identityMismatch (expected received : PublicKey)
  /-- The initiator has proved to own another key than the one it sent in its envelope. -/
  | rejected (identity : PublicKey)
  /-- A message of the handshake is not authentic. -/
  | handshake
  /-- The registry has no key of the peer. -/
  | registry (cause : RegistryError)
  deriving DecidableEq, Repr

/-- The text of an error. -/
def NegotiationError.message : NegotiationError → String
  | io _ => "I/O error while negotiating the upgrades"
  | timeout => "Negotiation timed out"
  | invalidEnvelope _ => "Invalid negotiation envelope"
  | missingChannelMaterial =>
    "The peer agreed on a secure channel but did not send its channel material"
  | invalidChannelMaterial _ => "Invalid channel material"
  | identityMismatch expected received =>
    "The peer identified as " ++ received.text ++ " but the address expects " ++ expected.text
  | rejected identity =>
    "Rejecting peer " ++ identity.text ++ ", its identity does not match its channel material"
  | handshake => "Secure channel handshake failed: Error while encrypting payload"
  | registry _ => "No channel material for the peer"

end PeerLink
