import PeerLink.Json.Decoder
import PeerLink.Json.Writer
import PeerLink.Key

/-!
# Negotiation envelopes

Both sides of a stream begin with an envelope: the tags of the upgrades they offer and, if the
secure channel is among them, the DER form of their public key. An envelope travels as a JSON
object that is marked as one; unknown members and unknown tags are no fault, so that peers of
different ages understand each other.
-/

namespace PeerLink

/-- The kinds of upgrades. -/
inductive UpgradeKind where
  /-- The secure channel. -/
  | secureChannel
  deriving DecidableEq, Repr

namespace UpgradeKind

/-- The tag that a kind is offered by. -/
def tag : UpgradeKind → String
  | secureChannel => "SECURE_CHANNEL"

/-- The kind of a tag (`from_tag`); other peers may know more of them. -/
def ofTag? (tag : String) : Option UpgradeKind :=
  if tag = "SECURE_CHANNEL" then some secureChannel else none

/-- The name of a kind in descriptions. -/
def describe : UpgradeKind → String
  | secureChannel => "SecureChannel"

/-- The kind of a tag, or why there is none. -/
def parse (tag : String) : Except String UpgradeKind :=
  match ofTag? tag with
  | none => .error ("Unknown upgrade " ++ Text.Quoted.text tag)
  | some kind => .ok kind

end UpgradeKind

/-- An upgrade as it is offered, by any tag. -/
structure UpgradeDescriptor where
  /-- The tag. -/
  tag : String
  deriving DecidableEq, Repr

namespace UpgradeDescriptor

/-- The descriptor of a kind. -/
def ofKind (kind : UpgradeKind) : UpgradeDescriptor := ⟨kind.tag⟩

/-- The kind of a descriptor, if it is known. -/
def kind? (descriptor : UpgradeDescriptor) : Option UpgradeKind :=
  UpgradeKind.ofTag? descriptor.tag

/-- The JSON value of a descriptor. -/
def toJson (descriptor : UpgradeDescriptor) : Json :=
  .object [("tag", .string descriptor.tag)]

/-- Reads a descriptor. -/
def decoder : Json.Decoder UpgradeDescriptor :=
  (Json.Decoder.record
    [.required "tag" .string fun _ tag => some tag] none).filterMap (·.map UpgradeDescriptor.mk)

end UpgradeDescriptor

/-- What a peer sends of its key: any octets, as hexadecimal text. -/
structure ChannelMaterial where
  /-- The octets. -/
  bytes : Bytes
  deriving DecidableEq, Repr

namespace ChannelMaterial

/-- The material of a public key. -/
def ofPublicKey (key : PublicKey) : ChannelMaterial := ⟨key.toDer⟩

/-- The public key of the material. -/
def publicKey (material : ChannelMaterial) : Except KeyError PublicKey :=
  PublicKey.ofDer material.bytes

/-- The text of the material. -/
def text (material : ChannelMaterial) : String :=
  Hex.encode material.bytes

/-- Reads material from its text. -/
def decoder : Json.Decoder ChannelMaterial :=
  Json.Decoder.string.filterMap fun text =>
    match Hex.decode text with
    | .error _ => none
    | .ok bytes => some ⟨bytes⟩

end ChannelMaterial

/-- What a side of a stream offers. -/
structure Envelope where
  /-- The offered upgrades. -/
  offered : List UpgradeDescriptor
  /-- The key material, if the secure channel is offered. -/
  material : Option ChannelMaterial
  deriving DecidableEq, Repr

namespace Envelope

/-- The members of the JSON object of an envelope. -/
def members (envelope : Envelope) : List (String × Json) :=
  [("offeredUpgrades", .array (envelope.offered.map UpgradeDescriptor.toJson)),
    ("channelMaterial",
      match envelope.material with
      | none => .null
      | some material => .string material.text)]

/-- The JSON value of an envelope that is not marked. -/
def toJson (envelope : Envelope) : Json :=
  .object envelope.members

/-- Reads an envelope that is not marked. The offered upgrades must be there; the key material may
be absent or `null`. -/
def decoder : Json.Decoder Envelope :=
  (Json.Decoder.record
    [.required "offeredUpgrades" (.list UpgradeDescriptor.decoder)
        fun (_, material) offered => (some offered, material),
      .defaulted "channelMaterial" (.optional ChannelMaterial.decoder)
        fun (offered, _) material => (offered, material)]
    (none, none)).filterMap fun (offered, material) => offered.map (⟨·, material⟩)

/-- The name of the member that marks an envelope on a stream. -/
def markName : String := "tag"

/-- The text of the member that marks an envelope on a stream. -/
def mark : String := "NEGOTIATION"

/-- The octets of an envelope on a stream (`encode` of the frame). -/
def encode (envelope : Envelope) : Bytes :=
  (Json.object ((markName, .string mark) :: envelope.members)).encode

/-- The envelope of octets on a stream (`decode` of the frame). -/
def decode (octets : Bytes) : Except Json.Fault Envelope :=
  (Json.Decoder.tagged markName mark decoder).decode octets

end Envelope

end PeerLink
