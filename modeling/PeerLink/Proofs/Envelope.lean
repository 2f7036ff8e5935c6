import PeerLink.Envelope
import PeerLink.Proofs.Hex
import PeerLink.Proofs.Json.Tagged

/-!
# Envelopes survive the stream

Every envelope is read back from its octets, whatever tags it offers and whatever material it
carries.
-/

namespace PeerLink

open Json

/-- A descriptor is read back from its tree. -/
theorem UpgradeDescriptor.ofTree_toJson (descriptor : UpgradeDescriptor) :
    UpgradeDescriptor.decoder.ofTree descriptor.toJson = some descriptor := rfl

/-- Material is read back from its text. -/
theorem ChannelMaterial.ofTree_text (material : ChannelMaterial) :
    ChannelMaterial.decoder.ofTree (.string material.text) = some material := by
  have octets := Hex.decode_encode material.bytes
  simp only [decoder, Decoder.filterMap, Decoder.string, Decoder.scalar, text, octets,
    Option.bind_eq_bind, Option.bind_some]

namespace Envelope

/-- The members of an envelope are not nested deeply. -/
theorem shallow_members (envelope : Envelope) :
    ∀ member ∈ envelope.members, Shallow 126 member.2 := by
  intro member mem
  simp only [members, List.mem_cons, List.not_mem_nil, or_false] at mem
  rcases mem with rfl | rfl
  · refine .array fun element mem => ?_
    obtain ⟨descriptor, -, rfl⟩ := List.mem_map.1 mem
    refine .object fun member mem => ?_
    obtain rfl := List.mem_singleton.1 mem
    exact .string
  · cases envelope.material with
    | none => exact .null
    | some material => exact .string

/-- The offered upgrades are read back from their tree. -/
theorem ofTree_offered (offered : List UpgradeDescriptor) :
    (Decoder.list UpgradeDescriptor.decoder).ofTree
      (.array (offered.map UpgradeDescriptor.toJson)) = some offered := by
  show (offered.map UpgradeDescriptor.toJson).mapM UpgradeDescriptor.decoder.ofTree = some offered
  induction offered with
  | nil => rfl
  | cons descriptor rest ih =>
    rw [List.map_cons, List.mapM_cons, descriptor.ofTree_toJson, ih]
    rfl

/-- The JSON value of material, or of the lack of it. -/
def materialTree : Option ChannelMaterial → Json
  | none => .null
  | some material => .string material.text

/-- Material, or the lack of it, is read from its tree. -/
theorem ofTree_materialTree (material : Option ChannelMaterial) :
    (Decoder.optional ChannelMaterial.decoder).ofTree (materialTree material) = some material := by
  cases material with
  | none => rfl
  | some material =>
    have read := material.ofTree_text
    simp only [materialTree, Decoder.optional, read, Option.map_some]

/-- An envelope is read back from its tree. -/
theorem ofTree_members (envelope : Envelope) :
    decoder.ofTree (.object envelope.members) = some envelope := by
  obtain ⟨offered, material⟩ := envelope
  have offered_read := ofTree_offered offered
  unfold decoder Decoder.filterMap Decoder.record
  cases material with
  | none =>
    simp [members, Decoder.fieldsOfMembers, Decoder.Field.required, Decoder.Field.defaulted,
      offered_read, Decoder.optional, Decoder.fillAbsent]
  | some material =>
    have material_read := material.ofTree_text
    simp [members, Decoder.fieldsOfMembers, Decoder.Field.required, Decoder.Field.defaulted,
      offered_read, Decoder.optional, material_read, Decoder.fillAbsent]

/-- An envelope is read back from its octets. -/
theorem decode_encode (envelope : Envelope) : decode envelope.encode = .ok envelope := by
  refine Decoder.decode_tagged decoder ?_ envelope.shallow_members envelope.ofTree_members
  intro member mem
  simp only [members, List.mem_cons, List.not_mem_nil, or_false] at mem
  rcases mem with rfl | rfl
  · show "offeredUpgrades" ≠ markName
    decide
  · show "channelMaterial" ≠ markName
    decide

end Envelope

end PeerLink
