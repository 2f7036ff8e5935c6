import Mathlib.Data.List.Permutation
import PeerLink.Proofs.Envelope
import PeerLink.Proofs.Json.Tagged

/-!
# Envelopes of other peers

Peers of different ages understand each other: an envelope is read from any spelling of any object
that has its members, in any order and with any members of other names between them, and so is each
descriptor in it.

A record that is read from a tree skips the members that it does not know
(`fieldsOfMembers_filter`), so that only the known ones and their order are left to look at.
-/

namespace PeerLink

namespace Json

/-- An object has these members, in any order, and no others of their names. -/
def Extends (own members : List (String × Json)) : Prop :=
  (members.filter fun member => (own.map (·.1)).contains member.1).Perm own

/-- One of the members of an object is there once, and the others are among the rest. -/
theorem Extends.uncons {name : String} {value : Json} {own members : List (String × Json)}
    (extended : Extends ((name, value) :: own) members) (others : ∀ member ∈ own, member.1 ≠ name) :
    members.filter (·.1 == name) = [(name, value)] ∧
      Extends own (members.filter (·.1 != name)) := by
  have only : ((name, value) :: own).filter (·.1 == name) = [(name, value)] := by
    have none : own.filter (·.1 == name) = [] :=
      List.filter_eq_nil_iff.2 fun member mem => by simpa using others member mem
    rw [List.filter_cons, if_pos (beq_self_eq_true name), none]
  have rest : ((name, value) :: own).filter (·.1 != name) = own := by
    have all : own.filter (·.1 != name) = own :=
      List.filter_eq_self.2 fun member mem => by simpa using others member mem
    rw [List.filter_cons, if_neg (by simp), all]
  have one := List.Perm.filter (·.1 == name) extended
  have more := List.Perm.filter (·.1 != name) extended
  rw [only, List.filter_filter] at one
  rw [rest, List.filter_filter] at more
  have known (member : String × Json) : (((name, value) :: own).map (·.1)).contains member.1 =
      (member.1 == name || (own.map (·.1)).contains member.1) := by
    rw [List.map_cons, List.contains_cons]
  simp only [known] at one more
  constructor
  · refine List.perm_singleton.1 (.trans (.of_eq (List.filter_congr fun member _ => ?_)) one)
    cases member.1 == name <;> rfl
  · rw [Extends, List.filter_filter]
    refine .trans (.of_eq (List.filter_congr fun member _ => ?_)) more
    rw [bne]
    cases member.1 == name <;> cases (own.map (·.1)).contains member.1 <;> rfl

/-- Members that a record does not know are skipped. -/
theorem Decoder.fieldsOfMembers_filter {σ : Type} (fields : List (Decoder.Field σ))
    (seen : List String) (state : σ) (members : List (String × Json)) :
    Decoder.fieldsOfMembers fields seen state members =
      Decoder.fieldsOfMembers fields seen state
        (members.filter fun member => (fields.find? (·.name == member.1)).isSome) := by
  induction members generalizing seen state with
  | nil => rfl
  | cons member rest ih =>
    obtain ⟨name, tree⟩ := member
    rw [Decoder.fieldsOfMembers, List.filter_cons]
    cases found : fields.find? (·.name == name) with
    | none => simp only [Option.isSome_none, Bool.false_eq_true, if_false, ih]
    | some field => simp only [found, Option.isSome_some, if_true, Decoder.fieldsOfMembers, ih]

/-- A record is read from an object with its members if it is read from them in any order. -/
theorem Decoder.record_ofTree_extends {σ : Type} {fields : List (Decoder.Field σ)} {start value : σ}
    {own members : List (String × Json)} (extended : Extends own members)
    (names : fields.map (·.name) = own.map (·.1))
    (read : ∀ members, members.Perm own →
      Decoder.fieldsOfMembers fields [] start members = some value) :
    (Decoder.record fields start).ofTree (.object members) = some value := by
  have known (member : String × Json) : (fields.find? (·.name == member.1)).isSome =
      (own.map (·.1)).contains member.1 := by
    rw [← names, Bool.eq_iff_iff, List.find?_isSome, List.contains_iff_mem, List.mem_map]
    simp only [beq_iff_eq]
  show Decoder.fieldsOfMembers fields [] start members = some value
  rw [Decoder.fieldsOfMembers_filter]
  simp only [known]
  exact read _ extended

end Json

open Json

/-- An object that a descriptor is read from. -/
def UpgradeDescriptor.Variant (descriptor : UpgradeDescriptor) (tree : Json) : Prop :=
  ∃ members, tree = .object members ∧ Extends [("tag", .string descriptor.tag)] members

/-- A descriptor is read from each of its variants. -/
theorem UpgradeDescriptor.ofTree_variant {descriptor : UpgradeDescriptor} {tree : Json}
    (variant : descriptor.Variant tree) : decoder.ofTree tree = some descriptor := by
  obtain ⟨members, rfl, extended⟩ := variant
  refine Option.bind_eq_some_iff.2 ⟨some descriptor.tag,
    Decoder.record_ofTree_extends extended rfl fun members ordered => ?_, rfl⟩
  rw [List.perm_singleton.1 ordered]
  rfl

namespace Envelope

/-- Members of an object that an envelope is read from. -/
def Variant (envelope : Envelope) (members : List (String × Json)) : Prop :=
  ∃ descriptors, List.Forall₂ UpgradeDescriptor.Variant envelope.offered descriptors ∧
    Extends [(markName, .string mark), ("offeredUpgrades", .array descriptors),
      ("channelMaterial", materialTree envelope.material)] members

/-- The offered upgrades are read from variants of them. -/
theorem ofTree_offered_variant {offered : List UpgradeDescriptor} {trees : List Json}
    (variants : List.Forall₂ UpgradeDescriptor.Variant offered trees) :
    (Decoder.list UpgradeDescriptor.decoder).ofTree (.array trees) = some offered := by
  show trees.mapM UpgradeDescriptor.decoder.ofTree = some offered
  induction variants with
  | nil => rfl
  | cons variant _ ih =>
    rw [List.mapM_cons, UpgradeDescriptor.ofTree_variant variant, ih]
    rfl

/-- An envelope is read from each of its variants, without the mark. -/
theorem ofTree_variant {envelope : Envelope} {members : List (String × Json)}
    {descriptors : List Json}
    (variants : List.Forall₂ UpgradeDescriptor.Variant envelope.offered descriptors)
    (extended : Extends [("offeredUpgrades", .array descriptors),
      ("channelMaterial", materialTree envelope.material)] members) :
    decoder.ofTree (.object members) = some envelope := by
  have offered_read := ofTree_offered_variant variants
  have material_read := ofTree_materialTree envelope.material
  refine Option.bind_eq_some_iff.2 ⟨(some envelope.offered, envelope.material),
    Decoder.record_ofTree_extends extended rfl fun members ordered => ?_, rfl⟩
  -- The two members may come in either order.
  rcases List.perm_pair.1 ordered with rfl | rfl
  all_goals
    simp [Decoder.fieldsOfMembers, Decoder.Field.required, Decoder.Field.defaulted, offered_read,
      material_read, Decoder.fillAbsent]

/-- An envelope is decoded from any spelling of each of its variants. -/
theorem decode_variant {envelope : Envelope} {members : List (String × Json)} {octets : Bytes}
    (variant : envelope.Variant members) (spells : Spells 127 octets (.object members)) :
    decode octets = .ok envelope := by
  obtain ⟨descriptors, variants, extended⟩ := variant
  obtain ⟨once, rest⟩ := extended.uncons (by
    intro member mem
    simp only [List.mem_cons, List.not_mem_nil, or_false] at mem
    rcases mem with rfl | rfl
    · show "offeredUpgrades" ≠ markName
      decide
    · show "channelMaterial" ≠ markName
      decide)
  exact Decoder.decode_spelled decoder spells once (ofTree_variant variants rest)

end Envelope

end PeerLink
