import PeerLink.Proofs.Envelope
import PeerLink.Proofs.Json.Records

/-!
# The normal form of envelopes

An envelope has one text that it is written as: the members in one order, no blanks, the material in
lower case and `null` where there is none. It is read back from this text, with its mark and without
it, so that any text of an envelope has a normal form that stands for the same envelope.
-/

namespace PeerLink

open Json

/-! ## The text without its mark -/

/-- A descriptor is read from every spelling of its tree. -/
theorem UpgradeDescriptor.decodes_toJson (descriptor : UpgradeDescriptor) :
    Decoder.Decodes decoder descriptor.toJson descriptor := by
  have tag_read := Decoder.decodes_string descriptor.tag
  exact Decoder.Decodes.filterMap
    (Decoder.decodes_record (.cons rfl rfl (tag_read.required _ _ _) .nil) rfl) rfl

/-- Material is read from every spelling of its text. -/
theorem ChannelMaterial.decodes_text (material : ChannelMaterial) :
    Decoder.Decodes decoder (.string material.text) material := by
  refine (Decoder.decodes_string material.text).filterMap ?_
  simp only [text, Hex.decode_encode]

namespace Envelope

/-- Offered upgrades are read from every spelling of their trees. -/
theorem decodes_offered (offered : List UpgradeDescriptor) :
    Decoder.Decodes (.list UpgradeDescriptor.decoder)
      (.array (offered.map UpgradeDescriptor.toJson)) offered := by
  refine Decoder.decodes_list ?_
  rw [List.forall₂_map_left_iff]
  exact List.forall₂_same.2 fun descriptor _ => descriptor.decodes_toJson

/-- Material, or the lack of it, is read from every spelling of its tree. -/
theorem decodes_material (material : Option ChannelMaterial) :
    Decoder.Decodes (.optional ChannelMaterial.decoder) (materialTree material) material := by
  cases material with
  | none => exact Decoder.decodes_null _
  | some material => exact material.decodes_text.optional (by simp)

/-- An envelope is read from every spelling of its tree without its mark. -/
theorem decodes_toJson (envelope : Envelope) :
    Decoder.Decodes decoder envelope.toJson envelope := by
  have offered_read := decodes_offered envelope.offered
  have material_read := decodes_material envelope.material
  exact Decoder.Decodes.filterMap (Decoder.decodes_record
    (.cons rfl rfl (offered_read.required _ _ _)
      (.cons rfl rfl (material_read.defaulted _ _ _) .nil)) rfl) rfl

/-- An envelope is read back from its text without its mark. -/
theorem decode_toJson (envelope : Envelope) :
    decoder.decode envelope.toJson.encode = .ok envelope := by
  have shallow : Shallow depthLimit envelope.toJson := .object envelope.shallow_members
  exact envelope.decodes_toJson.decode (spells_encode shallow)

end Envelope

/-! ## The normal form -/

/-- The normal text of a descriptor. -/
def UpgradeDescriptor.normalText (descriptor : UpgradeDescriptor) : List Char :=
  "\x7b\"tag\":".toList ++ stringChars descriptor.tag ++ ['\x7d']

/-- The normal text of material, or of the lack of it. -/
def ChannelMaterial.normalText : Option ChannelMaterial → List Char
  | none => "null".toList
  | some material => '"' :: (Hex.digits material.bytes ++ ['"'])

namespace Envelope

/-- The normal text of the members of an envelope. -/
def normalMembers (envelope : Envelope) : List Char :=
  "\"offeredUpgrades\":[".toList ++
    [','].intercalate (envelope.offered.map UpgradeDescriptor.normalText) ++
    "],\"channelMaterial\":".toList ++ ChannelMaterial.normalText envelope.material

/-- The normal text of an envelope on a stream. -/
def normalText (envelope : Envelope) : List Char :=
  "\x7b\"tag\":\"NEGOTIATION\",".toList ++ envelope.normalMembers ++ ['\x7d']

/-- The octets that an envelope read from octets is written as. -/
def normalize (octets : Bytes) : Except Fault Bytes :=
  (decode octets).map encode

end Envelope

/-- A descriptor is written as its normal text. -/
theorem UpgradeDescriptor.encode_toJson (descriptor : UpgradeDescriptor) :
    descriptor.toJson.encode = Utf8.encode descriptor.normalText := by
  have head : Utf8.encode "\x7b\"tag\":".toList = 123 :: 34 :: (tailOctets "tag" ++ [58]) := by
    decide +kernel
  unfold normalText
  rw [Utf8.encode_append, Utf8.encode_append, head, encode_stringChars, toJson,
    encode_object, membersOctets, memberOctets, encode_string]
  simp [membersOctets, Utf8.encode, Utf8.encodeChar]

/-- A hexadecimal digit stands for itself in a string. -/
theorem Hex.escapeChar_digit : ∀ n, n < 16 → escapeChar (digit n) = [digit n] := by
  decide

/-- A hexadecimal digit is one of ten figures and six small letters. -/
theorem Hex.digit_mem : ∀ n, n < 16 → digit n ∈ "0123456789abcdef".toList := by
  decide

/-- The digits of octets stand for themselves in a string. -/
theorem Hex.flatMap_escapeChar_digits (bytes : Bytes) :
    (digits bytes).flatMap escapeChar = digits bytes := by
  have two (b : UInt8) : [digit (b.toNat / 16), digit (b.toNat % 16)].flatMap escapeChar =
      [digit (b.toNat / 16), digit (b.toNat % 16)] := by
    have bound := b.toNat_lt
    have high := escapeChar_digit (b.toNat / 16) (by omega)
    have low := escapeChar_digit (b.toNat % 16) (by omega)
    simp [high, low]
  rw [digits, List.flatMap_assoc]
  simp only [two]

/-- The digits of octets are ten figures and six small letters. -/
theorem Hex.mem_of_mem_digits {bytes : Bytes} {c : Char} (mem : c ∈ digits bytes) :
    c ∈ "0123456789abcdef".toList := by
  obtain ⟨b, -, mem⟩ := List.mem_flatMap.1 mem
  have bound := b.toNat_lt
  simp only [List.mem_cons, List.not_mem_nil, or_false] at mem
  rcases mem with rfl | rfl
  · exact digit_mem _ (by omega)
  · exact digit_mem _ (by omega)

/-- Material, or the lack of it, is written as its normal text. -/
theorem ChannelMaterial.encode_normalText (material : Option ChannelMaterial) :
    (Envelope.materialTree material).encode = Utf8.encode (normalText material) := by
  cases material with
  | none => rfl
  | some material =>
    rw [Envelope.materialTree, encode_string, ← encode_stringChars, stringChars, text, Hex.encode,
      String.toList_ofList, Hex.flatMap_escapeChar_digits]
    rfl

/-- The text of parts with separators between them is written part by part. -/
theorem Utf8.encode_intercalate (separator : List Char) (parts : List (List Char)) :
    encode (separator.intercalate parts) =
      (encode separator).intercalate (parts.map encode) := by
  cases parts with
  | nil => rfl
  | cons part parts =>
    have later : encode (parts.flatMap (separator ++ ·)) =
        (parts.map encode).flatMap (encode separator ++ ·) := by
      simp only [List.flatMap_map, ← encode_append]
      exact List.flatMap_assoc
    rw [List.map_cons, intercalate_cons_flatMap, intercalate_cons_flatMap, encode_append, later]

namespace Envelope

/-- The members of an envelope are written as their normal text. -/
theorem membersOctets_eq (envelope : Envelope) :
    membersOctets true envelope.members = Utf8.encode envelope.normalMembers ++ [125] := by
  have comma : Utf8.encode [','] = [44] := rfl
  have offered : elementsOctets true (envelope.offered.map UpgradeDescriptor.toJson) =
      Utf8.encode ([','].intercalate (envelope.offered.map UpgradeDescriptor.normalText)) ++
        [93] := by
    rw [elementsOctets_eq_intercalate, Utf8.encode_intercalate, comma, List.map_map, List.map_map]
    exact congrArg (List.intercalate [44] · ++ [93])
      (List.map_congr_left fun descriptor _ => descriptor.encode_toJson)
  have material := ChannelMaterial.encode_normalText envelope.material
  have head : Utf8.encode "\"offeredUpgrades\":[".toList =
      34 :: (tailOctets "offeredUpgrades" ++ [58, 91]) := by
    decide +kernel
  have next : Utf8.encode "],\"channelMaterial\":".toList =
      93 :: 44 :: 34 :: (tailOctets "channelMaterial" ++ [58]) := by
    decide +kernel
  unfold normalMembers
  rw [Utf8.encode_append, Utf8.encode_append, Utf8.encode_append, head, next,
    ← material, members, membersOctets, membersOctets, membersOctets, memberOctets, memberOctets,
    encode_array, offered]
  simp only [List.append_assoc, List.cons_append, List.nil_append, if_true]
  rfl

/-- An envelope is written as its normal text, with its mark and without it. -/
theorem encode_eq (envelope : Envelope) :
    envelope.encode = Utf8.encode envelope.normalText ∧
      envelope.toJson.encode =
        Utf8.encode ('\x7b' :: (envelope.normalMembers ++ ['\x7d'])) := by
  have mark : Utf8.encode "\x7b\"tag\":\"NEGOTIATION\",".toList =
      123 :: (memberOctets markName (.string Envelope.mark) ++ [44]) := by
    decide +kernel
  have opening : Utf8.encodeChar '\x7b' = [123] := rfl
  have closing : Utf8.encode ['\x7d'] = [125] := rfl
  have members := envelope.membersOctets_eq
  have behind : membersOctets false envelope.members = 44 :: membersOctets true envelope.members :=
    rfl
  constructor
  · unfold normalText
    rw [Utf8.encode_append, Utf8.encode_append, mark, closing, encode, encode_object,
      membersOctets, behind, members]
    simp
  · rw [Utf8.encode_cons, Utf8.encode_append, opening, closing, ← members, toJson, encode_object]
    rfl

/-- Envelopes survive the stream: each one is read back from its octets, with the mark and without
it, whatever tags it offers and whatever material it carries. What is read from any octets has one
normal form, with the material in lower case or `null`; the normal form stands for the same envelope
and is its own normal form. -/
theorem envelopes_survive :
    (∀ envelope : Envelope, decode envelope.encode = .ok envelope ∧
      decoder.decode envelope.toJson.encode = .ok envelope) ∧
      (∀ envelope : Envelope, envelope.encode = Utf8.encode envelope.normalText ∧
        envelope.toJson.encode =
          Utf8.encode ('\x7b' :: (envelope.normalMembers ++ ['\x7d'])) ∧
        ∀ material, envelope.material = some material →
          ∀ c ∈ Hex.digits material.bytes, c ∈ "0123456789abcdef".toList) ∧
      ∀ octets envelope, decode octets = .ok envelope →
        normalize octets = .ok envelope.encode ∧ decode envelope.encode = .ok envelope ∧
          normalize envelope.encode = .ok envelope.encode := by
  have normalized {octets : Bytes} {envelope : Envelope} (read : decode octets = .ok envelope) :
      normalize octets = .ok envelope.encode := by
    rw [normalize, read]
    rfl
  refine ⟨fun envelope => ⟨envelope.decode_encode, envelope.decode_toJson⟩, ?_, ?_⟩
  · intro envelope
    obtain ⟨marked, unmarked⟩ := envelope.encode_eq
    exact ⟨marked, unmarked, fun _ _ _ => Hex.mem_of_mem_digits⟩
  · intro octets envelope read
    exact ⟨normalized read, envelope.decode_encode, normalized envelope.decode_encode⟩

/-- The octets of an envelope with material in upper case, in front of its mark. -/
def denormal : Bytes :=
  Utf8.encode ("\x7b \"channelMaterial\":\"0A\",".toList ++
    "\"tag\":\"NEGOTIATION\",\"offeredUpgrades\":[]\x7d".toList)

/-- Octets that are not in normal form have one. -/
theorem envelopes_survive_of_denormal :
    decode denormal = .ok ⟨[], some ⟨[10]⟩⟩ ∧
      normalize denormal = .ok (Utf8.encode (normalText ⟨[], some ⟨[10]⟩⟩)) := by
  have read : decode denormal = .ok ⟨[], some ⟨[10]⟩⟩ := by decide +kernel
  obtain ⟨-, spelled, normal⟩ := envelopes_survive
  obtain ⟨normalized, -, -⟩ := normal denormal _ read
  rw [normalized, (spelled _).1]
  exact ⟨read, rfl⟩

end Envelope

end PeerLink
