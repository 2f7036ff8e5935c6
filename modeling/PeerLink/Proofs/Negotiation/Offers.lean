import PeerLink.Negotiation.Basic
import PeerLink.Proofs.Envelope

/-!
# What is offered and agreed on

There is one kind of upgrades, so that a side offers the secure channel or nothing. Two sides agree
on it if both offer it, and otherwise on a bare stream; what they offer fits a frame by far.
-/

namespace PeerLink

namespace Upgrades

/-- A side has no upgrade, or the secure channel. -/
theorem entries_eq (upgrades : Upgrades) :
    upgrades.entries = [] ∨ ∃ channel, upgrades.entries = [.secureChannel channel] := by
  obtain ⟨entries, nodup⟩ := upgrades
  match entries with
  | [] => exact .inl rfl
  | [.secureChannel channel] => exact .inr ⟨channel, rfl⟩
  | .secureChannel _ :: .secureChannel _ :: _ =>
    -- Both are of the one kind that there is.
    simp [Upgrade.kind] at nodup

variable {suite : Suite} {upgrades : Upgrades}

/-- Without a secure channel there are no upgrades. -/
theorem kinds_of_none (h : upgrades.secureChannel? = none) : upgrades.kinds = [] := by
  rcases upgrades.entries_eq with none | ⟨channel, one⟩
  · rw [kinds, none, List.map_nil]
  · rw [secureChannel?, get?, one] at h
    simp [Upgrade.kind] at h

/-- With a secure channel this is the only upgrade. -/
theorem kinds_of_some {channel : SecureChannel} (h : upgrades.secureChannel? = some channel) :
    upgrades.kinds = [.secureChannel] := by
  rcases upgrades.entries_eq with none | ⟨channel', one⟩
  · rw [secureChannel?, get?, none] at h
    simp at h
  · rw [kinds, one]
    rfl

/-- Without a secure channel nothing is offered. -/
theorem envelope_of_none (h : upgrades.secureChannel? = none) :
    upgrades.envelope suite = ⟨[], none⟩ := by
  rw [envelope, kinds_of_none h, h]
  rfl

/-- With a secure channel it is offered, together with the public key. -/
theorem envelope_of_some {channel : SecureChannel} (h : upgrades.secureChannel? = some channel) :
    upgrades.envelope suite =
      ⟨[.ofKind .secureChannel], some (.ofPublicKey (channel.identity suite))⟩ := by
  rw [envelope, kinds_of_some h, h]
  rfl

/-- The text of the material of a public key. -/
theorem length_text_ofPublicKey (key : PublicKey) :
    (ChannelMaterial.ofPublicKey key).text.toList.length = 88 := by
  have digits (bytes : Bytes) : (Hex.digits bytes).length = 2 * bytes.length := by
    rw [Hex.digits, List.length_flatMap]
    simp [List.map_const', Nat.mul_comm]
  rw [ChannelMaterial.text, Hex.encode, String.toList_ofList, digits]
  show 2 * key.toDer.length = 88
  rw [PublicKey.length_toDer]
  rfl

/-- What is offered fits a frame. -/
theorem length_envelope_le (suite : Suite) (upgrades : Upgrades) :
    (upgrades.envelope suite).encode.length ≤ LengthPrefixed.maxSize := by
  have limit : LengthPrefixed.maxSize = 8388608 := rfl
  have markName := Json.length_tailOctets_le "tag"
  have mark := Json.length_tailOctets_le "NEGOTIATION"
  have offeredName := Json.length_tailOctets_le "offeredUpgrades"
  have materialName := Json.length_tailOctets_le "channelMaterial"
  have tag := Json.length_tailOctets_le "SECURE_CHANNEL"
  have null : Json.null.encode.length = 4 := rfl
  simp only [show "tag".toList.length = 3 from rfl, show "NEGOTIATION".toList.length = 11 from rfl,
    show "offeredUpgrades".toList.length = 15 from rfl,
    show "channelMaterial".toList.length = 15 from rfl,
    show "SECURE_CHANNEL".toList.length = 14 from rfl] at markName mark offeredName materialName tag
  cases h : upgrades.secureChannel? with
  | none =>
    rw [envelope_of_none h]
    simp only [Envelope.encode, Envelope.members, Envelope.markName, Envelope.mark, List.map_nil,
      Json.encode_object, Json.membersOctets, Json.memberOctets, Json.encode_string,
      Json.encode_array, Json.elementsOctets, List.length_cons, List.length_append,
      List.length_nil, if_true, Bool.false_eq_true, if_false, null]
    -- The lengths are numbers from here on, so that no text is computed to compare them.
    generalize (Json.tailOctets "tag").length = a at *
    generalize (Json.tailOctets "NEGOTIATION").length = b at *
    generalize (Json.tailOctets "offeredUpgrades").length = c at *
    generalize (Json.tailOctets "channelMaterial").length = d at *
    omega
  | some channel =>
    have text :=
      Json.length_tailOctets_le (ChannelMaterial.ofPublicKey (channel.identity suite)).text
    rw [length_text_ofPublicKey] at text
    rw [envelope_of_some h]
    simp only [Envelope.encode, Envelope.members, Envelope.markName, Envelope.mark, List.map_cons,
      List.map_nil, UpgradeDescriptor.toJson, UpgradeDescriptor.ofKind, UpgradeKind.tag,
      Json.encode_object, Json.membersOctets, Json.memberOctets, Json.encode_string,
      Json.encode_array, Json.elementsOctets, List.length_cons, List.length_append,
      List.length_nil, if_true, Bool.false_eq_true, if_false]
    generalize (Json.tailOctets "tag").length = a at *
    generalize (Json.tailOctets "NEGOTIATION").length = b at *
    generalize (Json.tailOctets "offeredUpgrades").length = c at *
    generalize (Json.tailOctets "channelMaterial").length = d at *
    generalize (Json.tailOctets "SECURE_CHANNEL").length = e at *
    generalize (Json.tailOctets _).length = f at *
    omega

/-- A side has a secure channel, and an envelope offers one. -/
def Shares (upgrades : Upgrades) (envelope : Envelope) : Prop :=
  upgrades.secureChannel? ≠ none ∧
    ∃ descriptor ∈ envelope.offered, descriptor.kind? = some .secureChannel

variable {envelope : Envelope}

/-- The secure channel is shared. -/
theorem intersect_of_shares (h : upgrades.Shares envelope) :
    upgrades.intersect envelope.offered = [.secureChannel] := by
  obtain ⟨some_channel, descriptor, mem, kind⟩ := h
  obtain ⟨channel, mine⟩ := Option.ne_none_iff_exists'.1 some_channel
  have any : (envelope.offered.any fun descriptor =>
      descriptor.kind? == some .secureChannel) = true :=
    List.any_eq_true.2 ⟨descriptor, mem, by simp [kind]⟩
  rw [intersect, kinds_of_some mine, List.filter_cons, if_pos any, List.filter_nil]

/-- Nothing is shared if the secure channel is not. -/
theorem intersect_of_not_shares (h : ¬ upgrades.Shares envelope) :
    upgrades.intersect envelope.offered = [] := by
  cases mine : upgrades.secureChannel? with
  | none => rw [intersect, kinds_of_none mine, List.filter_nil]
  | some channel =>
    have not_any : ¬ (envelope.offered.any fun descriptor =>
        descriptor.kind? == some .secureChannel) = true := by
      intro any
      obtain ⟨descriptor, mem, kind⟩ := List.any_eq_true.1 any
      exact h ⟨by simp [mine], descriptor, mem, eq_of_beq kind⟩
    rw [intersect, kinds_of_some mine, List.filter_cons, if_neg not_any, List.filter_nil]

/-- Two sides share the secure channel if both have it. -/
theorem shares_envelope_iff {upgrades' : Upgrades} :
    upgrades.Shares (upgrades'.envelope suite) ↔
      upgrades.secureChannel? ≠ none ∧ upgrades'.secureChannel? ≠ none := by
  refine and_congr_right fun _ => ?_
  cases yours : upgrades'.secureChannel? with
  | none => simp [envelope_of_none yours]
  | some channel =>
    rw [envelope_of_some yours]
    exact ⟨fun _ => Option.some_ne_none _, fun _ => ⟨_, List.mem_singleton_self _, rfl⟩⟩

end Upgrades

namespace Negotiation

variable {suite : Suite} {party : Party} {upgrades : Upgrades} {envelope : Envelope}

/-- A side agrees on a bare stream with an envelope that does not share the secure channel with it,
whomever it wants to reach. -/
theorem agree_of_not_shares (h : ¬ party.upgrades.Shares envelope) :
    agree party envelope = .ok ⟨.bare, none⟩ := by
  rw [agree, Upgrades.intersect_of_not_shares h]
  cases party.upgrades.secureChannel? <;> rfl

/-- What a side agrees on with an envelope that shares the secure channel with it. -/
theorem agree_of_shares {channel : SecureChannel}
    (mine : party.upgrades.secureChannel? = some channel) (h : party.upgrades.Shares envelope) :
    agree party envelope =
      match envelope.material with
      | none => .error .missingChannelMaterial
      | some material =>
        match material.publicKey with
        | .error e => .error (.invalidChannelMaterial e)
        | .ok key =>
          match party.expected with
          | none => .ok ⟨.resolved [.secureChannel], some (channel.secret, key)⟩
          | some expected =>
            if expected = key then .ok ⟨.resolved [.secureChannel], some (channel.secret, key)⟩
            else .error (.identityMismatch expected key) := by
  have contains : (Resolution.ofKinds [.secureChannel]).contains .secureChannel = true := rfl
  rw [agree, Upgrades.intersect_of_shares h, mine]
  simp only [contains, if_true]
  rfl

/-- A side that agrees without a key does not share the secure channel. -/
theorem not_shares_of_agree {resolution : Resolution}
    (h : agree party envelope = .ok ⟨resolution, none⟩) :
    ¬ party.upgrades.Shares envelope ∧ resolution = .bare := by
  by_cases shares : party.upgrades.Shares envelope
  · obtain ⟨channel, mine⟩ := Option.ne_none_iff_exists'.1 shares.1
    rw [agree_of_shares mine shares] at h
    split at h
    · simp at h
    · split at h
      · simp at h
      · split at h
        · simp at h
        · split at h <;> simp at h
  · rw [agree_of_not_shares shares] at h
    exact ⟨shares, (Agreement.mk.inj (Except.ok.inj h)).1.symm⟩

/-- A side that agrees on a key shares the secure channel, and the key is the one that it expects,
if it expects one. -/
theorem shares_of_agree {resolution : Resolution} {secret : SecretKey} {key : PublicKey}
    (h : agree party envelope = .ok ⟨resolution, some (secret, key)⟩) :
    party.upgrades.Shares envelope ∧ resolution = .resolved [.secureChannel] ∧
      (∃ channel, party.upgrades.secureChannel? = some channel ∧ channel.secret = secret) ∧
      (party.expected = none ∨ party.expected = some key) := by
  by_cases shares : party.upgrades.Shares envelope
  · obtain ⟨channel, mine⟩ := Option.ne_none_iff_exists'.1 shares.1
    rw [agree_of_shares mine shares] at h
    split at h
    · simp at h
    · split at h
      · simp at h
      · split at h
        · rename_i expects
          simp only [Except.ok.injEq, Agreement.mk.injEq, Option.some.injEq, Prod.mk.injEq] at h
          obtain ⟨rfl, rfl, rfl⟩ := h
          exact ⟨shares, rfl, ⟨channel, mine, rfl⟩, .inl expects⟩
        · -- A key is expected, and the one that was sent is compared with it.
          rename_i expected expects
          split at h
          · rename_i same
            simp only [Except.ok.injEq, Agreement.mk.injEq, Option.some.injEq, Prod.mk.injEq] at h
            obtain ⟨rfl, rfl, rfl⟩ := h
            exact ⟨shares, rfl, ⟨channel, mine, rfl⟩, .inr (same ▸ expects)⟩
          · simp at h
  · rw [agree_of_not_shares shares] at h
    simp at h

/-- Two sides agree on a bare stream if one of them has no secure channel. -/
theorem agree_bare (h : party.upgrades.secureChannel? = none ∨ upgrades.secureChannel? = none) :
    agree party (upgrades.envelope suite) = .ok ⟨.bare, none⟩ := by
  refine agree_of_not_shares fun shares => ?_
  obtain ⟨mine, yours⟩ := Upgrades.shares_envelope_iff.1 shares
  rcases h with h | h
  · exact mine h
  · exact yours h

/-- What a party with a secure channel agrees on with another one: it depends on the key that it
expects. -/
theorem agree_of_channels {channel channel' : SecureChannel}
    (mine : party.upgrades.secureChannel? = some channel)
    (yours : upgrades.secureChannel? = some channel') :
    agree party (upgrades.envelope suite) =
      match party.expected with
      | none =>
        .ok ⟨.resolved [.secureChannel], some (channel.secret, channel'.identity suite)⟩
      | some expected =>
        if expected = channel'.identity suite then
          .ok ⟨.resolved [.secureChannel], some (channel.secret, channel'.identity suite)⟩
        else .error (.identityMismatch expected (channel'.identity suite)) := by
  have shares : party.upgrades.Shares (upgrades.envelope suite) :=
    Upgrades.shares_envelope_iff.2 ⟨by simp [mine], by simp [yours]⟩
  have material : (ChannelMaterial.ofPublicKey (channel'.identity suite)).publicKey =
      .ok (channel'.identity suite) := PublicKey.ofDer_toDer _
  rw [agree_of_shares mine shares]
  simp only [Upgrades.envelope_of_some yours, material]

/-- Two sides agree on the secure channel if both have it and the key is the expected one. -/
theorem agree_secure {channel channel' : SecureChannel}
    (mine : party.upgrades.secureChannel? = some channel)
    (yours : upgrades.secureChannel? = some channel')
    (expected : party.expected = none ∨ party.expected = some (channel'.identity suite)) :
    agree party (upgrades.envelope suite) =
      .ok ⟨.resolved [.secureChannel], some (channel.secret, channel'.identity suite)⟩ := by
  rw [agree_of_channels mine yours]
  rcases expected with expected | expected
  · rw [expected]
  · rw [expected]
    exact if_pos rfl

/-- A party that expects another key does not agree. -/
theorem agree_mismatch {channel channel' : SecureChannel}
    (mine : party.upgrades.secureChannel? = some channel)
    (yours : upgrades.secureChannel? = some channel') {expected : PublicKey}
    (expects : party.expected = some expected) (other : expected ≠ channel'.identity suite) :
    agree party (upgrades.envelope suite) =
      .error (.identityMismatch expected (channel'.identity suite)) := by
  rw [agree_of_channels mine yours, expects]
  exact if_neg other

end Negotiation

end PeerLink
