import PeerLink.Proofs.Connection.Halves
import PeerLink.Proofs.Envelope.Compatible
import PeerLink.Proofs.Json.Range
import PeerLink.Proofs.Negotiation.Heeding

/-!
# Negotiations with other peers

Peers of different ages negotiate with each other: of the upgrades that the other side offers, a
side takes notice only of the kinds that it knows itself, and of each of them only whether it is
there. So what a side comes to with an envelope does not depend on the spelling of the envelope, nor
on upgrades of unknown kinds in it, nor on the order of the upgrades and on repetitions.
-/

namespace PeerLink

/-- Upgrades are offered that were offered before, in any order and with repetitions, and others of
unknown kinds; none is left out. -/
structure Supplements (offered offered' : List UpgradeDescriptor) : Prop where
  /-- None is left out. -/
  kept : ∀ descriptor ∈ offered, descriptor ∈ offered'
  /-- The others are unknown. -/
  others : ∀ descriptor ∈ offered', descriptor ∈ offered ∨ descriptor.kind? = none

/-- A tag is known as a kind if it is the tag of the kind. -/
theorem UpgradeDescriptor.kind?_eq_some_iff {descriptor : UpgradeDescriptor} {kind : UpgradeKind} :
    descriptor.kind? = some kind ↔ descriptor.tag = kind.tag := by
  cases kind
  simp [kind?, UpgradeKind.ofTag?, UpgradeKind.tag]

namespace Upgrades

/-- The upgrades of both sides are the own ones whose tag is offered. -/
theorem intersect_eq_filter_tag (upgrades : Upgrades) (offered : List UpgradeDescriptor) :
    upgrades.intersect offered =
      upgrades.kinds.filter (·.tag ∈ offered.map UpgradeDescriptor.tag) := by
  refine List.filter_congr fun kind _ => ?_
  rw [Bool.eq_iff_iff, List.any_eq_true, decide_eq_true_iff, List.mem_map]
  simp only [beq_iff_eq, UpgradeDescriptor.kind?_eq_some_iff]

/-- No upgrade of both sides occurs twice. -/
theorem nodup_intersect (upgrades : Upgrades) (offered : List UpgradeDescriptor) :
    (upgrades.intersect offered).Nodup :=
  upgrades.nodup.filter _

/-- Supplements are no upgrades of both sides. -/
theorem intersect_supplements (upgrades : Upgrades) {offered offered' : List UpgradeDescriptor}
    (supplements : Supplements offered offered') :
    upgrades.intersect offered' = upgrades.intersect offered := by
  refine List.filter_congr fun kind _ => ?_
  rw [Bool.eq_iff_iff, List.any_eq_true, List.any_eq_true]
  constructor
  · rintro ⟨descriptor, mem, known⟩
    refine ⟨descriptor, (supplements.others descriptor mem).resolve_right fun unknown => ?_, known⟩
    rw [unknown] at known
    cases known
  · rintro ⟨descriptor, mem, known⟩
    exact ⟨descriptor, supplements.kept descriptor mem, known⟩

end Upgrades

namespace Negotiation

variable {suite : Suite} {envelope envelope' : Envelope}

/-- A side comes to the same with an envelope that offers more. -/
theorem agree_supplements (party : Party) (material : envelope'.material = envelope.material)
    (supplements : Supplements envelope.offered envelope'.offered) :
    agree party envelope' = agree party envelope := by
  rw [agree, agree, party.upgrades.intersect_supplements supplements, material]

/-- What a side has come to with the envelope of the other one: it gives up, it is done, or it goes
on to register a key. -/
def Move.verdict? {σ : Type} (registers : σ → Option Agreement) :
    Move σ → Option (Except NegotiationError Agreement)
  | .next state => (registers state).map .ok
  | .wait _ => none
  | .finished (.error e) => some (.error e)
  | .finished (.ok connection) => some (.ok ⟨connection.resolution, none⟩)

namespace Dialer

/-- What a dialer has agreed on that is to register a key. -/
def registers (dialer : Dialer) : Option Agreement :=
  match dialer.phase with
  | .registering _ resolution secret key => some ⟨resolution, some (secret, key)⟩
  | _ => none

/-- A dialer that reads the reply comes to what it agrees on with the envelope in it. -/
theorem verdict_step {dialer : Dialer} {registry : Registry} {stream : Stream} {offer : Bytes}
    {frames : LengthPrefixed.State} {reply rest : Bytes}
    (waits : dialer.phase = .awaitingReply offer frames) (valid : LengthPrefixed.Valid frames)
    (begins : LengthPrefixed.Begins (LengthPrefixed.head frames ++ dialer.wire.ahead stream) reply
      rest) (decoded : Envelope.decode reply = .ok envelope) :
    (dialer.step suite registry stream).1.verdict? registers =
      some (agree dialer.party envelope) := by
  obtain ⟨party, wire, phase⟩ := dialer
  obtain rfl : phase = .awaitingReply offer frames := waits
  rcases LengthPrefixed.readFrame_first NegotiationError.io valid rfl with
    ⟨reply', rest', wire', stream', begins', read, -⟩ | ⟨_, _, _, _, lacks, -⟩
  · obtain ⟨rfl, -⟩ := begins.unique begins'
    rw [step]
    simp only [framing, read, decoded]
    rcases agree party envelope with e | ⟨resolution, _ | ⟨secret, key⟩⟩ <;> rfl
  · exact absurd begins (lacks _ _)

end Dialer

namespace Listener

/-- What a listener has agreed on that is to register a key. -/
def registers (listener : Listener) : Option Agreement :=
  match listener.phase with
  | .registering _ resolution secret key => some ⟨resolution, some (secret, key)⟩
  | _ => none

/-- What a listener comes to with an envelope: it replies before it looks at the envelope. -/
def answer (suite : Suite) (listener : Listener) (stream : Stream) (envelope : Envelope) :
    Except NegotiationError Agreement :=
  let reply := LengthPrefixed.encode (listener.party.upgrades.envelope suite).encode
  match ((listener.wire.put reply).flush stream).1 with
  | .error e => .error (.io e)
  | .ok () => agree listener.party envelope

/-- A listener that reads the offer comes to its answer to the envelope in it. -/
theorem verdict_step {listener : Listener} {registry : Registry} {stream : Stream}
    {frames : LengthPrefixed.State} {offer rest : Bytes}
    (waits : listener.phase = .awaitingOffer frames) (valid : LengthPrefixed.Valid frames)
    (begins : LengthPrefixed.Begins (LengthPrefixed.head frames ++ listener.wire.ahead stream) offer
      rest) (decoded : Envelope.decode offer = .ok envelope) :
    (listener.step suite registry stream).1.verdict? registers =
      some (listener.answer suite stream envelope) := by
  obtain ⟨party, wire, phase⟩ := listener
  obtain rfl : phase = .awaitingOffer frames := waits
  rcases LengthPrefixed.readFrame_first NegotiationError.io valid rfl with
    ⟨offer', rest', wire', stream', begins', read, -⟩ | ⟨_, _, _, _, lacks, -⟩
  · obtain ⟨rfl, -⟩ := begins.unique begins'
    obtain ⟨unwritten, outbound⟩ := Wire.readFrame_keeps read
    -- The reply meets the same fate whatever was read before.
    have same : ∀ bytes,
        ((wire'.put bytes).flush stream').1 = ((wire.put bytes).flush stream).1 := by
      intro bytes
      obtain ⟨readAhead, _⟩ := wire'
      obtain ⟨inbound, _⟩ := stream'
      obtain rfl := unwritten
      obtain rfl := outbound
      exact congrArg (·.1) (Wire.flush_with (wire.put bytes) stream readAhead inbound)
    rw [step, answer]
    simp only [framing, read, decoded, ← same]
    rcases (wire'.put _).flush stream' with ⟨e | ⟨⟩, wire'', stream''⟩
    · rfl
    · rcases agree party envelope with e | ⟨resolution, _ | ⟨secret, key⟩⟩ <;> rfl
  · exact absurd begins (lacks _ _)

end Listener

/-- What a side comes to with an envelope is the same for all peers that offer at least its upgrades
and others of unknown kinds, in any order and as often as they like, and however they spell it: with
members in any order, with members of other names in the envelope and in each descriptor, and with
blanks between the tokens. The envelope is read from every such frame; of its upgrades the ones
count that the side has itself; and the keys are checked as they are without the others. The values
of the other members may be numbers as far as `10 ^ 307` at least. -/
theorem envelopes_are_compatible {members : List (String × Json)} {octets : Bytes}
    (material : envelope'.material = envelope.material)
    (supplements : Supplements envelope.offered envelope'.offered)
    (variant : envelope'.Variant members) (spells : Json.Spells 127 octets (.object members)) :
    Envelope.decode octets = .ok envelope' ∧
      (∀ upgrades : Upgrades,
        upgrades.intersect envelope'.offered = upgrades.intersect envelope.offered ∧
        upgrades.intersect envelope'.offered =
          upgrades.kinds.filter (·.tag ∈ envelope'.offered.map UpgradeDescriptor.tag) ∧
        (upgrades.intersect envelope'.offered).Nodup) ∧
      (∀ (dialer : Dialer) (registry : Registry) (stream : Stream) (offer rest : Bytes)
        (frames : LengthPrefixed.State), dialer.phase = .awaitingReply offer frames →
        LengthPrefixed.Valid frames →
        LengthPrefixed.Begins (LengthPrefixed.head frames ++ dialer.wire.ahead stream) octets rest →
        (dialer.step suite registry stream).1.verdict? Dialer.registers =
          some (agree dialer.party envelope)) ∧
      (∀ (listener : Listener) (registry : Registry) (stream : Stream) (rest : Bytes)
        (frames : LengthPrefixed.State), listener.phase = .awaitingOffer frames →
        LengthPrefixed.Valid frames →
        LengthPrefixed.Begins (LengthPrefixed.head frames ++ listener.wire.ahead stream) octets
          rest →
        (listener.step suite registry stream).1.verdict? Listener.registers =
          some (listener.answer suite stream envelope)) ∧
      ∀ (text : Bytes) (x : Json.Number.Lexeme), Json.SpellsNumber text x →
        (x.fraction.getD []).length ≤ 2 ^ 30 → x.AtMost 307 →
        ∀ depth, ∃ n, Json.Spells depth text (.number n) := by
  have decoded := Envelope.decode_variant variant spells
  refine ⟨decoded, fun upgrades => ⟨upgrades.intersect_supplements supplements,
    upgrades.intersect_eq_filter_tag _, upgrades.nodup_intersect _⟩, ?_, ?_, ?_⟩
  · intro dialer registry stream offer rest frames waits valid begins
    rw [dialer.verdict_step waits valid begins decoded,
      agree_supplements dialer.party material supplements]
  · intro listener registry stream rest frames waits valid begins
    rw [listener.verdict_step waits valid begins decoded, Listener.answer, Listener.answer,
      agree_supplements listener.party material supplements]
  · intro text x spells short small depth
    exact spells.exists_spells short small depth

/-- A dialer with a secure channel agrees on it with a listener that offers more than the dialer
knows, and says more in its envelope and in a descriptor. -/
theorem envelopes_are_compatible_of_compression :
    let key : PublicKey := ⟨List.replicate 32 7, rfl⟩
    let secret : SecretKey := ⟨List.replicate 32 1, rfl⟩
    let envelope : Envelope := ⟨[.ofKind .secureChannel], some (.ofPublicKey key)⟩
    let envelope' : Envelope :=
      ⟨⟨"COMPRESSION"⟩ :: envelope.offered ++ envelope.offered, envelope.material⟩
    let descriptors : List Json :=
      [.object [("level", .bool true), ("tag", .string "COMPRESSION")],
        .object [("tag", .string "SECURE_CHANNEL")], .object [("tag", .string "SECURE_CHANNEL")]]
    let members : List (String × Json) :=
      [("version", .array [.null]), ("channelMaterial", Envelope.materialTree envelope.material),
        ("offeredUpgrades", .array descriptors), ("tag", .string "NEGOTIATION")]
    let octets := [32] ++ ((Json.object members).encode ++ [10])
    let dialer : Dialer :=
      ⟨⟨Upgrades.empty.insert (.secureChannel (.new secret)), ⟨.v4 ⟨127, 0, 0, 1⟩, 4000⟩, secret,
        some key⟩, ⟨.ofBytes (LengthPrefixed.encode octets), .empty⟩, .awaitingReply [] none⟩
    Supplements envelope.offered envelope'.offered ∧ envelope'.Variant members ∧
      Json.Spells 127 octets (.object members) ∧ Envelope.decode octets = .ok envelope' ∧
      (dialer.step .standard .empty ⟨.new, .new⟩).1.verdict? Dialer.registers =
        some (.ok ⟨.resolved [.secureChannel], some (secret, key)⟩) := by
  intro key secret envelope envelope' descriptors members octets dialer
  have supplements : Supplements envelope.offered envelope'.offered :=
    ⟨by decide, by decide⟩
  -- The members stand in the reverse order, with an unknown one, and one descriptor has more to it.
  have variant : envelope'.Variant members := by
    refine ⟨descriptors, ?_, ?_⟩
    · refine .cons ⟨_, rfl, ?_⟩ (.cons ⟨_, rfl, ?_⟩ (.cons ⟨_, rfl, ?_⟩ .nil))
      · exact List.Perm.refl _
      · exact List.Perm.refl _
      · exact List.Perm.refl _
    · exact List.reverse_perm [(Envelope.markName, Json.string Envelope.mark),
        ("offeredUpgrades", .array descriptors),
        ("channelMaterial", Envelope.materialTree envelope'.material)]
  -- That the text is one of the tree comes from the writer, which needs a bound on the nesting.
  have shallow : Json.Shallow 127 (.object members) := by
    have described : ∀ descriptor ∈ descriptors, Json.Shallow 125 descriptor := by
      simp only [descriptors, List.forall_mem_cons, List.not_mem_nil, false_implies, implies_true,
        and_true]
      exact ⟨.object (by simp [Json.Shallow.bool, Json.Shallow.string]),
        .object (by simp [Json.Shallow.string]), .object (by simp [Json.Shallow.string])⟩
    refine .object (List.forall_mem_cons.2 ⟨.array (by simp [Json.Shallow.null]), ?_⟩)
    refine List.forall_mem_cons.2 ⟨.string, List.forall_mem_cons.2 ⟨.array described, ?_⟩⟩
    simp [Json.Shallow.string]
  have spells : Json.Spells 127 octets (.object members) :=
    .blank (by simp [Json.Blank]) (by simp [Json.Blank]) (Json.spells_encode shallow)
  obtain ⟨decoded, -, dials, -⟩ :=
    @envelopes_are_compatible .standard envelope envelope' _ _ rfl supplements variant spells
  have begins : LengthPrefixed.Begins
      (LengthPrefixed.head none ++ dialer.wire.ahead ⟨.new, .new⟩) octets [] := by
    refine ⟨?_, by decide +kernel⟩
    show [] ++ ((Buffer.ofBytes _).toBytes ++ []) = _
    rw [Buffer.toBytes_ofBytes]
    rfl
  refine ⟨supplements, variant, spells, decoded, ?_⟩
  rw [dials dialer .empty ⟨.new, .new⟩ [] [] none rfl LengthPrefixed.valid_none begins]
  rfl

/-- An envelope that offers nothing, with another member whose value has this text. -/
def withMember (text : Bytes) : Bytes :=
  Utf8.encode "\x7b\"tag\":\"NEGOTIATION\",\"offeredUpgrades\":[],\"x\":".toList ++ text ++ [125]

/-- Not every member that is not known is skipped: an envelope is not read if there is half of a
surrogate pair in a string, and neither if there is a number that is rounded to no double on the
way, although the double nearest to it is finite. -/
theorem envelopes_are_not_always_compatible :
    (¬ ∀ text : Bytes, (Json.skipString text).toOption.map (·.rest) = some [] →
      Envelope.decode (withMember (34 :: text)) = .ok ⟨[], none⟩) ∧
    ¬ ∀ n exponent : Nat, n * 10 ^ exponent < 2 ^ 1024 - 2 ^ 970 →
      Envelope.decode (withMember (Utf8.encode
        (Text.Decimal.digits n ++ 'e' :: Text.Decimal.digits exponent))) = .ok ⟨[], none⟩ := by
  constructor
  · intro always
    have read := always (Utf8.encode "\\ud800\"".toList) (by decide +kernel)
    revert read
    decide +kernel
  · intro always
    have read := always 17976931348623158 292 (by decide +kernel)
    revert read
    decide +kernel

end Negotiation

end PeerLink
