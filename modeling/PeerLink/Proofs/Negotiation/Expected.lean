import PeerLink.Crypto.Standard
import PeerLink.Proofs.Negotiation.Agreement
import PeerLink.Proofs.Negotiation.Dialed
import PeerLink.Proofs.Noise.Possession
import PeerLink.Transport.Tcp

/-!
# Dialing the owner of a key

A dialer may want to reach the owner of a certain key. What it gets depends on whether the reply
shares the secure channel with it. If it does, the dialer gets a connection with nobody but this
owner, who has answered the handshake. If it does not, the key that the dialer expects is never
looked at, and the dialer gets a bare connection with anybody: `After.unshared` shows that every
such reply leads to one. `Dialed` is both cases, and `expected_is_proved_iff_shared` says that there
are no others, whatever the other side sends.
-/

namespace PeerLink.Negotiation

/-- What a dialer that expects a key has got in the end, by the messages that it has heard. -/
inductive Dialed (suite : Suite) (party : Party) (sealed : Bytes → Nat → Bytes → Bytes → Prop)
    (key : PublicKey) : List Bytes → Connection → Prop
  /-- The reply shares the secure channel: the connection is secure and its peer is the owner of the
  key, who has answered the handshake. -/
  | proved {reply response : Bytes} {envelope : Envelope} {channel : SecureChannel}
      {connection : Connection} (decoded : Envelope.decode reply = .ok envelope)
      (mine : party.upgrades.secureChannel? = some channel)
      (shares : party.upgrades.Shares envelope)
      (resolution : connection.resolution = .resolved [.secureChannel])
      (secure : connection.isSecure = true) (identity : connection.remoteIdentity = some key)
      (answered : (Dialer.initiator suite party reply channel.secret key).Answered suite sealed
        response) : Dialed suite party sealed key [reply, response] connection
  /-- The reply does not share the secure channel: the connection is bare and its peer may be
  anybody. -/
  | unproved {reply : Bytes} {envelope : Envelope} {connection : Connection}
      (decoded : Envelope.decode reply = .ok envelope)
      (unshared : ¬ party.upgrades.Shares envelope) (resolution : connection.resolution = .bare)
      (insecure : connection.isSecure = false) (anybody : connection.remoteIdentity = none) :
      Dialed suite party sealed key [reply] connection

variable {suite : Suite} {party : Party} {sealed : Bytes → Nat → Bytes → Bytes → Prop}
  {key : PublicKey} {heard : List Bytes} {connection : Connection}

/-- A connection that a dialer gets is with the owner of the key that it expects, or it is bare. -/
theorem Dialer.Ends.dialed (ends : Dialer.Ends suite party heard connection)
    (expects : party.expected = some key)
    (opens_only : suite.OpensOnly party.ephemeral key sealed) :
    Dialed suite party sealed key heard connection := by
  cases ends with
  | bare wire decoded agreed =>
    obtain ⟨unshared, bare⟩ := not_shares_of_agree agreed
    exact .unproved decoded unshared bare rfl rfl
  | secure wire decoded agreed finished =>
    obtain ⟨shares, resolved, ⟨channel, mine, rfl⟩, expected⟩ := shares_of_agree agreed
    -- The key in the reply is the one that the dialer expects.
    rw [expects] at expected
    obtain rfl := (Option.some.inj (expected.resolve_left (Option.some_ne_none key)))
    obtain ⟨remote, answered⟩ := Noise.finish?_answered opens_only finished
    exact .proved decoded mine shares resolved rfl (congrArg some remote) answered

/-! ## Replies that do not share the secure channel -/

/-- A dialer that finds such a reply gets a bare connection, whatever key it expects. -/
theorem Dialer.run_unshared {reply : Bytes} {envelope : Envelope}
    (decoded : Envelope.decode reply = .ok envelope)
    (acceptable : reply.length ≤ LengthPrefixed.maxSize)
    (unshared : ¬ party.upgrades.Shares envelope) (registry : Registry) {stream : Stream}
    (opened : stream.outbound.Open)
    (awaits : Wire.new.Awaits true [] stream.inbound (LengthPrefixed.encode reply)) :
    ∃ wire stream', (Dialer.new party).run suite registry stream =
        (.finished (.ok (.negotiated wire .bare none party.remote)), registry, stream') ∧
      (Dialer.new party).hearsAll suite registry stream = [reply] := by
  -- The offer is written, which leaves the reply where it is.
  obtain ⟨stream', written, inbound, -⟩ := Wire.flush_put
    (LengthPrefixed.encode (party.upgrades.envelope suite).encode) awaits.unwritten opened
  rw [← inbound] at awaits
  have valid : LengthPrefixed.Valid none := by rintro n ⟨⟩
  rcases LengthPrefixed.readFrame_flight NegotiationError.io awaits valid acceptable
    (List.append_nil _) with ⟨-, wire, stream'', read, -, -⟩ | ⟨some_missing, -⟩
  · refine ⟨wire, stream'', ?_, ?_⟩
    · rw [run_eq, step, new]
      simp only [written]
      rw [run_eq, step]
      simp only [framing, read, decoded, agree_of_not_shares unshared]
    · rw [hearsAll_eq, hears, step, new]
      simp only [written]
      rw [hearsAll_eq, hears, step]
      simp only [framing, read, decoded, agree_of_not_shares unshared]
      rfl
  · exact absurd rfl (some_missing rfl)

/-- An end of a stream from which a frame can be read. -/
def delivering (frame : Bytes) : Stream where
  inbound := { Pipe.new with queue := .ofBytes (LengthPrefixed.encode frame) }
  outbound := .new

/-- Every reply that does not share the secure channel leads to a bare connection. -/
theorem Dialer.After.unshared {reply : Bytes} {envelope : Envelope}
    (decoded : Envelope.decode reply = .ok envelope)
    (acceptable : reply.length ≤ LengthPrefixed.maxSize)
    (unshared : ¬ party.upgrades.Shares envelope) :
    ∃ wire, Dialer.After suite party [reply]
      (.finished (.ok (.negotiated wire .bare none party.remote))) := by
  have awaits : Wire.new.Awaits true [] (delivering reply).inbound
      (LengthPrefixed.encode reply) :=
    ⟨rfl, Buffer.toBytes_ofBytes _, ⟨rfl, rfl, rfl, rfl, rfl, rfl⟩, fun _ => rfl⟩
  obtain ⟨wire, stream, run, hears⟩ := @Dialer.run_unshared suite party _ _ decoded acceptable
    unshared .empty (delivering reply) (.of_new _) awaits
  have after := (@Dialer.After.start suite party).run .empty (delivering reply)
  rw [run, hears] at after
  exact ⟨wire, after⟩

/-! ## The other side -/

/-- A dialer of a pair gets to its next place by a run. -/
theorem Dialer.After.happen {pair : Pair} (after : Dialer.After suite party heard pair.dialer)
    (event : Event) :
    ∃ heard', Dialer.After suite party heard' (pair.happen suite event).dialer := by
  cases event with
  | dial =>
    obtain ⟨dialer, registry, listener, registry', link⟩ := pair
    cases dialer with
    | active dialer =>
      refine ⟨heard ++ dialer.hearsAll suite registry link.dialing, ?_⟩
      rw [Pair.happen, Pair.runDialer_eq rfl rfl]
      exact after.run registry link.dialing
    | absent => exact ⟨heard, after⟩
    | finished result => exact ⟨heard, after⟩
    | abandoned => exact ⟨heard, after⟩
  | listen =>
    refine ⟨heard, ?_⟩
    rw [Pair.happen, Pair.dialer_runListener]
    exact after
  | hold forth back => exact ⟨heard, after⟩

/-- A dialer of a pair gets to its place by runs. -/
theorem Dialer.After.happenAll {pair : Pair} (after : Dialer.After suite party heard pair.dialer)
    (events : List Event) :
    ∃ heard', Dialer.After suite party heard' (pair.happenAll suite events).dialer := by
  induction events generalizing pair heard with
  | nil => exact ⟨heard, after⟩
  | cons event events ih =>
    obtain ⟨heard', after'⟩ := after.happen event
    exact ih after'

/-! ## The result -/

/-- What is dialed by an address with a key in it. -/
theorem dialed_of_dialTcp {upgrades : Upgrades} {ephemeral : SecretKey} {reach : Endpoint → Reach}
    {address : PeerAddress} {session : Session} {registry : Registry}
    (opens_only : suite.OpensOnly ephemeral key sealed)
    (named : address.publicKey = .ok (some key))
    (dialed : dialTcp suite upgrades ephemeral reach address = (.ok session, registry)) :
    ∃ stream, reach address.endpoint = .reached stream ∧
      let party : Party := ⟨upgrades, address.endpoint, ephemeral, some key⟩
      Dialed suite party sealed key ((Dialer.new party).hearsAll suite upgrades.registry stream)
        session.connection := by
  unfold dialTcp at dialed
  simp only [named] at dialed
  split at dialed
  · simp at dialed
  · simp at dialed
  · -- The stream is reached, and all that follows is a run of the dialer on it.
    rename_i stream reached
    have after := (@Dialer.After.start suite
      ⟨upgrades, address.endpoint, ephemeral, some key⟩).run upgrades.registry stream
    split at dialed
    · rename_i connection registry' stream' run
      obtain ⟨rfl, rfl⟩ : ⟨connection, stream'⟩ = session ∧ registry' = registry := by
        simpa using dialed
      rw [run] at after
      exact ⟨stream, reached, after.ends.dialed rfl opens_only⟩
    · simp at dialed
    · simp at dialed

/-- A dialer that expects a key gets a connection with its owner, who has proved to own it, if the
reply shares the secure channel; and by every other reply it gets a bare connection with anybody.
The same holds for what is dialed by an address with the key in it. -/
theorem expected_is_proved_iff_shared (expects : party.expected = some key)
    (opens_only : suite.OpensOnly party.ephemeral key sealed) :
    (∀ heard connection, Dialer.After suite party heard (.finished (.ok connection)) →
      Dialed suite party sealed key heard connection) ∧
    (∀ reply envelope, Envelope.decode reply = .ok envelope →
      reply.length ≤ LengthPrefixed.maxSize → ¬ party.upgrades.Shares envelope →
      ∃ connection, Dialer.After suite party [reply] (.finished (.ok connection)) ∧
        Dialed suite party sealed key [reply] connection) ∧
    (∀ reach address session registry, address.publicKey = .ok (some key) →
      dialTcp suite party.upgrades party.ephemeral reach address = (.ok session, registry) →
      ∃ stream, reach address.endpoint = .reached stream ∧
        let dialing : Party := ⟨party.upgrades, address.endpoint, party.ephemeral, some key⟩
        Dialed suite dialing sealed key
          ((Dialer.new dialing).hearsAll suite party.upgrades.registry stream)
          session.connection) := by
  refine ⟨fun heard connection after => after.ends.dialed expects opens_only, ?_, ?_⟩
  · intro reply envelope decoded acceptable unshared
    obtain ⟨wire, after⟩ := Dialer.After.unshared decoded acceptable unshared
    exact ⟨_, after, after.ends.dialed expects opens_only⟩
  · intro reach address session registry named dialed
    exact dialed_of_dialTcp opens_only named dialed

/-- A dialer that expects a listener gets a secure connection with it. -/
theorem expected_is_proved_of_expecting :
    let party := Meeting.expecting.dialer
    let key := Suite.standard.publicKey (.filled 2)
    party.expected = some key ∧
      Suite.standard.OpensOnly party.ephemeral key Suite.standard.Sealed ∧
      ∃ heard connection, Dialer.After .standard party heard (.finished (.ok connection)) ∧
        connection.isSecure = true ∧
        Dialed .standard party Suite.standard.Sealed key heard connection := by
  intro party key
  have expects : party.expected = some key := rfl
  have opens_only := Suite.opensOnly_standard party.ephemeral key
  have result := expected_is_proved_iff_shared expects opens_only
  refine ⟨expects, opens_only, ?_⟩
  -- The listener is honest, so that both come to an agreement.
  obtain ⟨events, stage⟩ := Meeting.exists_events Meeting.sound_expecting Meeting.welcome_expecting
    .empty .empty (fun _ => none) (fun _ => none)
  obtain ⟨heard, after⟩ := @Dialer.After.happenAll .standard party []
    (Meeting.expecting.pair .empty .empty (fun _ => none) (fun _ => none)) .start events
  cases stage.agreed_of_zero Suite.opens_standard with
  | bare missing =>
    rcases missing with missing | missing
    · exact absurd missing (Option.some_ne_none _)
    · exact absurd missing (Option.some_ne_none _)
  | @secure connection _ _ _ _ _ mine yours dialer listener resolution resolution' identity
      identity' registered registered' secured =>
    rw [dialer] at after
    refine ⟨heard, connection, after, ?_, result.1 heard connection after⟩
    rw [Connection.isSecure, secured]

/-- Not every connection that a dialer gets is with the owner of the key that it expects: a dialer
with a secure channel gets a bare one from a listener without. -/
theorem expected_is_not_always_proved :
    ¬ ∀ (party : Party) (key : PublicKey) (sealed : Bytes → Nat → Bytes → Bytes → Prop)
      (heard : List Bytes) (connection : Connection), party.expected = some key →
      Suite.standard.OpensOnly party.ephemeral key sealed →
      Dialer.After .standard party heard (.finished (.ok connection)) →
      connection.isSecure = true ∧ connection.remoteIdentity = some key := by
  intro always
  let key := Suite.standard.publicKey (.filled 2)
  let party := Meeting.expecting.dialer
  have unshared : ¬ party.upgrades.Shares (Upgrades.empty.envelope .standard) := by
    rw [Upgrades.shares_envelope_iff]
    exact fun shares => shares.2 rfl
  obtain ⟨wire, after⟩ := @Dialer.After.unshared .standard party _ _ (Envelope.decode_encode _)
    (Upgrades.empty.length_envelope_le .standard) unshared
  have opens_only := Suite.opensOnly_standard party.ephemeral key
  have both := always party key Suite.standard.Sealed _ _ rfl opens_only after
  exact absurd both.1 Bool.false_ne_true

end PeerLink.Negotiation
