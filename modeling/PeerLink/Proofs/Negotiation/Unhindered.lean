import PeerLink.Proofs.Negotiation.Deeds

/-!
# Sides that nobody hinders

A side that waits for a message gets on if its stream delivers this message and takes what the side
has to say. There is one lemma for each step, which gives the place that the side comes to and what
it has done; between two steps the stream may be another one, as nothing is left of the old one.
-/

namespace PeerLink

/-- An end of a stream that delivers some octets and takes whatever is written. -/
def Stream.delivering (bytes : Bytes) : Stream where
  inbound := { Pipe.new with queue := .ofBytes bytes }
  outbound := .new

/-- Such an end takes whatever is written. -/
theorem Stream.opened_delivering (bytes : Bytes) : (delivering bytes).outbound.Open :=
  .of_new fun _ => none

/-- Nothing was read ahead, and there is nothing to write. -/
structure Wire.Idle (wire : Wire) : Prop where
  /-- There is nothing to write. -/
  unwritten : wire.unwritten = .empty
  /-- Nothing was read ahead. -/
  readAhead : wire.readAhead.toBytes = []

namespace Wire

/-- A new wire is idle. -/
theorem idle_new : Idle new := ⟨rfl, rfl⟩

/-- What a stream delivers is in flight. -/
theorem Idle.awaits {wire : Wire} (idle : wire.Idle) (bytes : Bytes) :
    wire.Awaits true [] (Stream.delivering bytes).inbound bytes :=
  ⟨idle.unwritten, by rw [idle.readAhead]; exact Buffer.toBytes_ofBytes bytes,
    ⟨rfl, rfl, rfl, rfl, rfl, rfl⟩, fun _ => rfl⟩

/-- When nothing is in flight any more the reader is idle. -/
theorem Awaits.idle {wire : Wire} {pipe : Pipe} (awaits : wire.Awaits true [] pipe []) :
    wire.Idle :=
  ⟨awaits.unwritten, (List.append_eq_nil_iff.1 awaits.octets).1⟩

/-- A message is written, and nothing else changes. -/
theorem Idle.flush {wire : Wire} (idle : wire.Idle) (message : Bytes) {stream : Stream}
    (opened : stream.outbound.Open) :
    ∃ stream', (wire.put message).flush stream = (.ok (), wire, stream') := by
  obtain ⟨stream', written, -, -⟩ := flush_put message idle.unwritten opened
  exact ⟨stream', written⟩

/-- A frame that is delivered is read. -/
theorem Idle.readFrame {wire : Wire} (idle : wire.Idle) {frame : Bytes}
    (acceptable : frame.length ≤ LengthPrefixed.maxSize) :
    ∃ wire' stream', wire.readFrame Negotiation.framing none (.delivering
        (LengthPrefixed.encode frame)) = (.done (some frame), none, wire', stream') ∧
      wire'.Idle ∧ stream'.outbound.Open := by
  have valid : LengthPrefixed.Valid none := by rintro n ⟨⟩
  rcases LengthPrefixed.readFrame_flight NegotiationError.io (idle.awaits _) valid acceptable
    (List.append_nil _) with ⟨-, wire', stream', read, awaits, outbound⟩ | ⟨some_missing, -⟩
  · exact ⟨wire', stream', read, awaits.idle, outbound ▸ .of_new _⟩
  · exact absurd rfl (some_missing rfl)

/-- A message of a fixed size that is delivered is read. -/
theorem Idle.readExactly {wire : Wire} (idle : wire.Idle) {message : Bytes} {n : Nat}
    (length : message.length = n) :
    ∃ received wire' stream', wire.readExactly n .empty (.delivering message) =
        (.done message, received, wire', stream') ∧ wire'.Idle := by
  have awaits : wire.Awaits true Buffer.empty.toBytes (Stream.delivering message).inbound message :=
    idle.awaits message
  rcases readExactly_flight awaits length (List.append_nil _) with
    ⟨-, received, wire', stream', read, awaits', -⟩ | ⟨some_missing, -⟩
  · exact ⟨received, wire', stream', read, awaits'.idle⟩
  · exact absurd rfl (some_missing rfl)

end Wire

namespace Negotiation

variable (suite : Suite) (party : Party) (registry : Registry) {wire : Wire}

/-! ## The dialer -/

namespace Dialer

/-- The offer is sent. -/
theorem step_offering (idle : wire.Idle) :
    ∃ stream, step suite registry ⟨party, wire, .offering⟩ (.delivering []) =
        (.next ⟨party, wire, .awaitingReply (party.envelope suite) none⟩, registry, stream) ∧
      deeds suite registry ⟨party, wire, .offering⟩ (.delivering []) =
        [.said (party.envelope suite)] := by
  obtain ⟨stream, written⟩ := idle.flush (LengthPrefixed.encode (party.envelope suite))
    (Stream.opened_delivering [])
  refine ⟨stream, ?_, ?_⟩
  · rw [Party.envelope] at written
    simp only [step, written]
    rfl
  · simp only [deeds, written]

/-- The dialer agrees with the reply on the secure channel. -/
theorem step_awaitingReply (idle : wire.Idle) {reply : Bytes} {resolution : Resolution}
    {secret : SecretKey} {key : PublicKey} (secures : party.Secures reply resolution secret key)
    (offer : Bytes) :
    ∃ wire' stream, wire'.Idle ∧
      step suite registry ⟨party, wire, .awaitingReply offer none⟩
        (.delivering (LengthPrefixed.encode reply)) =
        (.next ⟨party, wire', .registering (transcript offer reply) resolution secret key⟩,
          registry, stream) ∧
      deeds suite registry ⟨party, wire, .awaitingReply offer none⟩
        (.delivering (LengthPrefixed.encode reply)) = [.heard reply] := by
  obtain ⟨envelope, decoded, agreed⟩ := secures.agreed
  obtain ⟨wire', stream, read, idle', -⟩ := idle.readFrame secures.acceptable
  exact ⟨wire', stream, idle', by simp only [step, read, decoded, agreed],
    by simp only [deeds, read]⟩

/-- The handshake is initiated towards the owner of the key that is registered. -/
theorem step_lookingUp (idle : wire.Idle) {key : PublicKey}
    (registered : registry.get? party.remote = some key) (prologue : Bytes)
    (resolution : Resolution) (secret : SecretKey) :
    let initiation := Noise.initiate suite prologue secret party.ephemeral key
    ∃ stream, step suite registry ⟨party, wire, .lookingUp prologue resolution secret⟩
        (.delivering []) =
        (.next ⟨party, wire, .awaitingResponse initiation.2 resolution .empty⟩, registry, stream) ∧
      deeds suite registry ⟨party, wire, .lookingUp prologue resolution secret⟩ (.delivering []) =
        [.found (some key), .said initiation.1] := by
  intro initiation
  obtain ⟨stream, written⟩ := idle.flush initiation.1 (Stream.opened_delivering [])
  refine ⟨stream, ?_, ?_⟩
  · simp only [step, registered, initiation] at written ⊢
    simp only [written]
  · simp only [deeds, registered, initiation] at written ⊢
    simp only [written]

/-- The answer of the owner of the key is authentic. -/
theorem step_awaitingResponse (idle : wire.Idle) {response : Bytes} {initiator : Noise.Initiator}
    {channel : Noise.Established} (length : response.length = Noise.responseSize)
    (finishes : initiator.finish? suite response = some channel) (resolution : Resolution) :
    ∃ wire' stream, step suite registry ⟨party, wire, .awaitingResponse initiator resolution .empty⟩
        (.delivering response) =
        (.finished (.ok (.negotiated wire' resolution (some channel) party.remote)), registry,
          stream) ∧
      deeds suite registry ⟨party, wire, .awaitingResponse initiator resolution .empty⟩
        (.delivering response) = [.heard response] := by
  obtain ⟨received, wire', stream, read, -⟩ := idle.readExactly length
  exact ⟨wire', stream, by simp only [step, read, finishes], by simp only [deeds, read]⟩

end Dialer

/-! ## The listener -/

namespace Listener

/-- The listener replies, and agrees with the offer on the secure channel. -/
theorem step_awaitingOffer (idle : wire.Idle) {offer : Bytes} {resolution : Resolution}
    {secret : SecretKey} {key : PublicKey} (secures : party.Secures offer resolution secret key) :
    ∃ wire' stream, wire'.Idle ∧
      step suite registry ⟨party, wire, .awaitingOffer none⟩
        (.delivering (LengthPrefixed.encode offer)) =
        (.next ⟨party, wire', .registering (transcript offer (party.envelope suite)) resolution
          secret key⟩, registry, stream) ∧
      deeds suite registry ⟨party, wire, .awaitingOffer none⟩
        (.delivering (LengthPrefixed.encode offer)) =
        [.heard offer, .said (party.envelope suite)] := by
  obtain ⟨envelope, decoded, agreed⟩ := secures.agreed
  obtain ⟨wire', stream, read, idle', opened⟩ := idle.readFrame secures.acceptable
  obtain ⟨stream', written⟩ :=
    idle'.flush (LengthPrefixed.encode (party.envelope suite)) opened
  refine ⟨wire', stream', idle', ?_, ?_⟩
  · rw [Party.envelope] at written
    simp only [step, read, decoded, written, agreed]
    rfl
  · simp only [deeds, read, decoded, written]

/-- The first message of the handshake is authentic. -/
theorem step_awaitingInitiation (idle : wire.Idle) {prologue message : Bytes} {secret : SecretKey}
    {responder : Noise.Responder} (length : message.length = Noise.initiationSize)
    (responds : Noise.respond? suite prologue secret message = some responder)
    (resolution : Resolution) :
    ∃ wire' stream, wire'.Idle ∧
      step suite registry ⟨party, wire, .awaitingInitiation prologue resolution secret .empty⟩
        (.delivering message) =
        (.next ⟨party, wire', .lookingUp responder resolution⟩, registry, stream) ∧
      deeds suite registry ⟨party, wire, .awaitingInitiation prologue resolution secret .empty⟩
        (.delivering message) = [.heard message] := by
  obtain ⟨received, wire', stream, read, idle'⟩ := idle.readExactly length
  exact ⟨wire', stream, idle', by simp only [step, read, responds], by simp only [deeds, read]⟩

/-- The initiator owns the key that is registered, and is answered. -/
theorem step_lookingUp (idle : wire.Idle) {responder : Noise.Responder}
    (registered : registry.get? party.remote = some responder.initiator)
    (resolution : Resolution) :
    let response := responder.reply suite party.ephemeral
    ∃ stream, step suite registry ⟨party, wire, .lookingUp responder resolution⟩ (.delivering []) =
        (.finished (.ok (.negotiated wire resolution (some response.2) party.remote)), registry,
          stream) ∧
      deeds suite registry ⟨party, wire, .lookingUp responder resolution⟩ (.delivering []) =
        [.found (some responder.initiator), .said response.1] := by
  intro response
  obtain ⟨stream, written⟩ := idle.flush response.1 (Stream.opened_delivering [])
  refine ⟨stream, ?_, ?_⟩
  · simp only [step, registered, if_true, response] at written ⊢
    simp only [written]
  · simp only [deeds, registered, if_true, response] at written ⊢
    simp only [written]

end Listener

end Negotiation

end PeerLink
