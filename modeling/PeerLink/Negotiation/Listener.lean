import PeerLink.Negotiation.Basic

/-!
# The listening side

The listener reads the first frame. If it is an envelope the listener always replies with its own
one; if it is anything else, the frame is put back and the stream is used as it is. If both sides
have the secure channel the listener registers the key in the offer, and lets only the owner of the
registered key finish the handshake.
-/

namespace PeerLink.Negotiation

/-- Where a listener is. -/
inductive AcceptPhase where
  /-- Nothing was read. -/
  | awaitingOffer (frames : LengthPrefixed.State)
  /-- The reply was sent, and the key in the offer is to be registered. -/
  | registering (prologue : Bytes) (resolution : Resolution) (secret : SecretKey) (key : PublicKey)
  /-- The key was registered. -/
  | awaitingInitiation (prologue : Bytes) (resolution : Resolution) (secret : SecretKey)
      (received : Buffer)
  /-- The first message of the handshake was read, and its sender is to be compared. -/
  | lookingUp (responder : Noise.Responder) (resolution : Resolution)

/-- The number of phases that may still follow. -/
def AcceptPhase.rank : AcceptPhase → Nat
  | awaitingOffer _ => 3
  | registering _ _ _ _ => 2
  | awaitingInitiation _ _ _ _ => 1
  | lookingUp _ _ => 0

/-- A listener with the buffers of its stream. -/
structure Listener where
  /-- What the listener brings to the negotiation. -/
  party : Party
  /-- The buffers of the stream. -/
  wire : Wire
  /-- Where the listener is. -/
  phase : AcceptPhase

namespace Listener

/-- A listener that has not begun. A listener expects nobody in particular. -/
def new (party : Party) : Listener := ⟨{ party with expected := none }, .new, .awaitingOffer none⟩

/-- A step of a listener: a stretch of `accept_wire`, and of `respond` from the first message of the
handshake on. -/
def step (suite : Suite) (registry : Registry) (listener : Listener) (stream : Stream) :
    Move Listener × Registry × Stream :=
  let party := listener.party
  match listener.phase with
  | .awaitingOffer frames =>
    match listener.wire.readFrame framing frames stream with
    | (.waiting, frames, wire, stream) =>
      (.wait ⟨party, wire, .awaitingOffer frames⟩, registry, stream)
    | (.failed e, _, _, stream) => (.finished (.error e), registry, stream)
    | (.done none, _, _, stream) =>
      (.finished (.error (.io (.unexpectedEof "stream closed waiting for the negotiation offer"))),
        registry, stream)
    | (.done (some offer), _, wire, stream) =>
      match Envelope.decode offer with
      | .error _ =>
        -- The peer does not negotiate: the frame is the first of what it has to say.
        let wire := wire.unread (LengthPrefixed.encode offer)
        (.finished (.ok (.negotiated wire .bare none party.remote)), registry, stream)
      | .ok envelope =>
        -- The reply is sent even if the two sides turn out not to agree.
        let reply := (party.upgrades.envelope suite).encode
        match (wire.put (LengthPrefixed.encode reply)).flush stream with
        | (.error e, _, stream) => (.finished (.error (.io e)), registry, stream)
        | (.ok (), wire, stream) =>
          match agree party envelope with
          | .error e => (.finished (.error e), registry, stream)
          | .ok ⟨resolution, none⟩ =>
            (.finished (.ok (.negotiated wire resolution none party.remote)), registry, stream)
          | .ok ⟨resolution, some (secret, key)⟩ =>
            (.next ⟨party, wire, .registering (transcript offer reply) resolution secret key⟩,
              registry, stream)
  | .registering prologue resolution secret key =>
    (.next { listener with phase := .awaitingInitiation prologue resolution secret .empty },
      registry.insert party.remote key, stream)
  | .awaitingInitiation prologue resolution secret received =>
    match listener.wire.readExactly Noise.initiationSize received stream with
    | (.waiting, received, wire, stream) =>
      (.wait ⟨party, wire, .awaitingInitiation prologue resolution secret received⟩, registry,
        stream)
    | (.failed e, _, _, stream) => (.finished (.error (.io e)), registry, stream)
    | (.done message, _, wire, stream) =>
      match Noise.respond? suite prologue secret message with
      | none => (.finished (.error .handshake), registry, stream)
      | some responder =>
        (.next ⟨party, wire, .lookingUp responder resolution⟩, registry, stream)
  | .lookingUp responder resolution =>
    match registry.get? party.remote with
    | none => (.finished (.error (.registry (.notFound party.remote))), registry, stream)
    | some key =>
      -- Another negotiation with the same endpoint may have registered its key in between.
      if responder.initiator = key then
        let (message, channel) := responder.reply suite party.ephemeral
        match (listener.wire.put message).flush stream with
        | (.error e, _, stream) => (.finished (.error (.io e)), registry, stream)
        | (.ok (), wire, stream) =>
          let connection := .negotiated wire resolution (some channel) party.remote
          (.finished (.ok connection), registry, stream)
      else (.finished (.error (.rejected responder.initiator)), registry, stream)

/-- A listener that goes on is in a later phase. -/
theorem rank_step_lt {suite : Suite} {registry registry' : Registry}
    {listener listener' : Listener} {stream stream' : Stream}
    (h : listener.step suite registry stream = (.next listener', registry', stream')) :
    listener'.phase.rank < listener.phase.rank := by
  unfold step at h
  dsimp only at h
  split at h
  all_goals rename_i heq; rw [heq]
  · split at h <;> try simp only [Prod.mk.injEq, reduceCtorEq, false_and] at h
    split at h <;> try simp only [Prod.mk.injEq, reduceCtorEq, false_and] at h
    split at h <;> try simp only [Prod.mk.injEq, reduceCtorEq, false_and] at h
    split at h <;> simp only [Prod.mk.injEq, reduceCtorEq, false_and, Move.next.injEq] at h
    simp [← h.1, AcceptPhase.rank]
  · simp only [Prod.mk.injEq, Move.next.injEq] at h
    simp [← h.1, AcceptPhase.rank]
  · split at h <;> try simp only [Prod.mk.injEq, reduceCtorEq, false_and] at h
    split at h <;> simp only [Prod.mk.injEq, reduceCtorEq, false_and, Move.next.injEq] at h
    simp [← h.1, AcceptPhase.rank]
  · split at h <;> try simp only [Prod.mk.injEq, reduceCtorEq, false_and] at h
    split at h <;> try simp only [Prod.mk.injEq, reduceCtorEq, false_and] at h
    split at h <;> simp only [Prod.mk.injEq, reduceCtorEq, false_and] at h

/-- Runs a listener until it waits or is over, with no other negotiation in between. A listener
whose negotiation fails lets go of the stream. -/
def run (suite : Suite) (registry : Registry) (listener : Listener) (stream : Stream) :
    Move Listener × Registry × Stream :=
  match h : listener.step suite registry stream with
  | (.next listener', registry, stream) =>
    have := rank_step_lt h
    run suite registry listener' stream
  | (.wait listener, registry, stream) => (.wait listener, registry, stream)
  | (.finished (.error e), registry, stream) => (.finished (.error e), registry, stream.release)
  | (.finished (.ok connection), registry, stream) => (.finished (.ok connection), registry, stream)
termination_by listener.phase.rank

end Listener

end PeerLink.Negotiation
