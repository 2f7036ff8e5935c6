import PeerLink.Negotiation.Basic

/-!
# The dialing side

The dialer sends its envelope first and waits for the reply. If both sides have the secure channel
it registers the key in the reply, reads it back from the registry and initiates the handshake
towards its owner.
-/

namespace PeerLink.Negotiation

/-- Where a dialer is. -/
inductive DialPhase where
  /-- Nothing was sent. -/
  | offering
  /-- The offer was sent. -/
  | awaitingReply (offer : Bytes) (frames : LengthPrefixed.State)
  /-- The reply was read, and the key in it is to be registered. -/
  | registering (prologue : Bytes) (resolution : Resolution) (secret : SecretKey) (key : PublicKey)
  /-- The key was registered, and the registered one is to be read. -/
  | lookingUp (prologue : Bytes) (resolution : Resolution) (secret : SecretKey)
  /-- The first message of the handshake was sent. -/
  | awaitingResponse (initiator : Noise.Initiator) (resolution : Resolution) (received : Buffer)

/-- The number of phases that may still follow. -/
def DialPhase.rank : DialPhase → Nat
  | offering => 4
  | awaitingReply _ _ => 3
  | registering _ _ _ _ => 2
  | lookingUp _ _ _ => 1
  | awaitingResponse _ _ _ => 0

/-- A dialer with the buffers of its stream. -/
structure Dialer where
  /-- What the dialer brings to the negotiation. -/
  party : Party
  /-- The buffers of the stream. -/
  wire : Wire
  /-- Where the dialer is. -/
  phase : DialPhase

namespace Dialer

/-- A dialer that has not begun. -/
def new (party : Party) : Dialer := ⟨party, .new, .offering⟩

/-- A step of a dialer: a stretch of `dial_wire`, and of `initiate` from the lookup on. -/
def step (suite : Suite) (registry : Registry) (dialer : Dialer) (stream : Stream) :
    Move Dialer × Registry × Stream :=
  let party := dialer.party
  match dialer.phase with
  | .offering =>
    let offer := (party.upgrades.envelope suite).encode
    match (dialer.wire.put (LengthPrefixed.encode offer)).flush stream with
    | (.error e, _, stream) => (.finished (.error (.io e)), registry, stream)
    | (.ok (), wire, stream) =>
      (.next ⟨party, wire, .awaitingReply offer none⟩, registry, stream)
  | .awaitingReply offer frames =>
    match dialer.wire.readFrame framing frames stream with
    | (.waiting, frames, wire, stream) =>
      (.wait ⟨party, wire, .awaitingReply offer frames⟩, registry, stream)
    | (.failed e, _, _, stream) => (.finished (.error e), registry, stream)
    | (.done none, _, _, stream) =>
      (.finished (.error (.io (.unexpectedEof "stream closed waiting for the negotiation reply"))),
        registry, stream)
    | (.done (some reply), _, wire, stream) =>
      match Envelope.decode reply with
      | .error fault => (.finished (.error (.invalidEnvelope fault)), registry, stream)
      | .ok envelope =>
        match agree party envelope with
        | .error e => (.finished (.error e), registry, stream)
        | .ok ⟨resolution, none⟩ =>
          (.finished (.ok (.negotiated wire resolution none party.remote)), registry, stream)
        | .ok ⟨resolution, some (secret, key)⟩ =>
          (.next ⟨party, wire, .registering (transcript offer reply) resolution secret key⟩,
            registry, stream)
  | .registering prologue resolution secret key =>
    (.next { dialer with phase := .lookingUp prologue resolution secret },
      registry.insert party.remote key, stream)
  | .lookingUp prologue resolution secret =>
    match registry.get? party.remote with
    | none => (.finished (.error (.registry (.notFound party.remote))), registry, stream)
    | some key =>
      -- The key may be the one of a later negotiation with the same endpoint.
      let (message, initiator) := Noise.initiate suite prologue secret party.ephemeral key
      match (dialer.wire.put message).flush stream with
      | (.error e, _, stream) => (.finished (.error (.io e)), registry, stream)
      | (.ok (), wire, stream) =>
        (.next ⟨party, wire, .awaitingResponse initiator resolution .empty⟩, registry, stream)
  | .awaitingResponse initiator resolution received =>
    match dialer.wire.readExactly Noise.responseSize received stream with
    | (.waiting, received, wire, stream) =>
      (.wait ⟨party, wire, .awaitingResponse initiator resolution received⟩, registry, stream)
    | (.failed e, _, _, stream) => (.finished (.error (.io e)), registry, stream)
    | (.done message, _, wire, stream) =>
      match initiator.finish? suite message with
      | none => (.finished (.error .handshake), registry, stream)
      | some channel =>
        let connection := .negotiated wire resolution (some channel) party.remote
        (.finished (.ok connection), registry, stream)

/-- A dialer that goes on is in a later phase. -/
theorem rank_step_lt {suite : Suite} {registry registry' : Registry} {dialer dialer' : Dialer}
    {stream stream' : Stream}
    (h : dialer.step suite registry stream = (.next dialer', registry', stream')) :
    dialer'.phase.rank < dialer.phase.rank := by
  unfold step at h
  dsimp only at h
  split at h
  all_goals rename_i heq; rw [heq]
  · split at h <;> simp only [Prod.mk.injEq, reduceCtorEq, false_and, Move.next.injEq] at h
    simp [← h.1, DialPhase.rank]
  · split at h <;> try simp only [Prod.mk.injEq, reduceCtorEq, false_and] at h
    split at h <;> try simp only [Prod.mk.injEq, reduceCtorEq, false_and] at h
    split at h <;> simp only [Prod.mk.injEq, reduceCtorEq, false_and, Move.next.injEq] at h
    simp [← h.1, DialPhase.rank]
  · simp only [Prod.mk.injEq, Move.next.injEq] at h
    simp [← h.1, DialPhase.rank]
  · split at h <;> try simp only [Prod.mk.injEq, reduceCtorEq, false_and] at h
    split at h <;> simp only [Prod.mk.injEq, reduceCtorEq, false_and, Move.next.injEq] at h
    simp [← h.1, DialPhase.rank]
  · split at h <;> try simp only [Prod.mk.injEq, reduceCtorEq, false_and] at h
    split at h <;> simp only [Prod.mk.injEq, reduceCtorEq, false_and] at h

/-- Runs a dialer until it waits or is over, with no other negotiation in between. A dialer whose
negotiation fails lets go of the stream. -/
def run (suite : Suite) (registry : Registry) (dialer : Dialer) (stream : Stream) :
    Move Dialer × Registry × Stream :=
  match h : dialer.step suite registry stream with
  | (.next dialer', registry, stream) =>
    have := rank_step_lt h
    run suite registry dialer' stream
  | (.wait dialer, registry, stream) => (.wait dialer, registry, stream)
  | (.finished (.error e), registry, stream) => (.finished (.error e), registry, stream.release)
  | (.finished (.ok connection), registry, stream) => (.finished (.ok connection), registry, stream)
termination_by dialer.phase.rank

end Dialer

end PeerLink.Negotiation
