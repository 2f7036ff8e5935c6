import PeerLink.Proofs.Negotiation.Meeting

/-!
# What a dialer has heard

A dialer may talk to anybody: each time it runs it finds some registry, and a stream over which some
octets have come. `Dialer.After` are the places it gets to in this way, with the messages it has
heard so far. `Dialer.Stands` says what a dialer at work holds, and `Dialer.Ends` what connection it
has got: both depend on nothing but what it brought along and what it has heard. One lemma is about
a step of a dialer, one about a run, and `Dialer.After.ends` about any number of runs.
-/

namespace PeerLink.Negotiation

namespace Dialer

/-- The message that a step of a dialer takes from its stream. -/
def hears (dialer : Dialer) (stream : Stream) : List Bytes :=
  match dialer.phase with
  | .awaitingReply _ frames =>
    match (dialer.wire.readFrame framing frames stream).1 with
    | .done (some reply) => [reply]
    | _ => []
  | .awaitingResponse _ _ received =>
    match (dialer.wire.readExactly Noise.responseSize received stream).1 with
    | .done response => [response]
    | _ => []
  | _ => []

/-- The messages that a run of a dialer takes from its stream. -/
def hearsAll (suite : Suite) (registry : Registry) (dialer : Dialer) (stream : Stream) :
    List Bytes :=
  dialer.hears stream ++
    match h : dialer.step suite registry stream with
    | (.next dialer', registry, stream) =>
      have := rank_step_lt h
      hearsAll suite registry dialer' stream
    | _ => []
termination_by dialer.phase.rank

/-- Where a dialer is after any number of runs, each with any registry and over any stream, and the
messages that it has heard. -/
inductive After (suite : Suite) (party : Party) : List Bytes → Side Dialer → Prop
  /-- The dialer has not begun. -/
  | start : After suite party [] (.active (.new party))
  /-- The dialer runs once more. -/
  | run {heard : List Bytes} {dialer : Dialer} (after : After suite party heard (.active dialer))
      (registry : Registry) (stream : Stream) :
      After suite party (heard ++ dialer.hearsAll suite registry stream)
        (dialer.run suite registry stream).1.side

/-- The offer of a party. -/
def offer (suite : Suite) (party : Party) : Bytes := (party.upgrades.envelope suite).encode

/-- A dialer that initiates the handshake after a reply. -/
def initiator (suite : Suite) (party : Party) (reply : Bytes) (secret : SecretKey)
    (key : PublicKey) : Noise.Initiator :=
  (Noise.initiate suite (transcript (offer suite party) reply) secret party.ephemeral key).2

/-- What a dialer at work holds, by the messages that it has heard. -/
inductive Stands (suite : Suite) (party : Party) (registry : Registry) : List Bytes → Dialer → Prop
  /-- Nothing was sent. -/
  | offering (wire : Wire) : Stands suite party registry [] ⟨party, wire, .offering⟩
  /-- The dialer waits for the reply. -/
  | awaitingReply (wire : Wire) (frames : LengthPrefixed.State) :
      Stands suite party registry [] ⟨party, wire, .awaitingReply (offer suite party) frames⟩
  /-- The dialer agrees with the reply on the secure channel. -/
  | registering {reply : Bytes} {envelope : Envelope} {resolution : Resolution}
      {secret : SecretKey} {key : PublicKey} (wire : Wire)
      (decoded : Envelope.decode reply = .ok envelope)
      (agreed : agree party envelope = .ok ⟨resolution, some (secret, key)⟩) :
      Stands suite party registry [reply]
        ⟨party, wire, .registering (transcript (offer suite party) reply) resolution secret key⟩
  /-- The key in the reply is registered. -/
  | lookingUp {reply : Bytes} {envelope : Envelope} {resolution : Resolution}
      {secret : SecretKey} {key : PublicKey} (wire : Wire)
      (decoded : Envelope.decode reply = .ok envelope)
      (agreed : agree party envelope = .ok ⟨resolution, some (secret, key)⟩)
      (registered : registry.get? party.remote = some key) :
      Stands suite party registry [reply]
        ⟨party, wire, .lookingUp (transcript (offer suite party) reply) resolution secret⟩
  /-- The dialer has initiated the handshake towards the owner of the key in the reply. -/
  | awaitingResponse {reply : Bytes} {envelope : Envelope} {resolution : Resolution}
      {secret : SecretKey} {key : PublicKey} (wire : Wire)
      (decoded : Envelope.decode reply = .ok envelope)
      (agreed : agree party envelope = .ok ⟨resolution, some (secret, key)⟩)
      (received : Buffer) :
      Stands suite party registry [reply] ⟨party, wire,
        .awaitingResponse (initiator suite party reply secret key) resolution received⟩

/-- The connections that a dialer may have got in the end, by the messages that it has heard. -/
inductive Ends (suite : Suite) (party : Party) : List Bytes → Connection → Prop
  /-- The secure channel is not among what the dialer and the reply agree on. -/
  | bare {reply : Bytes} {envelope : Envelope} {resolution : Resolution} (wire : Wire)
      (decoded : Envelope.decode reply = .ok envelope)
      (agreed : agree party envelope = .ok ⟨resolution, none⟩) :
      Ends suite party [reply] (.negotiated wire resolution none party.remote)
  /-- The handshake with the owner of the key in the reply is complete. -/
  | secure {reply response : Bytes} {envelope : Envelope} {resolution : Resolution}
      {secret : SecretKey} {key : PublicKey} {channel : Noise.Established} (wire : Wire)
      (decoded : Envelope.decode reply = .ok envelope)
      (agreed : agree party envelope = .ok ⟨resolution, some (secret, key)⟩)
      (finished : (initiator suite party reply secret key).finish? suite response =
        some channel) :
      Ends suite party [reply, response]
        (.negotiated wire resolution (some channel) party.remote)

/-- What is known behind a step. While a dialer waits the registry may change. -/
def Reached (suite : Suite) (party : Party) (heard : List Bytes) (registry : Registry) :
    Move Dialer → Prop
  | .next dialer => Stands suite party registry heard dialer
  | .wait dialer => ∀ registry, Stands suite party registry heard dialer
  | .finished (.ok connection) => Ends suite party heard connection
  | .finished (.error _) => True

/-- What is known of a side that is not running. -/
def Known (suite : Suite) (party : Party) (heard : List Bytes) : Side Dialer → Prop
  | .active dialer => ∀ registry, Stands suite party registry heard dialer
  | .finished (.ok connection) => Ends suite party heard connection
  | _ => True

variable {suite : Suite} {party : Party} {registry : Registry} {heard : List Bytes}
  {dialer : Dialer}

/-- What a step leads to. -/
theorem Stands.step (stands : Stands suite party registry heard dialer) (stream : Stream) :
    Reached suite party (heard ++ dialer.hears stream) (dialer.step suite registry stream).2.1
      (dialer.step suite registry stream).1 := by
  cases stands with
  -- Each phase but those that read goes on at once, and nothing is claimed of a dialer that fails.
  | offering wire =>
    unfold Dialer.step hears
    dsimp only
    split
    · trivial
    · exact .awaitingReply _ none
  | awaitingReply wire frames =>
    unfold Dialer.step hears
    rcases read : wire.readFrame framing frames stream with ⟨outcome, frames', wire', stream'⟩
    simp only [read]
    match outcome with
    | .waiting => exact fun registry => .awaitingReply wire' frames'
    | .failed e => trivial
    | .done none => trivial
    | .done (some reply) =>
      cases decoded : Envelope.decode reply with
      | error fault =>
        simp only [decoded]
        trivial
      | ok envelope =>
        -- What the dialer agrees on decides whether it goes on to the handshake.
        simp only [decoded]
        match agreed : agree party envelope with
        | .error e => trivial
        | .ok ⟨resolution, none⟩ => exact .bare wire' decoded agreed
        | .ok ⟨resolution, some (secret, key)⟩ => exact .registering wire' decoded agreed
  | registering wire decoded agreed =>
    exact .lookingUp wire decoded agreed (registry.get?_insert party.remote _)
  | lookingUp wire decoded agreed registered =>
    unfold Dialer.step hears
    simp only [registered]
    split
    · trivial
    · exact .awaitingResponse _ decoded agreed .empty
  | @awaitingResponse reply envelope resolution secret key wire decoded agreed received =>
    unfold Dialer.step hears
    rcases read : wire.readExactly Noise.responseSize received stream with
      ⟨outcome, received', wire', stream'⟩
    simp only [read]
    match outcome with
    | .waiting => exact fun registry => .awaitingResponse wire' decoded agreed received'
    | .failed e => trivial
    | .done response =>
      cases finished : (initiator suite party reply secret key).finish? suite response with
      | none =>
        simp only [finished]
        trivial
      | some channel =>
        simp only [finished]
        exact .secure wire' decoded agreed finished

/-- The messages of a run are the one of its first step, and those of the run behind it. -/
theorem hearsAll_eq (suite : Suite) (registry : Registry) (dialer : Dialer) (stream : Stream) :
    dialer.hearsAll suite registry stream = dialer.hears stream ++
      match dialer.step suite registry stream with
      | (.next dialer, registry, stream) => dialer.hearsAll suite registry stream
      | _ => [] := by
  rw [hearsAll]
  split
  all_goals rename_i step; simp only [step]

/-- What a run leads to. -/
theorem Stands.run {registry : Registry} {heard : List Bytes} {dialer : Dialer}
    (stands : Stands suite party registry heard dialer) (stream : Stream) :
    Known suite party (heard ++ dialer.hearsAll suite registry stream)
      (dialer.run suite registry stream).1.side := by
  have reached := stands.step stream
  rw [hearsAll_eq, run_eq, ← List.append_assoc]
  match step : dialer.step suite registry stream with
  | (.next dialer', registry', stream') =>
    have := rank_step_lt step
    rw [step] at reached
    exact Stands.run reached stream'
  | (.wait dialer', registry', stream') =>
    rw [step] at reached
    rw [List.append_nil]
    exact reached
  | (.finished (.error e), registry', stream') => trivial
  | (.finished (.ok connection), registry', stream') =>
    rw [step] at reached
    rw [List.append_nil]
    exact reached
termination_by dialer.phase.rank

/-- What any number of runs lead to. -/
theorem After.known {side : Side Dialer} (after : After suite party heard side) :
    Known suite party heard side := by
  induction after with
  | start => exact fun registry => .offering .new
  | run after registry stream ih => exact (ih registry).run stream

/-- What a dialer has got in the end. -/
theorem After.ends {connection : Connection}
    (after : After suite party heard (.finished (.ok connection))) :
    Ends suite party heard connection :=
  after.known

end Dialer

end PeerLink.Negotiation
