import PeerLink.Proofs.Negotiation.Meeting

/-!
# What a side of a negotiation does

What a side does in a negotiation that others can see: it hears and says messages, registers a key
and looks for one. A side takes any number of steps, and finds any registry and any stream before
each of them, as other negotiations and the network may do whatever they like in between. `Took`
gives its deeds so far. `Dialer.Doing` and `Listener.Doing` say which deeds lead to which place,
`Dialer.Did` and `Listener.Did` which of them lead to which result; for both there is one lemma
about a step and one about any number of steps (`Dialer.Took.knows`, `Listener.Took.knows`).
-/

namespace PeerLink.Negotiation

/-- Something that a side does. -/
inductive Deed where
  /-- The side takes a message from the stream. -/
  | heard (message : Bytes)
  /-- The side writes a message to the stream, where it is flushed. -/
  | said (message : Bytes)
  /-- The side registers a key for the endpoint of the other side. -/
  | registered (key : PublicKey)
  /-- The side looks for the key that is registered for the endpoint of the other side. -/
  | found (key : Option PublicKey)
  deriving DecidableEq

namespace Deed

/-- The messages that were heard. -/
def heards (deeds : List Deed) : List Bytes :=
  deeds.filterMap fun | heard message => some message | _ => none

/-- The messages that were said. -/
def saids (deeds : List Deed) : List Bytes :=
  deeds.filterMap fun | said message => some message | _ => none

/-- The registry behind a deed of a side that has the other side at an endpoint. -/
def change (endpoint : Endpoint) (registry : Registry) : Deed → Registry
  | registered key => registry.insert endpoint key
  | _ => registry

end Deed

/-- Where a side is after any number of steps, each with any registry and over any stream, and what
it has done. -/
inductive Took {σ : Type} (deeds : Registry → σ → Stream → List Deed)
    (step : Registry → σ → Stream → Move σ × Registry × Stream) (start : σ) :
    List Deed → Side σ → Prop
  /-- The side has not begun. -/
  | start : Took deeds step start [] (.active start)
  /-- The side takes a step. -/
  | step {done : List Deed} {state : σ} (took : Took deeds step start done (.active state))
      (registry : Registry) (stream : Stream) :
      Took deeds step start (done ++ deeds registry state stream)
        (step registry state stream).1.side

/-- A side takes a step of which it is known what it leads to. -/
theorem Took.next {σ : Type} {deeds : Registry → σ → Stream → List Deed}
    {step : Registry → σ → Stream → Move σ × Registry × Stream} {start state : σ}
    {done ds : List Deed} {registry registry' : Registry} {stream stream' : Stream} {move : Move σ}
    (took : Took deeds step start done (.active state))
    (leads : step registry state stream = (move, registry', stream'))
    (does : deeds registry state stream = ds) :
    Took deeds step start (done ++ ds) move.side := by
  have next := took.step registry stream
  rwa [leads, does] at next

/-- A party agrees with an envelope on the secure channel: with its own secret key, and with the key
in the material of the envelope. -/
structure Party.Secures (party : Party) (message : Bytes) (resolution : Resolution)
    (secret : SecretKey) (key : PublicKey) : Prop where
  /-- The envelope fits a frame. -/
  acceptable : message.length ≤ LengthPrefixed.maxSize
  /-- What is agreed on. -/
  agreed : ∃ envelope, Envelope.decode message = .ok envelope ∧
    agree party envelope = .ok ⟨resolution, some (secret, key)⟩

/-- The first message of a party. -/
def Party.envelope (suite : Suite) (party : Party) : Bytes :=
  (party.upgrades.envelope suite).encode

/-! ## The dialer -/

namespace Dialer

/-- The first message of the handshake of a dialer that has heard a reply, to the owner of a key,
and the dialer behind it. -/
def initiation (suite : Suite) (party : Party) (reply : Bytes) (secret : SecretKey)
    (key : PublicKey) : Bytes × Noise.Initiator :=
  Noise.initiate suite (transcript (party.envelope suite) reply) secret party.ephemeral key

/-- What a dialer does in a step. -/
def deeds (suite : Suite) (registry : Registry) (dialer : Dialer) (stream : Stream) : List Deed :=
  let party := dialer.party
  match dialer.phase with
  | .offering =>
    match ((dialer.wire.put (LengthPrefixed.encode (party.envelope suite))).flush stream).1 with
    | .ok () => [.said (party.envelope suite)]
    | .error _ => []
  | .awaitingReply _ frames =>
    match (dialer.wire.readFrame framing frames stream).1 with
    | .done (some reply) => [.heard reply]
    | _ => []
  | .registering _ _ _ key => [.registered key]
  | .lookingUp prologue _ secret =>
    match registry.get? party.remote with
    | none => [.found none]
    | some key =>
      let message := (Noise.initiate suite prologue secret party.ephemeral key).1
      match ((dialer.wire.put message).flush stream).1 with
      | .ok () => [.found (some key), .said message]
      | .error _ => [.found (some key)]
  | .awaitingResponse _ _ received =>
    match (dialer.wire.readExactly Noise.responseSize received stream).1 with
    | .done response => [.heard response]
    | _ => []

/-- Where a dialer is after any number of steps. -/
abbrev Took (suite : Suite) (party : Party) : List Deed → Side Dialer → Prop :=
  Negotiation.Took (deeds suite) (step suite) (.new party)

/-- What a dialer has done that has agreed with a reply on the secure channel, and has registered
the key in it. -/
def opening (suite : Suite) (party : Party) (reply : Bytes) (key : PublicKey) : List Deed :=
  [.said (party.envelope suite), .heard reply, .registered key]

/-- What a dialer at work has done, and what it holds. -/
inductive Doing (suite : Suite) (party : Party) : List Deed → Dialer → Prop
  /-- Nothing was done. -/
  | offering (wire : Wire) : Doing suite party [] ⟨party, wire, .offering⟩
  /-- The offer was sent. -/
  | awaitingReply (wire : Wire) {frames : LengthPrefixed.State}
      (valid : LengthPrefixed.Valid frames) :
      Doing suite party [.said (party.envelope suite)]
        ⟨party, wire, .awaitingReply (party.envelope suite) frames⟩
  /-- The dialer agrees with the reply on the secure channel. -/
  | registering (wire : Wire) {reply : Bytes} {resolution : Resolution} {secret : SecretKey}
      {key : PublicKey} (secures : party.Secures reply resolution secret key) :
      Doing suite party [.said (party.envelope suite), .heard reply] ⟨party, wire,
        .registering (transcript (party.envelope suite) reply) resolution secret key⟩
  /-- The key in the reply was registered. -/
  | lookingUp (wire : Wire) {reply : Bytes} {resolution : Resolution} {secret : SecretKey}
      {key : PublicKey} (secures : party.Secures reply resolution secret key) :
      Doing suite party (opening suite party reply key) ⟨party, wire,
        .lookingUp (transcript (party.envelope suite) reply) resolution secret⟩
  /-- The handshake was initiated towards the owner of the key that was found. -/
  | awaitingResponse (wire : Wire) {reply : Bytes} {resolution : Resolution} {secret : SecretKey}
      {key found : PublicKey} (secures : party.Secures reply resolution secret key)
      (received : Buffer) :
      Doing suite party (opening suite party reply key ++
          [.found (some found), .said (initiation suite party reply secret found).1])
        ⟨party, wire, .awaitingResponse (initiation suite party reply secret found).2 resolution
          received⟩

/-- What a dialer has done whose negotiation is over, and what it has come to. -/
inductive Did (suite : Suite) (party : Party) :
    List Deed → Except NegotiationError Connection → Prop
  /-- The offer cannot be sent. -/
  | unsent (e : IoError) : Did suite party [] (.error (.io e))
  /-- There is no reply. -/
  | unheard (e : NegotiationError) : Did suite party [.said (party.envelope suite)] (.error e)
  /-- The dialer does not agree with the reply. -/
  | disagreed (reply : Bytes) (e : NegotiationError) :
      Did suite party [.said (party.envelope suite), .heard reply] (.error e)
  /-- The dialer agrees with the reply on a bare stream. -/
  | bare (wire : Wire) (reply : Bytes) (resolution : Resolution) :
      Did suite party [.said (party.envelope suite), .heard reply]
        (.ok (.negotiated wire resolution none party.remote))
  /-- No key is registered. -/
  | unknown {reply : Bytes} {resolution : Resolution} {secret : SecretKey} {key : PublicKey}
      (secures : party.Secures reply resolution secret key) :
      Did suite party (opening suite party reply key ++ [.found none])
        (.error (.registry (.notFound party.remote)))
  /-- The handshake cannot be initiated. -/
  | uninitiated {reply : Bytes} {resolution : Resolution} {secret : SecretKey}
      {key found : PublicKey} (secures : party.Secures reply resolution secret key) (e : IoError) :
      Did suite party (opening suite party reply key ++ [.found (some found)]) (.error (.io e))
  /-- There is no response. -/
  | unanswered {reply : Bytes} {resolution : Resolution} {secret : SecretKey}
      {key found : PublicKey} (secures : party.Secures reply resolution secret key) (e : IoError) :
      Did suite party (opening suite party reply key ++
        [.found (some found), .said (initiation suite party reply secret found).1]) (.error (.io e))
  /-- The response is not authentic. -/
  | forged {reply response : Bytes} {resolution : Resolution} {secret : SecretKey}
      {key found : PublicKey} (secures : party.Secures reply resolution secret key) :
      Did suite party (opening suite party reply key ++
        [.found (some found), .said (initiation suite party reply secret found).1,
          .heard response]) (.error .handshake)
  /-- The handshake with the owner of the key that was found is complete. -/
  | secure {reply response : Bytes} {resolution : Resolution} {secret : SecretKey}
      {key found : PublicKey} {channel : Noise.Established} (wire : Wire)
      (secures : party.Secures reply resolution secret key)
      (finished : (initiation suite party reply secret found).2.finish? suite response =
        some channel) :
      Did suite party (opening suite party reply key ++
          [.found (some found), .said (initiation suite party reply secret found).1,
            .heard response])
        (.ok (.negotiated wire resolution (some channel) party.remote))

/-- What is known of a dialer that has done something. -/
def Knows (suite : Suite) (party : Party) (done : List Deed) : Side Dialer → Prop
  | .active dialer => Doing suite party done dialer
  | .finished result => Did suite party done result
  | _ => False

variable {suite : Suite} {party : Party} {done : List Deed} {dialer : Dialer}

section Steps

variable (registry : Registry) (stream : Stream) (wire : Wire)

/-- A dialer sends its offer, or cannot do so. -/
theorem knows_offering :
    Knows suite party (deeds suite registry ⟨party, wire, .offering⟩ stream)
      (step suite registry ⟨party, wire, .offering⟩ stream).1.side := by
  unfold Dialer.step deeds
  dsimp only
  rcases written : (wire.put (LengthPrefixed.encode (party.envelope suite))).flush stream with
    ⟨result, wire', stream'⟩
  rw [Party.envelope] at written
  simp only [Party.envelope, written]
  match result with
  | .error e => exact .unsent e
  | .ok () => exact .awaitingReply wire' (by rintro n ⟨⟩)

/-- A dialer waits for the reply, agrees with it or not, or gets none. -/
theorem knows_awaitingReply {frames : LengthPrefixed.State} (valid : LengthPrefixed.Valid frames) :
    let dialer : Dialer := ⟨party, wire, .awaitingReply (party.envelope suite) frames⟩
    Knows suite party ([.said (party.envelope suite)] ++ dialer.deeds suite registry stream)
      (dialer.step suite registry stream).1.side := by
  intro dialer
  unfold Dialer.step deeds
  rcases read : wire.readFrame framing frames stream with ⟨outcome, frames', wire', stream'⟩
  obtain ⟨acceptable, valid'⟩ := LengthPrefixed.acceptable_readFrame _ valid read
  simp only [dialer, read]
  match outcome with
  | .waiting => exact .awaitingReply wire' (valid' rfl)
  | .failed e => exact .unheard e
  | .done none => exact .unheard _
  | .done (some reply) =>
    cases decoded : Envelope.decode reply with
    | error fault =>
      simp only [decoded]
      exact .disagreed reply _
    | ok envelope =>
      simp only [decoded]
      match agreed : agree party envelope with
      | .error e => exact .disagreed reply e
      | .ok ⟨resolution, none⟩ => exact .bare wire' reply resolution
      | .ok ⟨resolution, some (secret, key)⟩ =>
        exact .registering wire' ⟨acceptable reply rfl, envelope, decoded, agreed⟩

section

variable {reply : Bytes} {resolution : Resolution} {secret : SecretKey} {key : PublicKey}
  (secures : party.Secures reply resolution secret key)

include secures

/-- A dialer initiates the handshake towards the owner of the key that it finds, whoever has
registered it. -/
theorem knows_lookingUp :
    let dialer : Dialer := ⟨party, wire, .lookingUp (transcript (party.envelope suite) reply)
      resolution secret⟩
    Knows suite party (opening suite party reply key ++ dialer.deeds suite registry stream)
      (dialer.step suite registry stream).1.side := by
  intro dialer
  unfold Dialer.step deeds
  dsimp only [dialer]
  cases registry.get? party.remote with
  | none => exact .unknown secures
  | some found =>
    rcases written : (wire.put (initiation suite party reply secret found).1).flush stream with
      ⟨result, wire', stream'⟩
    rw [initiation] at written
    simp only [written]
    match result with
    | .error e => exact .uninitiated secures e
    | .ok () => exact .awaitingResponse wire' secures .empty

/-- A dialer waits for the response, completes the handshake with it or not, or gets none. -/
theorem knows_awaitingResponse {found : PublicKey} (received : Buffer) :
    let dialer : Dialer := ⟨party, wire, .awaitingResponse
      (initiation suite party reply secret found).2 resolution received⟩
    Knows suite party (opening suite party reply key ++
        [.found (some found), .said (initiation suite party reply secret found).1] ++
          dialer.deeds suite registry stream)
      (dialer.step suite registry stream).1.side := by
  intro dialer
  unfold Dialer.step deeds
  rcases read : wire.readExactly Noise.responseSize received stream with
    ⟨outcome, received', wire', stream'⟩
  simp only [dialer, read]
  match outcome with
  | .waiting =>
    rw [List.append_nil]
    exact .awaitingResponse wire' secures received'
  | .failed e =>
    rw [List.append_nil]
    exact .unanswered secures e
  | .done response =>
    rw [List.append_assoc]
    cases finished : (initiation suite party reply secret found).2.finish? suite response with
    | none =>
      simp only [finished]
      exact .forged secures
    | some channel =>
      simp only [finished]
      exact .secure wire' secures finished

end

end Steps

/-- What a step leads to. -/
theorem Doing.step (doing : Doing suite party done dialer) (registry : Registry) (stream : Stream) :
    Knows suite party (done ++ dialer.deeds suite registry stream)
      (dialer.step suite registry stream).1.side := by
  cases doing with
  | offering wire => exact knows_offering registry stream wire
  | awaitingReply wire valid => exact knows_awaitingReply registry stream wire valid
  | registering wire secures => exact .lookingUp wire secures
  | lookingUp wire secures => exact knows_lookingUp registry stream wire secures
  | awaitingResponse wire secures received =>
    exact knows_awaitingResponse registry stream wire secures received

/-- What any number of steps lead to. -/
theorem Took.knows {side : Side Dialer} (took : Took suite party done side) :
    Knows suite party done side := by
  induction took with
  | start => exact .offering .new
  | step took registry stream ih => exact Doing.step ih registry stream

end Dialer

/-! ## The listener -/

namespace Listener

/-- What a listener does in a step. -/
def deeds (suite : Suite) (registry : Registry) (listener : Listener) (stream : Stream) :
    List Deed :=
  let party := listener.party
  match listener.phase with
  | .awaitingOffer frames =>
    match listener.wire.readFrame framing frames stream with
    | (.done (some offer), _, wire, stream) =>
      match Envelope.decode offer with
      | .error _ => [.heard offer]
      | .ok _ =>
        match ((wire.put (LengthPrefixed.encode (party.envelope suite))).flush stream).1 with
        | .ok () => [.heard offer, .said (party.envelope suite)]
        | .error _ => [.heard offer]
    | _ => []
  | .registering _ _ _ key => [.registered key]
  | .awaitingInitiation _ _ _ received =>
    match (listener.wire.readExactly Noise.initiationSize received stream).1 with
    | .done message => [.heard message]
    | _ => []
  | .lookingUp responder _ =>
    match registry.get? party.remote with
    | none => [.found none]
    | some key =>
      if responder.initiator = key then
        let message := (responder.reply suite party.ephemeral).1
        match ((listener.wire.put message).flush stream).1 with
        | .ok () => [.found (some key), .said message]
        | .error _ => [.found (some key)]
      else [.found (some key)]

/-- Where a listener is after any number of steps. -/
abbrev Took (suite : Suite) (party : Party) : List Deed → Side Listener → Prop :=
  Negotiation.Took (deeds suite) (step suite) (.new party)

/-- What a listener has done that has agreed with an offer on the secure channel, and has registered
the key in it. -/
def opening (suite : Suite) (party : Party) (offer : Bytes) (key : PublicKey) : List Deed :=
  [.heard offer, .said (party.envelope suite), .registered key]

/-- What a listener makes of the first message of the handshake. -/
def responder? (suite : Suite) (party : Party) (offer : Bytes) (secret : SecretKey)
    (message : Bytes) : Option Noise.Responder :=
  Noise.respond? suite (transcript offer (party.envelope suite)) secret message

/-- What a listener at work has done, and what it holds. -/
inductive Doing (suite : Suite) (party : Party) : List Deed → Listener → Prop
  /-- Nothing was done. -/
  | awaitingOffer (wire : Wire) {frames : LengthPrefixed.State}
      (valid : LengthPrefixed.Valid frames) :
      Doing suite party [] ⟨party, wire, .awaitingOffer frames⟩
  /-- The listener agrees with the offer on the secure channel. -/
  | registering (wire : Wire) {offer : Bytes} {resolution : Resolution} {secret : SecretKey}
      {key : PublicKey} (secures : party.Secures offer resolution secret key) :
      Doing suite party [.heard offer, .said (party.envelope suite)] ⟨party, wire,
        .registering (transcript offer (party.envelope suite)) resolution secret key⟩
  /-- The key in the offer was registered. -/
  | awaitingInitiation (wire : Wire) {offer : Bytes} {resolution : Resolution} {secret : SecretKey}
      {key : PublicKey} (secures : party.Secures offer resolution secret key) (received : Buffer) :
      Doing suite party (opening suite party offer key) ⟨party, wire,
        .awaitingInitiation (transcript offer (party.envelope suite)) resolution secret received⟩
  /-- The first message of the handshake is authentic. -/
  | lookingUp (wire : Wire) {offer message : Bytes} {resolution : Resolution} {secret : SecretKey}
      {key : PublicKey} {responder : Noise.Responder}
      (secures : party.Secures offer resolution secret key)
      (responds : responder? suite party offer secret message = some responder) :
      Doing suite party (opening suite party offer key ++ [.heard message])
        ⟨party, wire, .lookingUp responder resolution⟩

/-- What a listener has done whose negotiation is over, and what it has come to. -/
inductive Did (suite : Suite) (party : Party) :
    List Deed → Except NegotiationError Connection → Prop
  /-- There is no offer. -/
  | unheard (e : NegotiationError) : Did suite party [] (.error e)
  /-- The peer does not negotiate. -/
  | plain (wire : Wire) {offer : Bytes} {fault : Json.Fault}
      (undecoded : Envelope.decode offer = .error fault) :
      Did suite party [.heard offer]
        (.ok (.negotiated (wire.unread (LengthPrefixed.encode offer)) .bare none party.remote))
  /-- The reply cannot be sent. -/
  | unsent (offer : Bytes) (e : IoError) : Did suite party [.heard offer] (.error (.io e))
  /-- The listener does not agree with the offer. -/
  | disagreed (offer : Bytes) (e : NegotiationError) :
      Did suite party [.heard offer, .said (party.envelope suite)] (.error e)
  /-- The listener agrees with the offer on a bare stream. -/
  | bare (wire : Wire) (offer : Bytes) (resolution : Resolution) :
      Did suite party [.heard offer, .said (party.envelope suite)]
        (.ok (.negotiated wire resolution none party.remote))
  /-- The dialer does not initiate the handshake. -/
  | uninitiated {offer : Bytes} {resolution : Resolution} {secret : SecretKey} {key : PublicKey}
      (secures : party.Secures offer resolution secret key) (e : IoError) :
      Did suite party (opening suite party offer key) (.error (.io e))
  /-- The first message of the handshake is not authentic. -/
  | forged {offer message : Bytes} {resolution : Resolution} {secret : SecretKey} {key : PublicKey}
      (secures : party.Secures offer resolution secret key)
      (fails : responder? suite party offer secret message = none) :
      Did suite party (opening suite party offer key ++ [.heard message]) (.error .handshake)
  /-- No key is registered. -/
  | unknown {offer message : Bytes} {resolution : Resolution} {secret : SecretKey} {key : PublicKey}
      {responder : Noise.Responder} (secures : party.Secures offer resolution secret key)
      (responds : responder? suite party offer secret message = some responder) :
      Did suite party (opening suite party offer key ++ [.heard message, .found none])
        (.error (.registry (.notFound party.remote)))
  /-- The initiator does not own the key that was found. -/
  | rejected {offer message : Bytes} {resolution : Resolution} {secret : SecretKey}
      {key found : PublicKey} {responder : Noise.Responder}
      (secures : party.Secures offer resolution secret key)
      (responds : responder? suite party offer secret message = some responder)
      (other : responder.initiator ≠ found) :
      Did suite party (opening suite party offer key ++ [.heard message, .found (some found)])
        (.error (.rejected responder.initiator))
  /-- The initiator cannot be answered. -/
  | unanswered {offer message : Bytes} {resolution : Resolution} {secret : SecretKey}
      {key : PublicKey} {responder : Noise.Responder}
      (secures : party.Secures offer resolution secret key)
      (responds : responder? suite party offer secret message = some responder) (e : IoError) :
      Did suite party
        (opening suite party offer key ++ [.heard message, .found (some responder.initiator)])
        (.error (.io e))
  /-- The initiator owns the key that was found, and is answered. -/
  | secure {offer message : Bytes} {resolution : Resolution} {secret : SecretKey}
      {key : PublicKey} {responder : Noise.Responder} (wire : Wire)
      (secures : party.Secures offer resolution secret key)
      (responds : responder? suite party offer secret message = some responder) :
      Did suite party
        (opening suite party offer key ++ [.heard message, .found (some responder.initiator),
          .said (responder.reply suite party.ephemeral).1])
        (.ok (.negotiated wire resolution (some (responder.reply suite party.ephemeral).2)
          party.remote))

/-- What is known of a listener that has done something. -/
def Knows (suite : Suite) (party : Party) (done : List Deed) : Side Listener → Prop
  | .active listener => Doing suite party done listener
  | .finished result => Did suite party done result
  | _ => False

variable {suite : Suite} {party : Party} {done : List Deed} {listener : Listener}

section Steps

variable (registry : Registry) (stream : Stream) (wire : Wire)

/-- A listener waits for the offer, or gets none. It replies to an offer, whether it agrees with it
or not, unless the offer is no envelope or the reply cannot be sent. -/
theorem knows_awaitingOffer {frames : LengthPrefixed.State} (valid : LengthPrefixed.Valid frames) :
    Knows suite party (deeds suite registry ⟨party, wire, .awaitingOffer frames⟩ stream)
      (step suite registry ⟨party, wire, .awaitingOffer frames⟩ stream).1.side := by
  unfold Listener.step deeds
  rcases read : wire.readFrame framing frames stream with ⟨outcome, frames', wire', stream'⟩
  obtain ⟨acceptable, valid'⟩ := LengthPrefixed.acceptable_readFrame _ valid read
  simp only [read]
  rcases outcome with (_ | offer) | e | _
  · exact .unheard _
  · cases decoded : Envelope.decode offer with
    | error fault =>
      simp only [decoded]
      exact .plain wire' decoded
    | ok envelope =>
      rcases written : (wire'.put (LengthPrefixed.encode (party.envelope suite))).flush stream'
        with ⟨result, wire'', stream''⟩
      rw [Party.envelope] at written
      simp only [decoded, Party.envelope, written]
      cases result with
      | error e => exact .unsent offer e
      | ok =>
        rcases agreed : agree party envelope with e | ⟨resolution, _ | ⟨secret, key⟩⟩
        · exact .disagreed offer e
        · exact .bare wire'' offer resolution
        · exact .registering wire'' ⟨acceptable offer rfl, envelope, decoded, agreed⟩
  · exact .unheard e
  · exact .awaitingOffer wire' (valid' rfl)

section

variable {offer message : Bytes} {resolution : Resolution} {secret : SecretKey} {key : PublicKey}
  {responder : Noise.Responder} (secures : party.Secures offer resolution secret key)

include secures

/-- A listener waits for the first message of the handshake, finds it authentic or not, or gets
none. -/
theorem knows_awaitingInitiation (received : Buffer) :
    let listener : Listener := ⟨party, wire, .awaitingInitiation
      (transcript offer (party.envelope suite)) resolution secret received⟩
    Knows suite party (opening suite party offer key ++ listener.deeds suite registry stream)
      (listener.step suite registry stream).1.side := by
  intro listener
  unfold Listener.step deeds
  rcases read : wire.readExactly Noise.initiationSize received stream with
    ⟨outcome, received', wire', stream'⟩
  simp only [listener, read]
  cases outcome with
  | waiting =>
    rw [List.append_nil]
    exact .awaitingInitiation wire' secures received'
  | failed e =>
    rw [List.append_nil]
    exact .uninitiated secures e
  | done message =>
    cases responds : Noise.respond? suite (transcript offer (party.envelope suite)) secret
        message with
    | none =>
      simp only [responds]
      exact .forged secures responds
    | some responder =>
      simp only [responds]
      exact .lookingUp wire' secures responds

/-- A listener answers an initiator that owns the key that it finds, whoever has registered it. -/
theorem knows_lookingUp (responds : responder? suite party offer secret message = some responder) :
    let listener : Listener := ⟨party, wire, .lookingUp responder resolution⟩
    Knows suite party (opening suite party offer key ++ [.heard message] ++
        listener.deeds suite registry stream)
      (listener.step suite registry stream).1.side := by
  intro listener
  unfold Listener.step deeds
  dsimp only [listener]
  rw [List.append_assoc]
  cases registry.get? party.remote with
  | none => exact .unknown secures responds
  | some found =>
    by_cases same : responder.initiator = found
    · subst same
      rcases written : (wire.put (responder.reply suite party.ephemeral).1).flush stream with
        ⟨result, wire', stream'⟩
      simp only [if_true]
      cases result with
      | error e => exact .unanswered secures responds e
      | ok => exact .secure wire' secures responds
    · simp only [if_neg same]
      exact .rejected secures responds same

end

end Steps

/-- What a step leads to. -/
theorem Doing.step (doing : Doing suite party done listener) (registry : Registry)
    (stream : Stream) :
    Knows suite party (done ++ listener.deeds suite registry stream)
      (listener.step suite registry stream).1.side := by
  cases doing with
  | awaitingOffer wire valid => exact knows_awaitingOffer registry stream wire valid
  | registering wire secures => exact .awaitingInitiation wire secures .empty
  | awaitingInitiation wire secures received =>
    exact knows_awaitingInitiation registry stream wire secures received
  | lookingUp wire secures responds => exact knows_lookingUp registry stream wire secures responds

/-- What any number of steps lead to. -/
theorem Took.knows {side : Side Listener} (took : Took suite party done side) :
    Knows suite { party with expected := none } done side := by
  induction took with
  | start => exact .awaitingOffer .new (by rintro n ⟨⟩)
  | step took registry stream ih => exact Doing.step ih registry stream

end Listener

end PeerLink.Negotiation
