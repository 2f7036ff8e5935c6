import PeerLink.Negotiation.Dialer
import PeerLink.Negotiation.Listener
import PeerLink.Proofs.Framing.LengthPrefixed
import PeerLink.Proofs.Patience.Later

/-!
# Steps of a negotiation that has to wait

A side of a negotiation and another one that is at the same point and has more octets before it take
the same step, unless the first one has to wait (`Dialer.Later.ready`, `Listener.Later.ready`). If
it waits and is run again it takes the step that the second one takes the first time
(`Dialer.Later.again`, `Listener.Later.again`). What was read ahead of the octets that a step needs
stays in the wire, and the wire is what the next step reads from, up to the connection.
-/

namespace PeerLink.Negotiation

variable {σ : Type} {suite : Suite} {registry registry' : Registry} {party : Party}
  {more : Bytes} {verge verge' : ReadResult} {wire wire' next next' : Wire}
  {stream stream' rest rest' : Stream}

/-- Two steps come to the same, up to the octets that are before the sides. -/
inductive Leads (Later : σ → Stream → σ → Stream → Prop) (more : Bytes)
    (verge verge' : ReadResult) :
    Move σ × Registry × Stream → Move σ × Registry × Stream → Prop
  /-- Both sides go on. -/
  | next {state state' : σ} {stream stream' : Stream} (registry : Registry)
      (later : Later state stream state' stream') :
      Leads Later more verge verge' (.next state, registry, stream)
        (.next state', registry, stream')
  /-- Both sides wait. -/
  | wait {state state' : σ} {stream stream' : Stream} (registry : Registry)
      (later : Later state stream state' stream') :
      Leads Later more verge verge' (.wait state, registry, stream)
        (.wait state', registry, stream')
  /-- Both negotiations fail. -/
  | failed {stream stream' : Stream} (registry : Registry) (e : NegotiationError)
      (outbound : stream'.outbound = stream.outbound) :
      Leads Later more verge verge' (.finished (.error e), registry, stream)
        (.finished (.error e), registry, stream')
  /-- Both sides have negotiated the same connection. -/
  | connected {wire wire' : Wire} {stream stream' : Stream} (registry : Registry)
      (later : wire.Later more verge verge' stream wire' stream') (resolution : Resolution)
      (channel : Option Noise.Established) (endpoint : Endpoint) :
      Leads Later more verge verge'
        (.finished (.ok (.negotiated wire resolution channel endpoint)), registry, stream)
        (.finished (.ok (.negotiated wire' resolution channel endpoint)), registry, stream')

/-! ## The dialer -/

/-- Two phases are the same, up to the way in which a buffer holds its octets. -/
inductive DialPhase.Alike : DialPhase → DialPhase → Prop
  /-- Nothing was sent. -/
  | offering : Alike .offering .offering
  /-- The reply is awaited. -/
  | awaitingReply (offer : Bytes) (frames : LengthPrefixed.State) :
      Alike (.awaitingReply offer frames) (.awaitingReply offer frames)
  /-- The key is to be registered. -/
  | registering (prologue : Bytes) (resolution : Resolution) (secret : SecretKey)
      (key : PublicKey) :
      Alike (.registering prologue resolution secret key)
        (.registering prologue resolution secret key)
  /-- The key is to be looked up. -/
  | lookingUp (prologue : Bytes) (resolution : Resolution) (secret : SecretKey) :
      Alike (.lookingUp prologue resolution secret) (.lookingUp prologue resolution secret)
  /-- The response is awaited, and the same octets of it were received. -/
  | awaitingResponse (initiator : Noise.Initiator) (resolution : Resolution)
      {received received' : Buffer} (same : received'.toBytes = received.toBytes) :
      Alike (.awaitingResponse initiator resolution received)
        (.awaitingResponse initiator resolution received')

/-- A phase is like itself. -/
theorem DialPhase.Alike.refl (phase : DialPhase) : phase.Alike phase := by
  cases phase with
  | offering => exact .offering
  | awaitingReply => exact .awaitingReply ..
  | registering => exact .registering ..
  | lookingUp => exact .lookingUp ..
  | awaitingResponse => exact .awaitingResponse _ _ rfl

/-- Two phases like a third one are like each other. -/
theorem DialPhase.Alike.unique {phase phase' phase'' : DialPhase} (alike : phase.Alike phase')
    (alike' : phase.Alike phase'') : phase'.Alike phase'' := by
  cases alike with
  | awaitingResponse _ _ same =>
    cases alike' with
    | awaitingResponse _ _ same' => exact .awaitingResponse _ _ (same'.trans same.symm)
  | _ => exact alike'

namespace Dialer

/-- The second dialer is at the same point as the first one, and has more octets before it. -/
inductive Later (more : Bytes) (verge verge' : ReadResult) :
    Dialer → Stream → Dialer → Stream → Prop
  /-- Two dialers. -/
  | intro (party : Party) {wire wire' : Wire} {stream stream' : Stream}
      (later : wire.Later more verge verge' stream wire' stream') {phase phase' : DialPhase}
      (alike : phase.Alike phase') : Later more verge verge' ⟨party, wire, phase⟩ stream
        ⟨party, wire', phase'⟩ stream'

section

variable {dialer dialer' dialer'' : Dialer} {stream'' : Stream}

/-- When octets arrive at the first dialer there are fewer that only the second one has. -/
theorem Later.arrive {bytes : Bytes}
    (later : Later (bytes ++ more) .wait verge' dialer stream dialer' stream') :
    Later more .wait verge' dialer (stream.arrive bytes) dialer' stream' := by
  cases later with
  | intro party later alike => exact .intro party later.arrive alike

/-- A dialer that waits, and the same one when octets have arrived and the stream has come to its
end. -/
theorem Later.supply (later : Later more .wait verge' dialer stream dialer' stream')
    (bytes : Bytes) (ending : Ending) :
    Later bytes .wait ending.verge dialer stream dialer ((stream.arrive bytes).close ending) := by
  cases later with
  | intro party later => exact .intro party (later.supply bytes ending) (.refl _)

/-- Two dialers that have the same before them as a third one, and the same octets behind that, have
the same before them. -/
theorem Later.unique (later : Later more verge verge' dialer stream dialer' stream')
    (later' : Later more verge verge' dialer stream dialer'' stream'') :
    Later [] verge' verge' dialer' stream' dialer'' stream'' := by
  cases later with
  | intro party later alike =>
    cases later' with
    | intro _ later' alike' => exact .intro party (later.unique later') (alike.unique alike')

/-- Both dialers have written the same. -/
theorem Later.outbound (later : Later more verge verge' dialer stream dialer' stream') :
    stream'.outbound = stream.outbound := by
  cases later with
  | intro party later => exact later.outbound

end

/-- Both dialers send their offers. -/
theorem leads_offering (later : wire.Later more verge verge' stream wire' stream') :
    Leads (Later more verge verge') more verge verge'
      (step suite registry ⟨party, wire, .offering⟩ stream)
      (step suite registry ⟨party, wire', .offering⟩ stream') := by
  rcases written : (wire.put (LengthPrefixed.encode (party.upgrades.envelope suite).encode)).flush
    stream with ⟨result, next, rest⟩
  obtain ⟨next', rest', written', later'⟩ := (later.put _).flush written
  simp only [step, written, written']
  match result with
  | .error e => exact .failed registry _ later'.outbound
  | .ok () => exact .next registry (.intro party later' (.awaitingReply ..))

/-- Both dialers make the same of what they read for the reply. -/
theorem leads_awaitingReply {offer : Bytes} {frames frames' left : LengthPrefixed.State}
    {outcome : Outcome NegotiationError (Option Bytes)}
    (read : wire.readFrame framing frames stream = (outcome, left, next, rest))
    (read' : wire'.readFrame framing frames' stream' = (outcome, left, next', rest'))
    (later : next.Later more verge verge' rest next' rest') :
    Leads (Later more verge verge') more verge verge'
      (step suite registry ⟨party, wire, .awaitingReply offer frames⟩ stream)
      (step suite registry ⟨party, wire', .awaitingReply offer frames'⟩ stream') := by
  simp only [step, read, read']
  match outcome with
  | .waiting => exact .wait registry (.intro party later (.awaitingReply ..))
  | .failed e => exact .failed registry e later.outbound
  | .done none => exact .failed registry _ later.outbound
  | .done (some reply) =>
    cases decoded : Envelope.decode reply with
    | error fault =>
      simp only [decoded]
      exact .failed registry _ later.outbound
    | ok envelope =>
      simp only [decoded]
      match agree party envelope with
      | .error e => exact .failed registry e later.outbound
      | .ok ⟨resolution, none⟩ => exact .connected registry later ..
      | .ok ⟨resolution, some (secret, key)⟩ =>
        exact .next registry (.intro party later (.registering ..))

/-- Both dialers look for the key and send the first message of the handshake. -/
theorem leads_lookingUp (later : wire.Later more verge verge' stream wire' stream')
    (prologue : Bytes) (resolution : Resolution) (secret : SecretKey) :
    Leads (Later more verge verge') more verge verge'
      (step suite registry ⟨party, wire, .lookingUp prologue resolution secret⟩ stream)
      (step suite registry ⟨party, wire', .lookingUp prologue resolution secret⟩ stream') := by
  simp only [step]
  cases registry.get? party.remote with
  | none => exact .failed registry _ later.outbound
  | some key =>
    rcases written : (wire.put (Noise.initiate suite prologue secret party.ephemeral key).1).flush
      stream with ⟨result, next, rest⟩
    obtain ⟨next', rest', written', later'⟩ := (later.put _).flush written
    simp only [written, written']
    match result with
    | .error e => exact .failed registry _ later'.outbound
    | .ok () => exact .next registry (.intro party later' (.awaitingResponse _ _ rfl))

/-- Both dialers make the same of what they receive for the response. -/
theorem leads_awaitingResponse {initiator : Noise.Initiator} {resolution : Resolution}
    {received received' left left' : Buffer} {outcome : Outcome IoError Bytes}
    (read : wire.readExactly Noise.responseSize received stream = (outcome, left, next, rest))
    (read' : wire'.readExactly Noise.responseSize received' stream' =
      (outcome, left', next', rest'))
    (same : outcome = .waiting → left'.toBytes = left.toBytes)
    (later : next.Later more verge verge' rest next' rest') :
    Leads (Later more verge verge') more verge verge'
      (step suite registry ⟨party, wire, .awaitingResponse initiator resolution received⟩ stream)
      (step suite registry ⟨party, wire', .awaitingResponse initiator resolution received'⟩
        stream') := by
  simp only [step, read, read']
  match outcome with
  | .waiting => exact .wait registry (.intro party later (.awaitingResponse _ _ (same rfl)))
  | .failed e => exact .failed registry _ later.outbound
  | .done message =>
    cases finished : initiator.finish? suite message with
    | none =>
      simp only [finished]
      exact .failed registry _ later.outbound
    | some channel =>
      simp only [finished]
      exact .connected registry later ..

/-- Where a dialer waits: for the reply or for the response, of which it has read a part. -/
theorem waits_cases {dialer dialer' : Dialer}
    (waits : dialer.step suite registry stream = (.wait dialer', registry', rest)) :
    registry' = registry ∧
      ((∃ offer frames left next, dialer.phase = .awaitingReply offer frames ∧
          dialer.wire.readFrame framing frames stream = (.waiting, left, next, rest) ∧
          dialer' = ⟨dialer.party, next, .awaitingReply offer left⟩) ∨
        ∃ initiator resolution received left next,
          dialer.phase = .awaitingResponse initiator resolution received ∧
          dialer.wire.readExactly Noise.responseSize received stream =
            (.waiting, left, next, rest) ∧
          dialer' = ⟨dialer.party, next, .awaitingResponse initiator resolution left⟩) := by
  obtain ⟨party, wire, phase⟩ := dialer
  unfold step at waits
  -- Whatever is not a read goes on or is over, and so does a read that is complete.
  cases phase with
  | offering =>
    dsimp only at waits
    split at waits <;> simp at waits
  | awaitingReply offer frames =>
    rcases read : wire.readFrame framing frames stream with ⟨outcome, left, next, rest₁⟩
    simp only [read] at waits
    match outcome with
    | .waiting =>
      simp only [Prod.mk.injEq, Move.wait.injEq] at waits
      obtain ⟨rfl, rfl, rfl⟩ := waits
      exact ⟨rfl, .inl ⟨_, _, _, _, rfl, read, rfl⟩⟩
    | .failed e => simp at waits
    | .done none => simp at waits
    | .done (some reply) =>
      dsimp only at waits
      split at waits
      · simp at waits
      · split at waits <;> simp at waits
  | registering prologue resolution secret key => simp at waits
  | lookingUp prologue resolution secret =>
    dsimp only at waits
    split at waits
    · simp at waits
    · split at waits <;> simp at waits
  | awaitingResponse initiator resolution received =>
    rcases read : wire.readExactly Noise.responseSize received stream with
      ⟨outcome, left, next, rest₁⟩
    simp only [read] at waits
    match outcome with
    | .waiting =>
      simp only [Prod.mk.injEq, Move.wait.injEq] at waits
      obtain ⟨rfl, rfl, rfl⟩ := waits
      exact ⟨rfl, .inr ⟨_, _, _, _, _, rfl, read, rfl⟩⟩
    | .failed e => simp at waits
    | .done message =>
      dsimp only at waits
      split at waits <;> simp at waits

/-- Both dialers take the same step, unless the first one has to wait. -/
theorem Later.ready {dialer dialer' : Dialer}
    (later : Later more verge verge' dialer stream dialer' stream')
    (ready : (∀ dialer₁, (dialer.step suite registry stream).1 ≠ .wait dialer₁) ∨
      more = [] ∧ verge = verge') :
    Leads (Later more verge verge') more verge verge' (dialer.step suite registry stream)
      (dialer'.step suite registry stream') := by
  -- A side that does not wait has read all that it needs.
  cases later with
  | @intro party wire wire' _ _ later _ _ alike =>
    cases alike with
    | offering => exact leads_offering later
    | awaitingReply offer frames =>
      rcases read : wire.readFrame framing frames stream with ⟨outcome, left, next, rest⟩
      obtain ⟨next', rest', read', later'⟩ := later.readFrame (LengthPrefixed.incremental _) read
        (ready.imp_left fun goes waits => by
          subst waits
          simp [step, read] at goes)
      exact leads_awaitingReply read read' later'
    | registering prologue resolution secret key =>
      exact .next _ (.intro party later (.lookingUp ..))
    | lookingUp prologue resolution secret => exact leads_lookingUp later ..
    | @awaitingResponse initiator resolution received received' same =>
      rcases read : wire.readExactly Noise.responseSize received stream with
        ⟨outcome, left, next, rest⟩
      obtain ⟨left', next', rest', read', same', later'⟩ := later.readExactly same read
        (ready.imp_left fun goes waits => by
          subst waits
          simp [step, read] at goes)
      exact leads_awaitingResponse read read' same' later'

/-- A dialer that has waited takes the step that the second one takes, which has had all octets
before it from the beginning. Nothing was registered in between. -/
theorem Later.again {dialer dialer' dialer₁ dialer₂ : Dialer} {stream₁ stream₂ : Stream}
    (later : Later more .wait verge' dialer stream dialer' stream')
    (waits : dialer.step suite registry stream = (.wait dialer₁, registry', stream₁))
    (later' : Later more .wait verge' dialer₁ stream₁ dialer₂ stream₂) :
    registry' = registry ∧
      Leads (Later [] verge' verge') [] verge' verge' (dialer₂.step suite registry stream₂)
        (dialer'.step suite registry stream') := by
  cases later with
  | @intro party wire wire' _ _ later phase phase' alike =>
    obtain ⟨rfl, ⟨offer, frames, left, next, rfl, read, rfl⟩ |
      ⟨initiator, resolution, received, left, next, rfl, read, rfl⟩⟩ := waits_cases waits
    -- What was read of the frame or of the message is kept, and the rest of it is read behind that.
    · cases alike
      cases later' with
      | intro party later' alike =>
        cases alike
        obtain ⟨outcome, frames, wire₁, stream₁, wire₂, stream₂, read₁, read₂, later₂⟩ :=
          later.readFrame_again (LengthPrefixed.incremental _) read later'
        exact ⟨rfl, leads_awaitingReply read₁ read₂ later₂⟩
    · cases alike with
      | awaitingResponse _ _ same =>
        cases later' with
        | intro party later' alike =>
          cases alike with
          | awaitingResponse _ _ same' =>
            obtain ⟨outcome, left₁, wire₁, stream₁, left₂, wire₂, stream₂, read₁, read₂, same₂,
              later₂⟩ := later.readExactly_again same read later' same'
            exact ⟨rfl, leads_awaitingResponse read₁ read₂ same₂ later₂⟩

end Dialer

/-! ## The listener -/

/-- Two phases are the same, up to the way in which a buffer holds its octets. -/
inductive AcceptPhase.Alike : AcceptPhase → AcceptPhase → Prop
  /-- The offer is awaited. -/
  | awaitingOffer (frames : LengthPrefixed.State) :
      Alike (.awaitingOffer frames) (.awaitingOffer frames)
  /-- The key is to be registered. -/
  | registering (prologue : Bytes) (resolution : Resolution) (secret : SecretKey)
      (key : PublicKey) :
      Alike (.registering prologue resolution secret key)
        (.registering prologue resolution secret key)
  /-- The first message of the handshake is awaited, and the same octets of it were received. -/
  | awaitingInitiation (prologue : Bytes) (resolution : Resolution) (secret : SecretKey)
      {received received' : Buffer} (same : received'.toBytes = received.toBytes) :
      Alike (.awaitingInitiation prologue resolution secret received)
        (.awaitingInitiation prologue resolution secret received')
  /-- The sender is to be compared. -/
  | lookingUp (responder : Noise.Responder) (resolution : Resolution) :
      Alike (.lookingUp responder resolution) (.lookingUp responder resolution)

/-- A phase is like itself. -/
theorem AcceptPhase.Alike.refl (phase : AcceptPhase) : phase.Alike phase := by
  cases phase with
  | awaitingOffer => exact .awaitingOffer _
  | registering => exact .registering ..
  | awaitingInitiation => exact .awaitingInitiation _ _ _ rfl
  | lookingUp => exact .lookingUp ..

/-- Two phases like a third one are like each other. -/
theorem AcceptPhase.Alike.unique {phase phase' phase'' : AcceptPhase} (alike : phase.Alike phase')
    (alike' : phase.Alike phase'') : phase'.Alike phase'' := by
  cases alike with
  | awaitingInitiation _ _ _ same =>
    cases alike' with
    | awaitingInitiation _ _ _ same' => exact .awaitingInitiation _ _ _ (same'.trans same.symm)
  | _ => exact alike'

namespace Listener

/-- The second listener is at the same point as the first one, and has more octets before it. -/
inductive Later (more : Bytes) (verge verge' : ReadResult) :
    Listener → Stream → Listener → Stream → Prop
  /-- Two listeners. -/
  | intro (party : Party) {wire wire' : Wire} {stream stream' : Stream}
      (later : wire.Later more verge verge' stream wire' stream') {phase phase' : AcceptPhase}
      (alike : phase.Alike phase') : Later more verge verge' ⟨party, wire, phase⟩ stream
        ⟨party, wire', phase'⟩ stream'

section

variable {listener listener' listener'' : Listener} {stream'' : Stream}

/-- When octets arrive at the first listener there are fewer that only the second one has. -/
theorem Later.arrive {bytes : Bytes}
    (later : Later (bytes ++ more) .wait verge' listener stream listener' stream') :
    Later more .wait verge' listener (stream.arrive bytes) listener' stream' := by
  cases later with
  | intro party later alike => exact .intro party later.arrive alike

/-- A listener that waits, and the same one when octets have arrived and the stream has come to its
end. -/
theorem Later.supply (later : Later more .wait verge' listener stream listener' stream')
    (bytes : Bytes) (ending : Ending) :
    Later bytes .wait ending.verge listener stream listener
      ((stream.arrive bytes).close ending) := by
  cases later with
  | intro party later => exact .intro party (later.supply bytes ending) (.refl _)

/-- Two listeners that have the same before them as a third one, and the same octets behind that,
have the same before them. -/
theorem Later.unique (later : Later more verge verge' listener stream listener' stream')
    (later' : Later more verge verge' listener stream listener'' stream'') :
    Later [] verge' verge' listener' stream' listener'' stream'' := by
  cases later with
  | intro party later alike =>
    cases later' with
    | intro _ later' alike' => exact .intro party (later.unique later') (alike.unique alike')

/-- Both listeners have written the same. -/
theorem Later.outbound (later : Later more verge verge' listener stream listener' stream') :
    stream'.outbound = stream.outbound := by
  cases later with
  | intro party later => exact later.outbound

end

/-- Both listeners make the same of what they read for the offer. -/
theorem leads_awaitingOffer {frames frames' left : LengthPrefixed.State}
    {outcome : Outcome NegotiationError (Option Bytes)}
    (read : wire.readFrame framing frames stream = (outcome, left, next, rest))
    (read' : wire'.readFrame framing frames' stream' = (outcome, left, next', rest'))
    (later : next.Later more verge verge' rest next' rest') :
    Leads (Later more verge verge') more verge verge'
      (step suite registry ⟨party, wire, .awaitingOffer frames⟩ stream)
      (step suite registry ⟨party, wire', .awaitingOffer frames'⟩ stream') := by
  simp only [step, read, read']
  match outcome with
  | .waiting => exact .wait registry (.intro party later (.awaitingOffer _))
  | .failed e => exact .failed registry e later.outbound
  | .done none => exact .failed registry _ later.outbound
  | .done (some offer) =>
    cases decoded : Envelope.decode offer with
    | error fault =>
      -- The frame is put back in front of what was read ahead behind it.
      simp only [decoded]
      exact .connected registry (later.unread _) ..
    | ok envelope =>
      simp only [decoded]
      rcases written : (next.put (LengthPrefixed.encode
        (party.upgrades.envelope suite).encode)).flush rest with ⟨result, next₁, rest₁⟩
      obtain ⟨next₂, rest₂, written', later'⟩ := (later.put _).flush written
      simp only [written']
      match result with
      | .error e => exact .failed registry _ later'.outbound
      | .ok () =>
        match agree party envelope with
        | .error e => exact .failed registry e later'.outbound
        | .ok ⟨resolution, none⟩ => exact .connected registry later' ..
        | .ok ⟨resolution, some (secret, key)⟩ =>
          exact .next registry (.intro party later' (.registering ..))

/-- Both listeners make the same of what they receive for the first message of the handshake. -/
theorem leads_awaitingInitiation {prologue : Bytes} {resolution : Resolution} {secret : SecretKey}
    {received received' left left' : Buffer} {outcome : Outcome IoError Bytes}
    (read : wire.readExactly Noise.initiationSize received stream = (outcome, left, next, rest))
    (read' : wire'.readExactly Noise.initiationSize received' stream' =
      (outcome, left', next', rest'))
    (same : outcome = .waiting → left'.toBytes = left.toBytes)
    (later : next.Later more verge verge' rest next' rest') :
    Leads (Later more verge verge') more verge verge'
      (step suite registry
        ⟨party, wire, .awaitingInitiation prologue resolution secret received⟩ stream)
      (step suite registry
        ⟨party, wire', .awaitingInitiation prologue resolution secret received'⟩ stream') := by
  simp only [step, read, read']
  match outcome with
  | .waiting =>
    exact .wait registry (.intro party later (.awaitingInitiation _ _ _ (same rfl)))
  | .failed e => exact .failed registry _ later.outbound
  | .done message =>
    cases responds : Noise.respond? suite prologue secret message with
    | none =>
      simp only [responds]
      exact .failed registry _ later.outbound
    | some responder =>
      simp only [responds]
      exact .next registry (.intro party later (.lookingUp ..))

/-- Both listeners compare the sender and send the second message of the handshake. -/
theorem leads_lookingUp (later : wire.Later more verge verge' stream wire' stream')
    (responder : Noise.Responder) (resolution : Resolution) :
    Leads (Later more verge verge') more verge verge'
      (step suite registry ⟨party, wire, .lookingUp responder resolution⟩ stream)
      (step suite registry ⟨party, wire', .lookingUp responder resolution⟩ stream') := by
  simp only [step]
  cases registry.get? party.remote with
  | none => exact .failed registry _ later.outbound
  | some key =>
    by_cases owner : responder.initiator = key
    · simp only [if_pos owner]
      rcases written : (wire.put (responder.reply suite party.ephemeral).1).flush stream with
        ⟨result, next, rest⟩
      obtain ⟨next', rest', written', later'⟩ := (later.put _).flush written
      simp only [written']
      match result with
      | .error e => exact .failed registry _ later'.outbound
      | .ok () => exact .connected registry later' ..
    · simp only [if_neg owner]
      exact .failed registry _ later.outbound

/-- Where a listener waits: for the offer or for the first message of the handshake, of which it has
read a part. -/
theorem waits_cases {listener listener' : Listener}
    (waits : listener.step suite registry stream = (.wait listener', registry', rest)) :
    registry' = registry ∧
      ((∃ frames left next, listener.phase = .awaitingOffer frames ∧
          listener.wire.readFrame framing frames stream = (.waiting, left, next, rest) ∧
          listener' = ⟨listener.party, next, .awaitingOffer left⟩) ∨
        ∃ prologue resolution secret received left next,
          listener.phase = .awaitingInitiation prologue resolution secret received ∧
          listener.wire.readExactly Noise.initiationSize received stream =
            (.waiting, left, next, rest) ∧
          listener' =
            ⟨listener.party, next, .awaitingInitiation prologue resolution secret left⟩) := by
  obtain ⟨party, wire, phase⟩ := listener
  unfold step at waits
  -- Whatever is not a read goes on or is over, and so does a read that is complete.
  cases phase with
  | awaitingOffer frames =>
    rcases read : wire.readFrame framing frames stream with ⟨outcome, left, next, rest₁⟩
    simp only [read] at waits
    match outcome with
    | .waiting =>
      simp only [Prod.mk.injEq, Move.wait.injEq] at waits
      obtain ⟨rfl, rfl, rfl⟩ := waits
      exact ⟨rfl, .inl ⟨_, _, _, rfl, read, rfl⟩⟩
    | .failed e => simp at waits
    | .done none => simp at waits
    | .done (some offer) =>
      dsimp only at waits
      split at waits
      · simp at waits
      · split at waits
        · simp at waits
        · split at waits <;> simp at waits
  | registering prologue resolution secret key => simp at waits
  | awaitingInitiation prologue resolution secret received =>
    rcases read : wire.readExactly Noise.initiationSize received stream with
      ⟨outcome, left, next, rest₁⟩
    simp only [read] at waits
    match outcome with
    | .waiting =>
      simp only [Prod.mk.injEq, Move.wait.injEq] at waits
      obtain ⟨rfl, rfl, rfl⟩ := waits
      exact ⟨rfl, .inr ⟨_, _, _, _, _, _, rfl, read, rfl⟩⟩
    | .failed e => simp at waits
    | .done message =>
      dsimp only at waits
      split at waits <;> simp at waits
  | lookingUp responder resolution =>
    dsimp only at waits
    split at waits
    · simp at waits
    · split at waits
      · split at waits <;> simp at waits
      · simp at waits

/-- Both listeners take the same step, unless the first one has to wait. -/
theorem Later.ready {listener listener' : Listener}
    (later : Later more verge verge' listener stream listener' stream')
    (ready : (∀ listener₁, (listener.step suite registry stream).1 ≠ .wait listener₁) ∨
      more = [] ∧ verge = verge') :
    Leads (Later more verge verge') more verge verge' (listener.step suite registry stream)
      (listener'.step suite registry stream') := by
  -- A side that does not wait has read all that it needs.
  cases later with
  | @intro party wire wire' _ _ later _ _ alike =>
    cases alike with
    | awaitingOffer frames =>
      rcases read : wire.readFrame framing frames stream with ⟨outcome, left, next, rest⟩
      obtain ⟨next', rest', read', later'⟩ := later.readFrame (LengthPrefixed.incremental _) read
        (ready.imp_left fun goes waits => by
          subst waits
          simp [step, read] at goes)
      exact leads_awaitingOffer read read' later'
    | registering prologue resolution secret key =>
      exact .next _ (.intro party later (.awaitingInitiation _ _ _ rfl))
    | @awaitingInitiation prologue resolution secret received received' same =>
      rcases read : wire.readExactly Noise.initiationSize received stream with
        ⟨outcome, left, next, rest⟩
      obtain ⟨left', next', rest', read', same', later'⟩ := later.readExactly same read
        (ready.imp_left fun goes waits => by
          subst waits
          simp [step, read] at goes)
      exact leads_awaitingInitiation read read' same' later'
    | lookingUp responder resolution => exact leads_lookingUp later ..

/-- A listener that has waited takes the step that the second one takes, which has had all octets
before it from the beginning. Nothing was registered in between. -/
theorem Later.again {listener listener' listener₁ listener₂ : Listener} {stream₁ stream₂ : Stream}
    (later : Later more .wait verge' listener stream listener' stream')
    (waits : listener.step suite registry stream = (.wait listener₁, registry', stream₁))
    (later' : Later more .wait verge' listener₁ stream₁ listener₂ stream₂) :
    registry' = registry ∧
      Leads (Later [] verge' verge') [] verge' verge' (listener₂.step suite registry stream₂)
        (listener'.step suite registry stream') := by
  cases later with
  | @intro party wire wire' _ _ later phase phase' alike =>
    obtain ⟨rfl, ⟨frames, left, next, rfl, read, rfl⟩ |
      ⟨prologue, resolution, secret, received, left, next, rfl, read, rfl⟩⟩ := waits_cases waits
    -- What was read of the frame or of the message is kept, and the rest of it is read behind that.
    · cases alike
      cases later' with
      | intro party later' alike =>
        cases alike
        obtain ⟨outcome, frames, wire₁, stream₁, wire₂, stream₂, read₁, read₂, later₂⟩ :=
          later.readFrame_again (LengthPrefixed.incremental _) read later'
        exact ⟨rfl, leads_awaitingOffer read₁ read₂ later₂⟩
    · cases alike with
      | awaitingInitiation _ _ _ same =>
        cases later' with
        | intro party later' alike =>
          cases alike with
          | awaitingInitiation _ _ _ same' =>
            obtain ⟨outcome, left₁, wire₁, stream₁, left₂, wire₂, stream₂, read₁, read₂, same₂,
              later₂⟩ := later.readExactly_again same read later' same'
            exact ⟨rfl, leads_awaitingInitiation read₁ read₂ same₂ later₂⟩

end Listener

end PeerLink.Negotiation
