import PeerLink.Proofs.Negotiation.Meeting

/-!
# The two sides of a meeting

A side is at one of few places whenever it is not running: it has not begun, it waits for a message
of the other side, or it is done. `Dialing` and `Listening` say what a side holds at its place, and
which octets of the other side's message are in flight to it. There is one lemma for the run of a
side at each place: the side either waits on, or it takes the message, answers, and is at its next
place. While nothing is in flight it waits on (`idle_awaitingReply` and the like), which is how the
run of the place before ends.
-/

namespace PeerLink.Negotiation

/-! ## The dialer -/

/-- The places of a dialer. -/
inductive DialPlace where
  /-- Nothing was sent. -/
  | offering
  /-- The offer was sent. -/
  | awaitingReply
  /-- The first message of the handshake was sent. -/
  | awaitingResponse
  /-- The negotiation is over. -/
  | done

/-- A dialer at a place, with `flight` in flight to it. -/
inductive Dialing (suite : Suite) (meeting : Meeting) (free : Bool) :
    DialPlace → Bytes → Side Dialer → Registry → Pipe → Prop
  /-- A dialer that has not begun. -/
  | offering {flight : Bytes} {registry : Registry} {pipe : Pipe} {wire : Wire}
      (awaits : wire.Awaits free [] pipe flight) :
      Dialing suite meeting free .offering flight (.active ⟨meeting.dialer, wire, .offering⟩)
        registry pipe
  /-- A dialer that waits for the reply. -/
  | awaitingReply {flight : Bytes} {registry : Registry} {pipe : Pipe} {wire : Wire}
      {frames : LengthPrefixed.State} (valid : LengthPrefixed.Valid frames)
      (awaits : wire.Awaits free (LengthPrefixed.head frames) pipe flight) :
      Dialing suite meeting free .awaitingReply flight
        (.active ⟨meeting.dialer, wire, .awaitingReply (meeting.offer suite) frames⟩) registry pipe
  /-- A dialer that waits for the second message of the handshake. -/
  | awaitingResponse {flight : Bytes} {registry : Registry} {pipe : Pipe} {wire : Wire}
      {secret secret' : SecretKey} {received : Buffer}
      (secrets : meeting.secrets = some (secret, secret'))
      (registered : registry.get? meeting.dialer.remote = some (suite.publicKey secret'))
      (awaits : wire.Awaits free received.toBytes pipe flight) :
      Dialing suite meeting free .awaitingResponse flight
        (.active ⟨meeting.dialer, wire, .awaitingResponse
          (meeting.initiation suite secret secret').2 meeting.resolution received⟩) registry pipe
  /-- A dialer with a bare connection. -/
  | bare {flight : Bytes} {registry : Registry} {pipe : Pipe} {wire : Wire}
      (secrets : meeting.secrets = none) (awaits : wire.Awaits free [] pipe flight) :
      Dialing suite meeting free .done flight
        (.finished (.ok (.negotiated wire meeting.resolution none meeting.dialer.remote))) registry
        pipe
  /-- A dialer with a secure connection. -/
  | secure {flight : Bytes} {registry : Registry} {pipe : Pipe} {wire : Wire}
      {secret secret' : SecretKey} (secrets : meeting.secrets = some (secret, secret'))
      (registered : registry.get? meeting.dialer.remote = some (suite.publicKey secret'))
      (awaits : wire.Awaits free [] pipe flight) :
      Dialing suite meeting free .done flight
        (.finished (.ok (.negotiated wire meeting.resolution
          (some (meeting.channel suite secret secret')) meeting.dialer.remote))) registry pipe

namespace Dialing

variable {suite : Suite} {meeting : Meeting} {free : Bool} {flight : Bytes} {registry : Registry}
  {stream : Stream} {wire : Wire}

/-- What is written to the dialer follows what is in flight already. -/
theorem gained {place : DialPlace} {side : Side Dialer} {pipe pipe' : Pipe}
    (h : Dialing suite meeting free place flight side registry pipe) {bytes : Bytes}
    (gained : pipe.Gained bytes pipe') :
    Dialing suite meeting free place (flight ++ bytes) side registry pipe' := by
  cases h with
  | offering awaits => exact .offering (awaits.gained gained)
  | awaitingReply valid awaits => exact .awaitingReply valid (awaits.gained gained)
  | awaitingResponse secrets registered awaits =>
    exact .awaitingResponse secrets registered (awaits.gained gained)
  | bare secrets awaits => exact .bare secrets (awaits.gained gained)
  | secure secrets registered awaits => exact .secure secrets registered (awaits.gained gained)

/-- The pipe to the dialer is open. -/
theorem opened {place : DialPlace} {side : Side Dialer} {pipe : Pipe}
    (h : Dialing suite meeting free place flight side registry pipe) : pipe.Open := by
  cases h with
  | offering awaits => exact awaits.opened
  | awaitingReply valid awaits => exact awaits.opened
  | awaitingResponse secrets registered awaits => exact awaits.opened
  | bare secrets awaits => exact awaits.opened
  | secure secrets registered awaits => exact awaits.opened

/-- The network may hold octets back, or let all of them through. -/
theorem gated {place : DialPlace} {side : Side Dialer} {pipe : Pipe}
    (h : Dialing suite meeting free place flight side registry pipe) {gate : Option Nat}
    {free' : Bool} (ungated : free' = true → gate = none) :
    Dialing suite meeting free' place flight side registry { pipe with gate } := by
  cases h with
  | offering awaits => exact .offering (awaits.gated ungated)
  | awaitingReply valid awaits => exact .awaitingReply valid (awaits.gated ungated)
  | awaitingResponse secrets registered awaits =>
    exact .awaitingResponse secrets registered (awaits.gated ungated)
  | bare secrets awaits => exact .bare secrets (awaits.gated ungated)
  | secure secrets registered awaits => exact .secure secrets registered (awaits.gated ungated)

/-- A dialer that waits for the second message of the handshake takes it, or waits on. -/
theorem run_awaitingResponse (sound : meeting.Sound suite) {secret secret' : SecretKey}
    (secrets : meeting.secrets = some (secret, secret'))
    (registered : registry.get? meeting.dialer.remote = some (suite.publicKey secret'))
    {received : Buffer} (awaits : wire.Awaits free received.toBytes stream.inbound flight)
    {missing : Bytes} (part : flight ++ missing = (meeting.response suite secret secret').1) :
    ∃ move stream', Dialer.run suite registry ⟨meeting.dialer, wire, .awaitingResponse
        (meeting.initiation suite secret secret').2 meeting.resolution received⟩ stream =
        (move, registry, stream') ∧
      stream'.outbound = stream.outbound ∧
      ((missing = [] ∧ Dialing suite meeting free .done [] move.side registry stream'.inbound) ∨
        ((free = true → missing ≠ []) ∧
          Dialing suite meeting free .awaitingResponse flight move.side registry
            stream'.inbound)) := by
  have length : (meeting.response suite secret secret').1.length = Noise.responseSize :=
    Noise.length_reply _ _
  rw [Dialer.run_eq, Dialer.step]
  rcases Wire.readExactly_flight awaits length part with
    ⟨nothing_missing, received', wire', stream', read, awaits', outbound⟩ |
    ⟨some_missing, received', wire', stream', read, awaits', outbound⟩
  · simp only [read, Meeting.finish?_response sound secrets]
    exact ⟨_, _, rfl, outbound, .inl ⟨nothing_missing, .secure secrets registered awaits'⟩⟩
  · simp only [read]
    exact ⟨_, _, rfl, outbound, .inr ⟨some_missing, .awaitingResponse secrets registered awaits'⟩⟩

/-- A dialer that waits for the second message of the handshake waits on while nothing of it is in
flight. -/
theorem idle_awaitingResponse (sound : meeting.Sound suite) {secret secret' : SecretKey}
    (secrets : meeting.secrets = some (secret, secret'))
    (registered : registry.get? meeting.dialer.remote = some (suite.publicKey secret'))
    {received : Buffer} (awaits : wire.Awaits free received.toBytes stream.inbound []) :
    ∃ move stream', Dialer.run suite registry ⟨meeting.dialer, wire, .awaitingResponse
        (meeting.initiation suite secret secret').2 meeting.resolution received⟩ stream =
        (move, registry, stream') ∧
      stream'.outbound = stream.outbound ∧
      Dialing suite meeting free .awaitingResponse [] move.side registry stream'.inbound := by
  obtain ⟨move, stream', run, outbound, taken⟩ :=
    run_awaitingResponse sound secrets registered awaits (List.nil_append _)
  rcases taken with ⟨nothing, -⟩ | ⟨-, dialing⟩
  · exact absurd nothing (Meeting.response_ne_nil _ _)
  · exact ⟨move, stream', run, outbound, dialing⟩

/-- A dialer that waits for the reply takes it and is done or begins the handshake, or it refuses a
listener that it does not want to reach, or it waits on. -/
theorem run_awaitingReply (sound : meeting.Sound suite) (opened : stream.outbound.Open)
    {frames : LengthPrefixed.State} (valid : LengthPrefixed.Valid frames)
    (awaits : wire.Awaits free (LengthPrefixed.head frames) stream.inbound flight) {missing : Bytes}
    (part : flight ++ missing = LengthPrefixed.encode (meeting.reply suite)) :
    ∃ move registry' stream', Dialer.run suite registry
        ⟨meeting.dialer, wire, .awaitingReply (meeting.offer suite) frames⟩ stream =
        (move, registry', stream') ∧
      ((missing = [] ∧ meeting.secrets = none ∧ stream.outbound.Gained [] stream'.outbound ∧
          Dialing suite meeting free .done [] move.side registry' stream'.inbound) ∨
        (∃ secret secret', missing = [] ∧ meeting.secrets = some (secret, secret') ∧
          stream.outbound.Gained (meeting.initiation suite secret secret').1 stream'.outbound ∧
          Dialing suite meeting free .awaitingResponse [] move.side registry' stream'.inbound) ∨
        (missing = [] ∧ ¬ meeting.Welcome suite ∧ ∃ e, move.side = .finished (.error e)) ∨
        ((free = true → missing ≠ []) ∧ stream.outbound.Gained [] stream'.outbound ∧
          Dialing suite meeting free .awaitingReply flight move.side registry'
            stream'.inbound)) := by
  have acceptable := meeting.length_reply_le suite
  rw [Dialer.run_eq, Dialer.step]
  rcases LengthPrefixed.readFrame_flight NegotiationError.io awaits valid acceptable part with
    ⟨nothing_missing, wire', stream', read, awaits', outbound⟩ |
    ⟨some_missing, frames', wire', stream', read, valid', awaits', outbound⟩
  -- The whole reply is there, or its rest is waited for.
  · by_cases welcome : meeting.Welcome suite
    swap
    · obtain ⟨e, refused⟩ := Meeting.agree_reply_of_not_welcome welcome
      simp only [framing, read, Meeting.decode_reply, refused]
      exact ⟨_, _, _, rfl, .inr (.inr (.inl ⟨nothing_missing, welcome, e, rfl⟩))⟩
    have agreed := Meeting.agree_reply welcome
    cases secrets : meeting.secrets with
    | none =>
      rw [secrets] at agreed
      simp only [framing, read, Meeting.decode_reply, agreed, Option.map_none]
      have nothing_written : stream.outbound.Gained [] stream'.outbound := by
        rw [outbound]
        exact opened.gained_nil
      exact ⟨_, _, _, rfl, .inl ⟨nothing_missing, trivial, nothing_written,
        .bare secrets awaits'⟩⟩
    | some both =>
      obtain ⟨secret, secret'⟩ := both
      rw [secrets] at agreed
      simp only [framing, read, Meeting.decode_reply, agreed, Option.map_some]
      -- The key is registered and read back, and the handshake begins.
      have registered := registry.get?_insert meeting.dialer.remote (suite.publicKey secret')
      have opened' : stream'.outbound.Open := outbound ▸ opened
      obtain ⟨stream'', written, inbound, gained⟩ := Wire.flush_put
        (meeting.initiation suite secret secret').1 awaits'.unwritten opened'
      rw [Dialer.run_eq, Dialer.step]
      dsimp only
      rw [Dialer.run_eq, Dialer.step]
      unfold Meeting.initiation at written
      simp only [registered, written]
      have awaits'' : wire'.Awaits free Buffer.empty.toBytes stream''.inbound [] := by
        rw [inbound, Buffer.toBytes_empty]
        exact awaits'
      obtain ⟨move, last, run, outbound', dialing⟩ :=
        idle_awaitingResponse sound secrets registered awaits''
      have initiated : stream.outbound.Gained (meeting.initiation suite secret secret').1
          last.outbound := by
        rw [outbound', ← outbound]
        exact gained
      exact ⟨move, _, last, run,
        .inr (.inl ⟨secret, secret', nothing_missing, rfl, initiated, dialing⟩)⟩
  · simp only [framing, read]
    have nothing_written : stream.outbound.Gained [] stream'.outbound := by
      rw [outbound]
      exact opened.gained_nil
    exact ⟨_, _, _, rfl, .inr (.inr (.inr ⟨some_missing, nothing_written,
      .awaitingReply valid' awaits'⟩))⟩

/-- A dialer that waits for the reply waits on while nothing of it is in flight. -/
theorem idle_awaitingReply (sound : meeting.Sound suite) (opened : stream.outbound.Open)
    {frames : LengthPrefixed.State} (valid : LengthPrefixed.Valid frames)
    (awaits : wire.Awaits free (LengthPrefixed.head frames) stream.inbound []) :
    ∃ move registry' stream', Dialer.run suite registry
        ⟨meeting.dialer, wire, .awaitingReply (meeting.offer suite) frames⟩ stream =
        (move, registry', stream') ∧
      stream.outbound.Gained [] stream'.outbound ∧
      Dialing suite meeting free .awaitingReply [] move.side registry' stream'.inbound := by
  obtain ⟨move, registry', stream', run, taken⟩ :=
    @run_awaitingReply suite meeting free [] registry stream wire sound opened frames valid awaits _
      (List.nil_append _)
  have some_missing := LengthPrefixed.encode_ne_nil (meeting.reply suite)
  rcases taken with ⟨nothing, -⟩ | ⟨-, -, nothing, -⟩ | ⟨nothing, -⟩ | ⟨-, gained, dialing⟩
  · exact absurd nothing some_missing
  · exact absurd nothing some_missing
  · exact absurd nothing some_missing
  · exact ⟨move, registry', stream', run, gained, dialing⟩

/-- A dialer that begins sends the offer, and waits for the reply. -/
theorem run_offering (sound : meeting.Sound suite) (opened : stream.outbound.Open)
    (awaits : wire.Awaits free [] stream.inbound []) :
    ∃ move registry' stream',
      Dialer.run suite registry ⟨meeting.dialer, wire, .offering⟩ stream =
        (move, registry', stream') ∧
      stream.outbound.Gained (LengthPrefixed.encode (meeting.offer suite)) stream'.outbound ∧
      Dialing suite meeting free .awaitingReply [] move.side registry' stream'.inbound := by
  obtain ⟨stream', written, inbound, gained⟩ := Wire.flush_put
    (LengthPrefixed.encode (meeting.offer suite)) awaits.unwritten opened
  have awaits' : wire.Awaits free (LengthPrefixed.head none) stream'.inbound [] := by
    rw [inbound]
    exact awaits
  obtain ⟨move, registry', stream'', run, gained', dialing⟩ :=
    @idle_awaitingReply suite meeting free registry stream' wire sound gained.opened none
      (by rintro n ⟨⟩) awaits'
  rw [Dialer.run_eq, Dialer.step]
  unfold Meeting.offer at written
  simp only [written]
  exact ⟨move, registry', stream'', run, gained.trans_nil gained', dialing⟩

end Dialing

/-! ## The listener -/

/-- The places of a listener. -/
inductive AcceptPlace where
  /-- Nothing was read. -/
  | awaitingOffer
  /-- The reply was sent, and the handshake is to begin. -/
  | awaitingInitiation
  /-- The negotiation is over. -/
  | done

/-- A listener at a place, with `flight` in flight to it. -/
inductive Listening (suite : Suite) (meeting : Meeting) (free : Bool) :
    AcceptPlace → Bytes → Side Listener → Registry → Pipe → Prop
  /-- A listener that waits for the offer. -/
  | awaitingOffer {flight : Bytes} {registry : Registry} {pipe : Pipe} {wire : Wire}
      {frames : LengthPrefixed.State} (valid : LengthPrefixed.Valid frames)
      (awaits : wire.Awaits free (LengthPrefixed.head frames) pipe flight) :
      Listening suite meeting free .awaitingOffer flight
        (.active ⟨{ meeting.listener with expected := none }, wire, .awaitingOffer frames⟩) registry
        pipe
  /-- A listener that waits for the first message of the handshake. -/
  | awaitingInitiation {flight : Bytes} {registry : Registry} {pipe : Pipe} {wire : Wire}
      {secret secret' : SecretKey} {received : Buffer}
      (secrets : meeting.secrets = some (secret, secret'))
      (registered : registry.get? meeting.listener.remote = some (suite.publicKey secret))
      (awaits : wire.Awaits free received.toBytes pipe flight) :
      Listening suite meeting free .awaitingInitiation flight
        (.active ⟨{ meeting.listener with expected := none }, wire, .awaitingInitiation
          (transcript (meeting.offer suite) (meeting.reply suite)) meeting.resolution secret'
          received⟩) registry pipe
  /-- A listener with a bare connection. -/
  | bare {flight : Bytes} {registry : Registry} {pipe : Pipe} {wire : Wire}
      (secrets : meeting.secrets = none) (awaits : wire.Awaits free [] pipe flight) :
      Listening suite meeting free .done flight
        (.finished (.ok (.negotiated wire meeting.resolution none meeting.listener.remote)))
        registry pipe
  /-- A listener with a secure connection. -/
  | secure {flight : Bytes} {registry : Registry} {pipe : Pipe} {wire : Wire}
      {secret secret' : SecretKey} (secrets : meeting.secrets = some (secret, secret'))
      (registered : registry.get? meeting.listener.remote = some (suite.publicKey secret))
      (awaits : wire.Awaits free [] pipe flight) :
      Listening suite meeting free .done flight
        (.finished (.ok (.negotiated wire meeting.resolution
          (some (meeting.response suite secret secret').2) meeting.listener.remote))) registry pipe

namespace Listening

variable {suite : Suite} {meeting : Meeting} {free : Bool} {flight : Bytes} {registry : Registry}
  {stream : Stream} {wire : Wire}

/-- What is written to the listener follows what is in flight already. -/
theorem gained {place : AcceptPlace} {side : Side Listener} {pipe pipe' : Pipe}
    (h : Listening suite meeting free place flight side registry pipe) {bytes : Bytes}
    (gained : pipe.Gained bytes pipe') :
    Listening suite meeting free place (flight ++ bytes) side registry pipe' := by
  cases h with
  | awaitingOffer valid awaits => exact .awaitingOffer valid (awaits.gained gained)
  | awaitingInitiation secrets registered awaits =>
    exact .awaitingInitiation secrets registered (awaits.gained gained)
  | bare secrets awaits => exact .bare secrets (awaits.gained gained)
  | secure secrets registered awaits => exact .secure secrets registered (awaits.gained gained)

/-- The pipe to the listener is open. -/
theorem opened {place : AcceptPlace} {side : Side Listener} {pipe : Pipe}
    (h : Listening suite meeting free place flight side registry pipe) : pipe.Open := by
  cases h with
  | awaitingOffer valid awaits => exact awaits.opened
  | awaitingInitiation secrets registered awaits => exact awaits.opened
  | bare secrets awaits => exact awaits.opened
  | secure secrets registered awaits => exact awaits.opened

/-- The network may hold octets back, or let all of them through. -/
theorem gated {place : AcceptPlace} {side : Side Listener} {pipe : Pipe}
    (h : Listening suite meeting free place flight side registry pipe) {gate : Option Nat}
    {free' : Bool} (ungated : free' = true → gate = none) :
    Listening suite meeting free' place flight side registry { pipe with gate } := by
  cases h with
  | awaitingOffer valid awaits => exact .awaitingOffer valid (awaits.gated ungated)
  | awaitingInitiation secrets registered awaits =>
    exact .awaitingInitiation secrets registered (awaits.gated ungated)
  | bare secrets awaits => exact .bare secrets (awaits.gated ungated)
  | secure secrets registered awaits => exact .secure secrets registered (awaits.gated ungated)

/-- A listener that waits for the first message of the handshake takes it and answers, or waits
on. -/
theorem run_awaitingInitiation (sound : meeting.Sound suite) (opened : stream.outbound.Open)
    {secret secret' : SecretKey} (secrets : meeting.secrets = some (secret, secret'))
    (registered : registry.get? meeting.listener.remote = some (suite.publicKey secret))
    {received : Buffer} (awaits : wire.Awaits free received.toBytes stream.inbound flight)
    {missing : Bytes} (part : flight ++ missing = (meeting.initiation suite secret secret').1) :
    ∃ move stream', Listener.run suite registry ⟨{ meeting.listener with expected := none }, wire,
        .awaitingInitiation (transcript (meeting.offer suite) (meeting.reply suite))
          meeting.resolution secret' received⟩ stream = (move, registry, stream') ∧
      ((missing = [] ∧
          stream.outbound.Gained (meeting.response suite secret secret').1 stream'.outbound ∧
          Listening suite meeting free .done [] move.side registry stream'.inbound) ∨
        ((free = true → missing ≠ []) ∧ stream.outbound.Gained [] stream'.outbound ∧
          Listening suite meeting free .awaitingInitiation flight move.side registry
            stream'.inbound)) := by
  rw [Listener.run_eq, Listener.step]
  rcases Wire.readExactly_flight awaits (Meeting.length_initiation secret secret') part with
    ⟨nothing_missing, received', wire', stream', read, awaits', outbound⟩ |
    ⟨some_missing, received', wire', stream', read, awaits', outbound⟩
  · -- The sender owns the registered key, and gets an answer.
    have opened' : stream'.outbound.Open := outbound ▸ opened
    obtain ⟨stream'', written, inbound, gained⟩ := Wire.flush_put
      (meeting.response suite secret secret').1 awaits'.unwritten opened'
    simp only [read, Meeting.respond?_initiation sound secrets]
    rw [Listener.run_eq, Listener.step]
    unfold Meeting.response at written
    have initiator : (meeting.responder suite secret secret').initiator = suite.publicKey secret :=
      rfl
    simp only [registered, initiator, if_true, written]
    refine ⟨_, _, rfl, .inl ⟨nothing_missing, ?_, ?_⟩⟩
    · rw [← outbound]
      exact gained
    · rw [inbound]
      exact .secure secrets registered awaits'
  · simp only [read]
    have nothing_written : stream.outbound.Gained [] stream'.outbound := by
      rw [outbound]
      exact opened.gained_nil
    exact ⟨_, _, rfl, .inr ⟨some_missing, nothing_written,
      .awaitingInitiation secrets registered awaits'⟩⟩

/-- A listener that waits for the first message of the handshake waits on while nothing of it is in
flight. -/
theorem idle_awaitingInitiation (sound : meeting.Sound suite) (opened : stream.outbound.Open)
    {secret secret' : SecretKey} (secrets : meeting.secrets = some (secret, secret'))
    (registered : registry.get? meeting.listener.remote = some (suite.publicKey secret))
    {received : Buffer} (awaits : wire.Awaits free received.toBytes stream.inbound []) :
    ∃ move stream', Listener.run suite registry ⟨{ meeting.listener with expected := none }, wire,
        .awaitingInitiation (transcript (meeting.offer suite) (meeting.reply suite))
          meeting.resolution secret' received⟩ stream = (move, registry, stream') ∧
      stream.outbound.Gained [] stream'.outbound ∧
      Listening suite meeting free .awaitingInitiation [] move.side registry
        stream'.inbound := by
  obtain ⟨move, stream', run, taken⟩ :=
    run_awaitingInitiation sound opened secrets registered awaits (List.nil_append _)
  rcases taken with ⟨nothing, -⟩ | ⟨-, gained, listening⟩
  · exact absurd nothing (Meeting.initiation_ne_nil _ _)
  · exact ⟨move, stream', run, gained, listening⟩

/-- A listener that waits for the offer takes it and replies, and then it is done or the handshake
may begin; or it waits on. -/
theorem run_awaitingOffer (sound : meeting.Sound suite) (opened : stream.outbound.Open)
    {frames : LengthPrefixed.State} (valid : LengthPrefixed.Valid frames)
    (awaits : wire.Awaits free (LengthPrefixed.head frames) stream.inbound flight) {missing : Bytes}
    (part : flight ++ missing = LengthPrefixed.encode (meeting.offer suite)) :
    ∃ move registry' stream', Listener.run suite registry
        ⟨{ meeting.listener with expected := none }, wire, .awaitingOffer frames⟩ stream =
        (move, registry', stream') ∧
      ((missing = [] ∧
          stream.outbound.Gained (LengthPrefixed.encode (meeting.reply suite)) stream'.outbound ∧
          ((meeting.secrets = none ∧
              Listening suite meeting free .done [] move.side registry' stream'.inbound) ∨
            ((∃ secret secret', meeting.secrets = some (secret, secret')) ∧
              Listening suite meeting free .awaitingInitiation [] move.side registry'
                stream'.inbound))) ∨
        ((free = true → missing ≠ []) ∧ stream.outbound.Gained [] stream'.outbound ∧
          Listening suite meeting free .awaitingOffer flight move.side registry'
            stream'.inbound)) := by
  have acceptable := meeting.length_offer_le suite
  have agreed := @Meeting.agree_offer suite meeting
  rw [Listener.run_eq, Listener.step]
  rcases LengthPrefixed.readFrame_flight NegotiationError.io awaits valid acceptable part with
    ⟨nothing_missing, wire', stream', read, awaits', outbound⟩ |
    ⟨some_missing, frames', wire', stream', read, valid', awaits', outbound⟩
  · have opened' : stream'.outbound.Open := outbound ▸ opened
    obtain ⟨stream'', written, inbound, gained⟩ := Wire.flush_put
      (LengthPrefixed.encode (meeting.reply suite)) awaits'.unwritten opened'
    rw [← inbound] at awaits'
    unfold Meeting.reply at written
    -- The reply is written in any case, and what follows depends on what both have.
    cases secrets : meeting.secrets with
    | none =>
      rw [secrets] at agreed
      simp only [framing, read, Meeting.decode_offer, written, agreed, Option.map_none]
      refine ⟨_, _, _, rfl, .inl ⟨nothing_missing, ?_, .inl ⟨trivial, .bare secrets awaits'⟩⟩⟩
      rw [← outbound]
      exact gained
    | some both =>
      obtain ⟨secret, secret'⟩ := both
      rw [secrets] at agreed
      simp only [framing, read, Meeting.decode_offer, written, agreed, Option.map_some]
      -- The key is registered, and the handshake may begin.
      have registered := registry.get?_insert meeting.listener.remote (suite.publicKey secret)
      have awaits'' : wire'.Awaits free Buffer.empty.toBytes stream''.inbound [] := by
        rw [Buffer.toBytes_empty]
        exact awaits'
      obtain ⟨move, last, run, gained', listening⟩ :=
        idle_awaitingInitiation sound gained.opened secrets registered awaits''
      have replied : stream.outbound.Gained (LengthPrefixed.encode (meeting.reply suite))
          last.outbound := by
        rw [← outbound]
        exact gained.trans_nil gained'
      rw [Listener.run_eq, Listener.step]
      exact ⟨move, _, last, run, .inl ⟨nothing_missing, replied,
        .inr ⟨⟨secret, secret', rfl⟩, listening⟩⟩⟩
  · simp only [framing, read]
    have nothing_written : stream.outbound.Gained [] stream'.outbound := by
      rw [outbound]
      exact opened.gained_nil
    exact ⟨_, _, _, rfl, .inr ⟨some_missing, nothing_written, .awaitingOffer valid' awaits'⟩⟩

end Listening

end PeerLink.Negotiation
