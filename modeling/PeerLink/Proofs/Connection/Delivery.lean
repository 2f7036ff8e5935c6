import PeerLink.Proofs.Connection.Bare
import PeerLink.Proofs.Connection.Secure
import PeerLink.Proofs.Negotiation.Agreement

/-!
# What is written is what is read

A line is bare or secure, and in both cases it carries the mail of its writer: `Line.Carries` is the
invariant, `Line.Carries.happen` the step that keeps it, whichever side makes a call and whatever
the network holds back, and `Line.Carries.faithful` the run. `Line.Connected` are the lines that it
is about: two bare connections over the ends of a stream from which nothing was read, or the two
connections of a negotiation, with either side as the writer. Of the cipher nothing is needed but
that it opens what it has sealed.
-/

namespace PeerLink.Line

variable {α : Type} {suite : Suite} {mail : Mail} {limit : Nat} {line : Line}

/-- A line carries some mail, whose objects have at most `limit` octets. -/
inductive Carries (suite : Suite) (mail : Mail) : Nat → Line → Prop
  /-- A line of bare connections. -/
  | bare {line : Line} (bare : line.Bare mail) : Carries suite mail LengthPrefixed.maxSize line
  /-- A line of secure connections. -/
  | secure {line : Line} (secure : line.Secure suite mail) :
      Carries suite mail SealedFrames.maxPayload line

namespace Carries

/-- What is written goes on its way. -/
theorem write (carries : Carries suite mail limit line) (call : WriteCall) :
    ∃ outcome mail' writer stream,
      line.writer.write suite call line.link.dialing = (outcome, writer, stream) ∧
      Delivers limit mail (.write call : Event α) (.wrote outcome) mail' ∧
      Carries suite mail' limit { line with writer, link := .ofDialing stream } := by
  cases carries with
  | bare bare =>
    obtain ⟨outcome, mail', writer, stream, written, delivers, bare'⟩ := bare.write call
    exact ⟨outcome, mail', writer, stream, written, delivers, .bare bare'⟩
  | secure secure =>
    obtain ⟨outcome, mail', writer, stream, written, delivers, secure'⟩ := secure.write call
    exact ⟨outcome, mail', writer, stream, written, delivers, .secure secure'⟩

/-- Octets are read as they were written. -/
theorem readBytes (opens : suite.Opens) (carries : Carries suite mail limit line) {n : Nat}
    (some_asked : n ≠ 0) (fits : mail.Fits (.bytes n : ReadCall α)) :
    ∃ outcome mail' reader stream,
      line.reader.readBytes suite n line.link.listening = (outcome, reader, stream) ∧
      mail.GetsBytes n outcome mail' ∧
      Carries suite mail' limit { line with reader, link := .ofListening stream } := by
  cases carries with
  | bare bare =>
    obtain ⟨outcome, mail', reader, stream, read, gets, bare'⟩ := bare.readBytes some_asked fits
    exact ⟨outcome, mail', reader, stream, read, gets, .bare bare'⟩
  | secure secure =>
    obtain ⟨outcome, mail', reader, stream, read, gets, secure'⟩ :=
      secure.readBytes opens some_asked fits
    exact ⟨outcome, mail', reader, stream, read, gets, .secure secure'⟩

/-- An object is read as it was written. -/
theorem readFrame (opens : suite.Opens) (carries : Carries suite mail limit line)
    (fits : ∀ octet rest, mail.tokens ≠ .octet octet :: rest) :
    ∃ outcome mail' reader stream,
      line.reader.readFrame suite line.link.listening = (outcome, reader, stream) ∧
      mail.GetsFrame outcome mail' ∧
      Carries suite mail' limit { line with reader, link := .ofListening stream } := by
  cases carries with
  | bare bare =>
    obtain ⟨outcome, mail', reader, stream, read, gets, bare'⟩ := bare.readFrame fits
    exact ⟨outcome, mail', reader, stream, read, gets, .bare bare'⟩
  | secure secure =>
    obtain ⟨outcome, mail', reader, stream, read, gets, secure'⟩ := secure.readFrame opens fits
    exact ⟨outcome, mail', reader, stream, read, gets, .secure secure'⟩

/-- The reader has not closed its connection. -/
theorem readBytes_zero (carries : Carries suite mail limit line) (stream : Stream) :
    line.reader.readBytes suite 0 stream = (.done [], line.reader, stream) := by
  cases carries with
  | bare bare =>
    cases bare
    rfl
  | secure secure =>
    cases secure
    rfl

/-- A call of the reader that mirrors the writer is answered from the mail. -/
theorem call (opens : suite.Opens) (carries : Carries suite mail limit line) (call : ReadCall α)
    (fits : mail.Fits call) :
    ∃ answer mail' reader stream,
      line.reader.call suite call line.link.listening = (answer, reader, stream) ∧
      Delivers limit mail (.read call) (.read answer) mail' ∧
      Carries suite mail' limit { line with reader, link := .ofListening stream } := by
  cases call with
  | byte =>
    -- An octet is one of at most one octet, which is all there is in front of an object.
    have fits' : mail.Fits (.bytes 1 : ReadCall α) := by
      match tokens : mail.tokens with
      | [] =>
        right
        intro text mem
        rw [tokens] at mem
        simp at mem
      | .octet octet :: rest =>
        left
        rw [tokens, Token.leading, List.length_cons]
        omega
      | .object text :: rest => exact absurd tokens (fits text rest)
    obtain ⟨outcome, mail', reader, stream, read, gets, carries'⟩ :=
      carries.readBytes opens Nat.one_ne_zero fits'
    rw [Connection.call_byte, read]
    exact ⟨_, mail', reader, stream, rfl, gets.delivers_byte limit, carries'⟩
  | bytes n =>
    by_cases some_asked : n = 0
    · subst some_asked
      have read := carries.readBytes_zero line.link.listening
      unfold Connection.call
      simp only [read]
      exact ⟨_, mail, _, _, rfl, .gotNothing, carries⟩
    · obtain ⟨outcome, mail', reader, stream, read, gets, carries'⟩ :=
        carries.readBytes opens some_asked fits
      unfold Connection.call
      simp only [read]
      exact ⟨_, mail', reader, stream, rfl, gets.delivers_bytes some_asked limit, carries'⟩
  | object decoder =>
    obtain ⟨outcome, mail', reader, stream, read, gets, carries'⟩ := carries.readFrame opens fits
    unfold Connection.call Connection.readObject
    simp only [read]
    cases gets with
    | object tokens => exact ⟨_, _, reader, stream, rfl, .gotObject tokens, carries'⟩
    | stop nothing closed => exact ⟨_, _, reader, stream, rfl, .endObject nothing closed, carries'⟩
    | waiting waits => exact ⟨_, _, reader, stream, rfl, .waiting waits (by simp), carries'⟩

/-- The network may hold octets back, or let all of them through. -/
theorem hold (carries : Carries suite mail limit line) (gate : Option Nat) :
    Carries suite { mail with free := gate.isNone } limit
      { line with link := { line.link with forth := { line.link.forth with gate } } } := by
  cases carries with
  | bare bare =>
    cases bare with
    | intro transit valid begun acceptable =>
      exact .bare (.intro (transit.hold gate) valid begun acceptable)
  | secure secure =>
    cases secure with
    | intro parcels transit valid acceptable place tokens all_sealed =>
      exact .secure (.intro parcels (transit.hold gate) valid acceptable place tokens all_sealed)

/-- An event comes to what the mail says, and the line carries the mail behind it. -/
theorem happen (opens : suite.Opens) (carries : Carries suite mail limit line) (event : Event α)
    (fits : ∀ call, event = .read call → mail.Fits call) :
    ∃ mail', Delivers limit mail event (line.happen suite event).1 mail' ∧
      Carries suite mail' limit (line.happen suite event).2 := by
  cases event with
  | write call =>
    obtain ⟨outcome, mail', writer, stream, written, delivers, carries'⟩ := carries.write call
    unfold Line.happen
    simp only [written]
    exact ⟨mail', delivers, carries'⟩
  | read call =>
    obtain ⟨answer, mail', reader, stream, read, delivers, carries'⟩ :=
      carries.call opens call (fits call rfl)
    unfold Line.happen
    simp only [read]
    exact ⟨mail', delivers, carries'⟩
  | hold gate => exact ⟨_, .hold gate, carries.hold gate⟩

/-- Whatever happens on a line, the reports are faithful to the mail that it carries. -/
theorem faithful (opens : suite.Opens) (carries : Carries suite mail limit line)
    (events : List (Event α)) : Faithful limit mail (line.reports suite events) := by
  induction events generalizing mail line with
  | nil => exact .nil
  | cons event events ih =>
    by_cases fits : ∀ call, event = .read call → mail.Fits call
    · obtain ⟨mail', delivers, carries'⟩ := carries.happen opens event fits
      exact .cons delivers (ih carries')
    · -- The reader does not mirror the writer, and nothing is promised any more.
      simp only [not_forall] at fits
      obtain ⟨call, rfl, misfit⟩ := fits
      exact .misfit misfit

end Carries

/-! ## Lines that are connected -/

/-- Two connections that belong together, before anything was written. -/
inductive Connected (suite : Suite) : Line → Prop
  /-- Two bare connections over the ends of a stream, whose reads have any pace. -/
  | bare (address address' : Option Endpoint) (forth back : Nat → Option Nat) :
      Connected suite ⟨.bare address, .bare address',
        ⟨{ Pipe.new with pace := forth }, { Pipe.new with pace := back }⟩⟩
  /-- The connections of a negotiation with the dialer as the writer. -/
  | dialer (meeting : Negotiation.Meeting) (agrees : meeting.Agrees suite)
      (registry registry' : Registry) (forth back : Nat → Option Nat)
      (events : List Negotiation.Event) {pair : Negotiation.Pair}
      {connection connection' : Connection}
      (met : (meeting.pair registry registry' forth back).happenAll suite events = pair)
      (dialer : pair.dialer = .finished (.ok connection))
      (listener : pair.listener = .finished (.ok connection')) :
      Connected suite ⟨connection, connection', pair.link⟩
  /-- The connections of a negotiation with the listener as the writer. -/
  | listener (meeting : Negotiation.Meeting) (agrees : meeting.Agrees suite)
      (registry registry' : Registry) (forth back : Nat → Option Nat)
      (events : List Negotiation.Event) {pair : Negotiation.Pair}
      {connection connection' : Connection}
      (met : (meeting.pair registry registry' forth back).happenAll suite events = pair)
      (dialer : pair.dialer = .finished (.ok connection))
      (listener : pair.listener = .finished (.ok connection')) :
      Connected suite ⟨connection', connection, ⟨pair.link.back, pair.link.forth⟩⟩

/-- Nothing is on its way between two sides that are done with their negotiation. -/
theorem transit_start {wire reader : Wire} {pipe : Pipe} (written : wire.unwritten = .empty)
    (awaits : reader.Awaits false [] pipe []) :
    Transit (.start pipe.gate.isNone) (some wire) [] reader pipe [] where
  octets_eq := by
    rw [awaits.octets, unwritten, written, Buffer.toBytes_empty]
    rfl
  closed := rfl
  flushed _ := by rw [unwritten, written, Buffer.toBytes_empty]
  settled := by rintro ⟨⟩
  ended := awaits.opened.ended
  reset := awaits.opened.reset
  opened _ := awaits.opened
  free is_free := Option.isNone_iff_eq_none.1 is_free

/-- A line of bare connections carries nothing when it begins. -/
theorem carries_bare {wire reader : Wire} {pipe back : Pipe} {address address' : Option Endpoint}
    {resolution resolution' : Resolution} (written : wire.unwritten = .empty)
    (awaits : reader.Awaits false [] pipe []) :
    Carries suite (.start pipe.gate.isNone) LengthPrefixed.maxSize
      ⟨⟨some wire, .bare none, address, resolution⟩,
        ⟨some reader, .bare none, address', resolution'⟩, ⟨pipe, back⟩⟩ :=
  .bare (.intro (transit_start written awaits) (by rintro n ⟨⟩)
    (fun some_frames => absurd rfl some_frames) (by rintro text ⟨⟩))

/-- A line of secure connections carries nothing when it begins, if the reader unseals with the half
that the writer seals with. -/
theorem carries_secure {wire reader : Wire} {pipe back : Pipe}
    {address address' : Option Endpoint} {resolution resolution' : Resolution}
    {channel channel' : Noise.Established} (halves : channel.sender = channel'.receiver)
    (written : wire.unwritten = .empty) (awaits : reader.Awaits false [] pipe []) :
    Carries suite (.start pipe.gate.isNone) SealedFrames.maxPayload
      ⟨⟨some wire, .secure (.new channel), address, resolution⟩,
        ⟨some reader, .secure (.new channel'), address', resolution'⟩, ⟨pipe, back⟩⟩ := by
  refine .secure (.intro [] (transit_start written awaits) (by rintro n ⟨⟩) (by rintro parcel ⟨⟩)
    halves ?_ fun _ => Buffer.toBytes_empty)
  simp [Mail.start, SecureLayer.new]

/-- Both lines between the two sides of a negotiation that is over carry nothing. -/
theorem carries_of_stage {meeting : Negotiation.Meeting} {pair : Negotiation.Pair}
    (stage : Negotiation.Stage suite meeting false 0 pair) {connection connection' : Connection}
    (dialer : pair.dialer = .finished (.ok connection))
    (listener : pair.listener = .finished (.ok connection')) :
    Carries suite (.start pair.link.forth.gate.isNone)
        (Line.limit ⟨connection, connection', pair.link⟩) ⟨connection, connection', pair.link⟩ ∧
      Carries suite (.start pair.link.back.gate.isNone)
        (Line.limit ⟨connection', connection, ⟨pair.link.back, pair.link.forth⟩⟩)
        ⟨connection', connection, ⟨pair.link.back, pair.link.forth⟩⟩ := by
  cases stage with
  | agreed dialing listening =>
    rw [dialer] at dialing
    rw [listener] at listening
    cases dialing with
    | bare secrets awaits =>
      cases listening with
      | bare secrets' awaits' =>
        exact ⟨carries_bare awaits.unwritten awaits', carries_bare awaits'.unwritten awaits⟩
      | secure secrets' registered' awaits' =>
        rw [secrets] at secrets'
        simp at secrets'
    | secure secrets registered awaits =>
      cases listening with
      | bare secrets' awaits' =>
        rw [secrets] at secrets'
        simp at secrets'
      | secure secrets' registered' awaits' =>
        -- The halves of the two channels are the same ones, the other way round.
        obtain ⟨rfl, rfl⟩ := Prod.mk.inj (Option.some.inj (secrets.symm.trans secrets'))
        exact ⟨carries_secure rfl awaits.unwritten awaits',
          carries_secure rfl awaits'.unwritten awaits⟩

/-- Lines that are connected carry nothing when they begin. -/
theorem Connected.carries (opens : suite.Opens) (connected : line.Connected suite) :
    Carries suite (.start line.link.forth.gate.isNone) line.limit line := by
  cases connected with
  | bare address address' forth back =>
    exact carries_bare rfl ⟨rfl, rfl, .of_new forth, by rintro ⟨⟩⟩
  | dialer meeting agrees registry registry' forth back events met dialer listener =>
    subst met
    have stage := Negotiation.Meeting.stage_of_connection ⟨opens, agrees⟩ dialer
    exact (carries_of_stage stage dialer listener).1
  | listener meeting agrees registry registry' forth back events met dialer listener =>
    subst met
    have stage := Negotiation.Meeting.stage_of_connection ⟨opens, agrees⟩ dialer
    exact (carries_of_stage stage dialer listener).2

/-- There is a line of secure connections: the one of a dialer and a listener that both have a
secure channel. -/
theorem exists_connected_secure :
    ∃ line : Line, line.Connected .standard ∧ line.writer.isSecure = true := by
  have sound := Negotiation.Meeting.sound_expecting
  obtain ⟨events, stage⟩ := Negotiation.Meeting.exists_events sound
    Negotiation.Meeting.welcome_expecting .empty .empty (fun _ => none) (fun _ => none)
  cases stage.agreed_of_zero Suite.opens_standard with
  | bare missing =>
    rcases missing with missing | missing
    · exact absurd missing (Option.some_ne_none _)
    · exact absurd missing (Option.some_ne_none _)
  | secure mine yours dialer listener resolution resolution' identity identity' registered
      registered' secured =>
    refine ⟨_, .dialer _ sound.agrees _ _ _ _ events rfl dialer listener, ?_⟩
    simp [Connection.isSecure, secured]

/-- A reader gets what the writer has written: each of its calls that mirrors the writer is answered
with the next of the octets, or with the next object, or with the end of the stream, and waits only
for what is not written or has not arrived. An object is refused exactly if it is larger than the
limit of the line. -/
theorem written_is_read (opens : suite.Opens) (connected : line.Connected suite)
    (events : List (Event α)) :
    Faithful line.limit (.start line.link.forth.gate.isNone) (line.reports suite events) := by
  have carries := connected.carries opens
  exact carries.faithful opens events

/-- The line of a dialer and a listener that both have a secure channel. -/
theorem written_is_read_of_expecting :
    Suite.standard.Opens ∧ ∃ line : Line, line.Connected .standard ∧ line.limit = 65517 ∧
      Faithful line.limit (.start line.link.forth.gate.isNone) (line.reports .standard
        [.write (.bytes [104, 105]), .write (.object .null), .read (.bytes 2),
          .read (.object Json.Decoder.string), .write .close, .read .byte]) := by
  have opens := Suite.opens_standard
  have sound := Negotiation.Meeting.sound_expecting
  refine ⟨opens, ?_⟩
  obtain ⟨events, stage⟩ := Negotiation.Meeting.exists_events sound
    Negotiation.Meeting.welcome_expecting .empty .empty (fun _ => none) (fun _ => none)
  cases stage.agreed_of_zero opens with
  | bare missing =>
    rcases missing with missing | missing
    · exact absurd missing (Option.some_ne_none _)
    · exact absurd missing (Option.some_ne_none _)
  | secure mine yours dialer listener resolution resolution' identity identity' registered
      registered' secured =>
    have connected := Connected.dialer _ sound.agrees _ _ _ _ events rfl dialer listener
    refine ⟨_, connected, ?_, written_is_read opens connected _⟩
    simp [limit, Connection.isSecure, secured]

end PeerLink.Line
