import PeerLink.Proofs.Connection.Level
import PeerLink.Proofs.Negotiation.Heeding
import PeerLink.Proofs.Patience.Splitting

/-!
# Peers that do not negotiate

A listener that finds no envelope in the first frame puts the frame back and gets a bare connection.
The frame is written in one way only, so that the octets before the connection are the ones that
were there at the beginning (`Listener.run_plain`). Hence the connection delivers what a bare
connection delivers that was given the stream as it is: the same to whoever asks for objects and
octets, and the same call by call (`Dialogue.plain_frames_are_kept`).
-/

namespace PeerLink

open Negotiation

/-- A listener leaves the octets before it as they are if the first frame is no envelope. -/
theorem Negotiation.Listener.run_plain {party : Party} {wire : Wire} {stream : Stream}
    {offer rest : Bytes} (suite : Suite) (registry : Registry)
    (free : stream.inbound.gate = none)
    (begins : LengthPrefixed.Begins (wire.ahead stream) offer rest)
    (plain : ∀ envelope, Envelope.decode offer ≠ .ok envelope) :
    ∃ wire' stream', run suite registry ⟨party, wire, .awaitingOffer none⟩ stream =
        (.finished (.ok (.negotiated wire' .bare none party.remote)), registry, stream') ∧
      wire.Later [] stream.inbound.verge stream.inbound.verge stream wire' stream' := by
  rcases LengthPrefixed.readFrame_first NegotiationError.io LengthPrefixed.valid_none
      (List.nil_append (wire.ahead stream)) with
    ⟨offer', rest', wire', stream', begins', read, ahead, advanced⟩ | ⟨_, _, _, _, lacks, -⟩
  · obtain ⟨rfl, rfl⟩ := begins.unique begins'
    obtain ⟨fault, decoded⟩ : ∃ fault, Envelope.decode offer' = .error fault := by
      cases decoded : Envelope.decode offer' with
      | error fault => exact ⟨fault, rfl⟩
      | ok envelope => exact absurd decoded (plain envelope)
    rw [← framing] at read
    refine ⟨wire'.unread (LengthPrefixed.encode offer'), stream', ?_, ?_⟩
    · rw [run_eq]
      simp only [step, read, decoded]
    · refine ⟨?_, rfl, advanced.verge, .inr ⟨rfl, rfl⟩, free, advanced.gate_eq_none free,
        advanced.unwritten, advanced.outbound⟩
      rw [List.append_nil, begins.octets_eq, ← ahead, Wire.ahead, Wire.ahead, Wire.unread,
        Buffer.toBytes_prepend, List.append_assoc]
  · exact absurd begins (lacks offer rest)

namespace Dialogue

variable {α : Type} {suite : Suite} {party : Party} {registry : Registry} {outbound : Pipe}
  {offer rest bytes : Bytes} {pieces : List Bytes}

/-- A dialogue that accepts and finds no envelope has got a bare connection. -/
theorem negotiate_plain (begins : LengthPrefixed.Begins bytes offer rest)
    (plain : ∀ envelope, Envelope.decode offer ≠ .ok envelope) (asks : List (Ask α))
    (ending : Ending) :
    ∃ wire stream, (((new (.accept party) registry ⟨Pipe.new, outbound⟩ asks).arrive
        bytes).close ending).negotiate suite =
          { new (.accept party) registry stream asks with
            phase := .connected (.negotiated wire .bare none party.remote),
            negotiated := some (.ok (.negotiated wire .bare none party.remote)) } ∧
      Wire.new.Later [] ending.verge ending.verge
        ((Stream.arrive bytes ⟨Pipe.new, outbound⟩).close ending) wire stream := by
  have whole := Wire.later_new outbound (fun _ => none) bytes ending
  have octets : Wire.new.ahead ((Stream.arrive bytes ⟨Pipe.new, outbound⟩).close ending) = bytes :=
    whole.octets
  obtain ⟨wire, stream, run, later⟩ := @Listener.run_plain { party with expected := none } .new _
    offer rest suite registry whole.free' (by rw [octets]; exact begins) plain
  rw [whole.behind'] at later
  exact ⟨wire, stream, congrArg (moved _ .listening) run, later⟩

/-- A dialogue that accepts and finds no envelope comes to where one comes to that was given a bare
connection. -/
theorem later_plain (begins : LengthPrefixed.Begins bytes offer rest)
    (plain : ∀ envelope, Envelope.decode offer ≠ .ok envelope) (asks : List (Ask α))
    (ending : Ending) :
    Later [] ending.verge ending.verge
      ({ ((new (.bare (some party.remote)) registry ⟨Pipe.new, outbound⟩ asks).arrive bytes).close
        ending with negotiated := some (.ok (.bare (some party.remote))) }.run suite)
      ((((new (.accept party) registry ⟨Pipe.new, outbound⟩ asks).arrive bytes).close
        ending).run suite) := by
  obtain ⟨wire, stream, negotiate_eq, later⟩ :=
    @negotiate_plain α suite party registry outbound _ _ _ begins plain asks ending
  -- The listener has read ahead, and nothing else tells the two connections apart.
  have start : Later [] ending.verge ending.verge
      { ((new (.bare (some party.remote)) registry ⟨Pipe.new, outbound⟩ asks).arrive bytes).close
        ending with negotiated := some (.ok (.bare (some party.remote))) }
      { new (.accept party) registry stream asks with
        phase := .connected (.negotiated wire .bare none party.remote),
        negotiated := some (.ok (.negotiated wire .bare none party.remote)) } := by
    refine ⟨⟨rfl, rfl, rfl, ?_⟩, .connected (.bare later none (some party.remote) .bare), rfl⟩
    simp only [Option.map_some, Except.map, outward, Connection.negotiated, Connection.bare,
      later.unwritten]
  obtain ⟨final, runs, same⟩ := patient_step.alike start (@runs_run α suite _)
  have run_eq : (((new (.accept party) registry ⟨Pipe.new, outbound⟩ asks).arrive bytes).close
      ending).run suite = final :=
    (congrArg (read suite) negotiate_eq).trans (runs.unique (runs_read _ rfl))
  rw [run_eq]
  exact same

/-- Whoever asks a dialogue that accepts and finds no envelope sees what is seen of one that was
given a bare connection, however the octets arrive at both. -/
theorem report_plain (begins : LengthPrefixed.Begins pieces.flatten offer rest)
    (plain : ∀ envelope, Envelope.decode offer ≠ .ok envelope) (asks : List (Ask α))
    (ending : Ending) (pace pace' : Nat → Option Nat) {pieces' : List Bytes}
    (same : pieces'.flatten = pieces.flatten) :
    ((new (.accept party) registry ⟨{ Pipe.new with pace }, outbound⟩ asks).feed suite ending
        pieces).report =
      { ((new (.bare (some party.remote)) registry ⟨{ Pipe.new with pace := pace' }, outbound⟩
          asks).feed suite ending pieces').report with
        negotiated := some (.ok (.bare (some party.remote))) } := by
  -- To both dialogues the octets may as well come all at once.
  have later := @later_plain α suite party registry outbound _ _ _ begins plain asks ending
  rw [report_feed_of_later (later_new _ _ _ _ pace _ ending),
    report_feed_of_later (later_new _ _ _ _ pace' _ ending), same, later.report]
  rfl

/-- A connection with the same octets before it as a bare one that has not been used is such a
connection, but for what it has read ahead. -/
theorem outward_of_level {connection : Connection} {stream stream' : Stream}
    {address : Option Endpoint} (level : connection.Level stream (.bare address) stream') :
    outward connection = .bare address := by
  rw [Connection.bare] at level
  cases level with
  | intro later =>
    simp only [outward, Option.map_some, Connection.bare, ← later.unwritten]
    rfl

/-- The connection of a dialogue that accepts and finds no envelope has the same octets before it as
a bare one that was given the stream as it is. -/
theorem level_plain (begins : LengthPrefixed.Begins pieces.flatten offer rest)
    (plain : ∀ envelope, Envelope.decode offer ≠ .ok envelope) (pace pace' : Nat → Option Nat) :
    let accepted := (new (.accept party) registry ⟨{ Pipe.new with pace }, outbound⟩
      ([] : List (Ask α))).feed suite .silent pieces
    ∃ connection, accepted.phase = .connected connection ∧ accepted.registry = registry ∧
      connection.Level accepted.stream (.bare (some party.remote))
        (Stream.arrive pieces.flatten ⟨{ Pipe.new with pace := pace' }, outbound⟩) := by
  intro accepted
  obtain ⟨wire, stream, negotiate_eq, later⟩ :=
    @negotiate_plain α suite party registry outbound _ _ _ begins plain [] .silent
  have fed : Later [] .wait .wait accepted _ :=
    later_feed (later_new (.accept party) registry outbound [] pace pieces.flatten .silent)
  rw [run, negotiate_eq] at fed
  have phases := fed.phase
  generalize phase_eq : accepted.phase = phase at phases
  cases phases with
  | connected connections =>
    refine ⟨_, rfl, fed.registry.symm, (Connection.Level.of_later connections rfl).trans ?_⟩
    -- How fast the untouched stream is makes no difference to what is before a reader of it.
    have slow : Wire.new.Later [] .wait .wait
        (Stream.arrive pieces.flatten ⟨{ Pipe.new with pace := pace' }, outbound⟩) .new
        ((Stream.arrive pieces.flatten ⟨Pipe.new, outbound⟩).close .silent) := by
      refine Wire.Later.arrive ?_
      rw [List.append_nil]
      exact Wire.later_new outbound pace' pieces.flatten .silent
    exact .intro (later.unique slow.symm) ..

/-- A peer that does not negotiate does not notice that the listener does. If the first frame that
comes is no envelope, a listener writes and registers nothing, however the octets arrive, and gets a
bare connection. The connection delivers what a bare one delivers that was given the stream as it
is, from the first octet on: the same call by call, whichever of both the calls are made on and
whatever arrives in between, and the same to whoever asks for objects and octets. -/
theorem plain_frames_are_kept (suite : Suite) (party : Party) (registry : Registry)
    (outbound : Pipe) (begins : LengthPrefixed.Begins pieces.flatten offer rest)
    (plain : ∀ envelope, Envelope.decode offer ≠ .ok envelope) (pace pace' : Nat → Option Nat) :
    let stream : Stream := ⟨{ Pipe.new with pace }, outbound⟩
    let stream' : Stream := ⟨{ Pipe.new with pace := pace' }, outbound⟩
    let accepted :=
      (new (.accept party) registry stream ([] : List (Ask α))).feed suite .silent pieces
    let bare := Connection.bare (some party.remote)
    (∃ connection, accepted.phase = .connected connection ∧ outward connection = bare ∧
      accepted.stream.outbound = outbound ∧ accepted.registry = registry ∧
      ∀ readings : List (Reading α),
        (∀ both ∈ Connection.mirror suite readings (connection, accepted.stream)
          (bare, stream'.arrive pieces.flatten), both.2 = both.1) ∧
        ∀ both ∈ Connection.mirror suite readings (bare, stream'.arrive pieces.flatten)
          (connection, accepted.stream), both.2 = both.1) ∧
    ∀ (asks : List (Ask α)) (ending : Ending) (pieces' : List Bytes),
      pieces'.flatten = pieces.flatten →
      ((new (.accept party) registry stream asks).feed suite ending pieces).report =
        { ((new (.bare (some party.remote)) registry stream' asks).feed suite ending
            pieces').report with
          negotiated := some (.ok bare) } := by
  intro stream stream' accepted bare
  constructor
  · obtain ⟨connection, phase, registered, level⟩ :=
      @level_plain α suite party registry outbound _ _ _ begins plain pace pace'
    exact ⟨connection, phase, outward_of_level level, level.outbound.symm, registered,
      fun readings => ⟨level.mirror readings, level.symm.mirror readings⟩⟩
  · intro asks ending pieces' same
    exact report_plain begins plain asks ending pace pace' same

/-- The first frame is an empty one, it comes in two pieces, and there is an octet behind it. -/
theorem plain_frames_are_kept_of_empty :
    let pieces : List Bytes := [[0, 0, 0], [0, 7]]
    let party := Meeting.expecting.listener
    let accepted := (new (.accept party) .empty ⟨Pipe.new, .new⟩ ([] : List (Ask Unit))).feed
      .standard .silent pieces
    LengthPrefixed.Begins pieces.flatten [] [7] ∧
      (∀ envelope, Envelope.decode [] ≠ .ok envelope) ∧
      ∃ connection, accepted.phase = .connected connection ∧
        outward connection = .bare (some party.remote) ∧ accepted.stream.outbound = .new ∧
        accepted.registry = .empty ∧
        ∀ readings : List (Reading Unit), ∀ both ∈ Connection.mirror .standard readings
          (connection, accepted.stream)
          (.bare (some party.remote), Stream.arrive [0, 0, 0, 0, 7] ⟨Pipe.new, .new⟩),
          both.2 = both.1 := by
  intro pieces party accepted
  have begins : LengthPrefixed.Begins pieces.flatten [] [7] := ⟨rfl, Nat.zero_le _⟩
  have plain : ∀ envelope, Envelope.decode [] ≠ .ok envelope := by
    rintro envelope ⟨⟩
  obtain ⟨connection, phase, bare, written, registered, delivers⟩ :=
    (@plain_frames_are_kept Unit _ _ _ .standard party .empty .new begins plain (fun _ => none)
      fun _ => none).1
  exact ⟨begins, plain, connection, phase, bare, written, registered,
    fun readings => (delivers readings).1⟩

end Dialogue

end PeerLink
