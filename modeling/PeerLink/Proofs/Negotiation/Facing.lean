import PeerLink.Proofs.Negotiation.Resting
import PeerLink.Proofs.Patience.Splitting

/-!
# What a negotiation writes and registers

A side faces a stream: octets arrive in pieces, or writes or flushes begin to fail, and the side
runs as far as it goes behind each of these events and at last behind the end of the stream.
Whatever the events are, what the side has written and registered in the end is decided by the
octets that it has heard (`Dialogue.Awaits.face`, by induction on the events). From this follows
what is written if writes do not fail (`Dialogue.negotiation_writes`), and what is registered, also
if they do (`Dialogue.negotiation_registers`).
-/

namespace PeerLink

open Negotiation

/-- Something that happens to the stream of a side. -/
inductive Stream.Event where
  /-- Octets arrive. -/
  | arrives (bytes : Bytes)
  /-- Writes fail from now on, but for some octets that get through. -/
  | breaks (slack : Nat)
  /-- What is written cannot be flushed from now on, but for some octets that get through. -/
  | clogs (slack : Nat)
  deriving DecidableEq

namespace Stream

/-- The octets that arrive. -/
def Event.octets : Event → Bytes
  | arrives bytes => bytes
  | breaks _ => []
  | clogs _ => []

/-- Octets arrive, and nothing else happens. -/
def Event.Harmless : Event → Prop
  | arrives _ => True
  | breaks _ => False
  | clogs _ => False

/-- The octets that arrive in some events. -/
def Event.heard (events : List Event) : Bytes :=
  events.flatMap octets

/-- The stream behind an event. -/
def meet (event : Event) (stream : Stream) : Stream :=
  match event with
  | .arrives bytes => stream.arrive bytes
  | .breaks slack => { stream with outbound := { stream.outbound.sever with slack } }
  | .clogs slack => { stream with outbound := { stream.outbound with clogged := true, slack } }

end Stream

namespace Negotiation

variable {free : Prop} {stream : Stream}

/-- A reader over a stream at which nothing is there yet, and the same one when octets have arrived
and the stream has come to its end. -/
theorem Calm.later (calm : Calm free stream) (bytes : Bytes) (ending : Ending) (wire : Wire) :
    wire.Later bytes .wait ending.verge stream wire ((stream.arrive bytes).close ending) := by
  have same : wire.Later [] .wait .wait stream wire stream :=
    ⟨(List.append_nil _).symm, calm.verge, calm.verge, .inl rfl, calm.gate, calm.gate, rfl, rfl⟩
  exact same.supply bytes ending

/-- An event happens to a stream over which a side waits. -/
theorem Calm.meet (calm : Calm free stream) (event : Stream.Event) :
    Meets event.octets .wait (free ∧ event.Harmless) stream (stream.meet event) := by
  cases event with
  | arrives bytes =>
    have later := calm.later bytes .silent
    exact ⟨fun wire => (later wire).octets, calm.gate, (later .new).behind', rfl,
      fun writes => calm.accepts writes.1⟩
  | breaks slack =>
    exact ⟨fun wire => (List.append_nil _).symm, calm.gate, calm.verge, rfl,
      fun writes => writes.2.elim⟩
  | clogs slack =>
    exact ⟨fun wire => (List.append_nil _).symm, calm.gate, calm.verge, rfl,
      fun writes => writes.2.elim⟩

/-- A stream over which a side waits comes to its end. -/
theorem Calm.close (calm : Calm free stream) (ending : Ending) :
    Meets [] ending.verge free stream (stream.close ending) := by
  have later := calm.later [] ending
  rw [Dialogue.arrive_nil] at later
  refine ⟨fun wire => (later wire).octets, (later .new).free', (later .new).behind', ?_, ?_⟩
  · rw [(later .new).outbound]
  · rw [(later .new).outbound]
    exact calm.accepts

/-- A key is registered by a negotiation that has heard it in the first frame, if its own envelope
was written behind the octets `before`. -/
def Enters (suite : Suite) (party : Party) (heard before written : Bytes) (key : PublicKey) :
    Prop :=
  party.Admits heard key ∧ before ++ LengthPrefixed.encode (party.envelope suite) <+: written

/-- What a negotiation makes of the registry, with its result if it is over. -/
structure Leaves (suite : Suite) (party : Party) (registry : Registry)
    (heard before written : Bytes) (registry' : Registry)
    (result : Option (Except NegotiationError Connection)) : Prop where
  /-- The key of the other side is registered. -/
  set : ∀ key, Enters suite party heard before written key →
    registry' = registry.insert party.remote key
  /-- It is the one that is found there. -/
  found : ∀ key, Enters suite party heard before written key →
    registry'.get? party.remote = some key
  /-- Nothing else is. -/
  kept : (∀ key, ¬ Enters suite party heard before written key) → registry' = registry
  /-- The keys of other endpoints stay. -/
  others : ∀ endpoint, endpoint ≠ party.remote → registry'.get? endpoint = registry.get? endpoint
  /-- There is at most one key more. -/
  size_le : registry'.size ≤ registry.size + 1
  /-- Nothing is registered before the key is known. -/
  early : ∀ result', result = some result' → Early result' → registry' = registry
  /-- A secure connection is one with the owner of the registered key. -/
  secure : ∀ connection, result = some (.ok connection) → connection.isSecure = true →
    ∃ key, connection.remoteIdentity = some key ∧ registry'.get? party.remote = some key

/-- What a negotiation has come to says what it makes of the registry. -/
theorem Accounts.leaves {Speaks : Bytes → Bytes → Prop} {suite : Suite} {party : Party}
    {registry registry' : Registry} {before heard : Bytes}
    {result : Option (Except NegotiationError Connection)} {outbound : Pipe}
    (accounts : Accounts Speaks suite party registry before free heard result registry' outbound) :
    Leaves suite party registry heard before outbound.written registry' result := by
  obtain ⟨said, written, registers, -⟩ := accounts
  -- Whatever a side has said begins with its envelope, so that it is enough to have said something.
  have enters_iff (key : PublicKey) : Enters suite party heard before outbound.written key ↔
      party.Admits heard key ∧ said ≠ [] := by
    rw [Enters, written, List.prefix_append_right_inj]
    exact and_congr_right fun _ => ⟨ne_nil_of_opens, registers.opens.resolve_left⟩
  have kept (never : ∀ key, ¬ Enters suite party heard before outbound.written key) :
      registry' = registry := by
    refine registers.kept fun key admits => ?_
    by_contra something
    exact never key ((enters_iff key).2 ⟨admits, something⟩)
  have set (key : PublicKey) (enters : Enters suite party heard before outbound.written key) :
      registry' = registry.insert party.remote key := by
    obtain ⟨admits, something⟩ := (enters_iff key).1 enters
    exact registers.set key admits something
  have changes : registry' = registry ∨ ∃ key, registry' = registry.insert party.remote key := by
    by_cases some_key : ∃ key, Enters suite party heard before outbound.written key
    · obtain ⟨key, enters⟩ := some_key
      exact .inr ⟨key, set key enters⟩
    · exact .inl (kept fun key enters => some_key ⟨key, enters⟩)
  refine ⟨set, fun key enters => ?_, kept, fun endpoint other => ?_, ?_,
    fun result' settled early => ?_, fun connection settled secure => ?_⟩
  · rw [set key enters]
    exact registry.get?_insert party.remote key
  · rcases changes with rfl | ⟨key, rfl⟩
    · rfl
    · exact registry.get?_insert_of_ne other key
  · rcases changes with rfl | ⟨key, rfl⟩
    · exact Nat.le_succ _
    · exact registry.size_insert_le party.remote key
  · exact registers.kept (registers.early result' settled early)
  · obtain ⟨key, identity⟩ : ∃ key, connection.remoteIdentity = some key := by
      obtain ⟨wire, _ | layer, address, resolution⟩ := connection
      · cases secure
      · exact ⟨layer.remote, rfl⟩
    obtain ⟨admits, something⟩ := registers.secure connection key settled identity
    refine ⟨key, identity, ?_⟩
    rw [registers.set key admits something]
    exact registry.get?_insert party.remote key

/-- A dialer writes its offer before it reads anything. -/
theorem Dialer.step_new {suite : Suite} {party : Party} {registry : Registry} {outbound : Pipe}
    (accepts : outbound.refuses = false) (inbound : Pipe) :
    ∃ stream, (Dialer.new party).step suite registry ⟨inbound, outbound⟩ =
        (.next ⟨party, .new, .awaitingReply (party.envelope suite) none⟩, registry, stream) ∧
      stream.inbound = inbound ∧
      stream.outbound.written =
        outbound.written ++ LengthPrefixed.encode (party.envelope suite) := by
  rcases @Wire.flush_put_cases .new rfl _ (LengthPrefixed.encode_ne_nil (party.envelope suite))
    ⟨inbound, outbound⟩ with ⟨refuses, -⟩ | ⟨-, stream, flushed, same, -, written⟩
  · rw [accepts] at refuses
    cases refuses
  · refine ⟨stream, ?_, same, written⟩
    rw [Party.envelope] at flushed
    simp only [Dialer.step, Dialer.new, flushed, Party.envelope]

end Negotiation

namespace Dialogue

variable {α σ : Type}

/-- An event happens to the stream of a dialogue. -/
def meet (event : Stream.Event) (dialogue : Dialogue α) : Dialogue α :=
  { dialogue with stream := dialogue.stream.meet event }

/-- Lets events happen to the stream and runs a dialogue behind each of them, and at last behind the
end of the stream. -/
def face (suite : Suite) (ending : Ending) : List Stream.Event → Dialogue α → Dialogue α
  | [], dialogue => (dialogue.close ending).run suite
  | event :: events, dialogue => face suite ending events ((dialogue.meet event).run suite)

/-- Octets that arrive in pieces are events. -/
theorem feed_eq_face (suite : Suite) (ending : Ending) (pieces : List Bytes)
    (dialogue : Dialogue α) :
    dialogue.feed suite ending pieces = dialogue.face suite ending (pieces.map .arrives) := by
  induction pieces generalizing dialogue with
  | nil => rfl
  | cons piece pieces ih =>
    rw [feed, ih]
    rfl

/-- A kind of sides of a negotiation, with what is known of a side of this kind that waits. -/
structure Conducts (α : Type) (suite : Suite) (phase : σ → Phase)
    (run : Registry → σ → Stream → Move σ × Registry × Stream) (Speaks : Bytes → Bytes → Prop)
    (party : Party) (registry : Registry) (before : Bytes)
    (Waits : Prop → Bytes → σ → Registry → Stream → Prop) : Prop where
  /-- A dialogue with such a side runs the side. -/
  negotiate : ∀ (dialogue : Dialogue α) (state : σ), dialogue.phase = phase state →
    dialogue.negotiate suite = dialogue.moved phase (run dialogue.registry state dialogue.stream)
  /-- The stream of a side that waits. -/
  calm : ∀ {free heard state registry' stream}, Waits free heard state registry' stream →
    Calm free stream
  /-- What has come so far of its negotiation. -/
  accounts : ∀ {free heard state registry' stream}, Waits free heard state registry' stream →
    Accounts Speaks suite party registry before free heard none registry' stream.outbound
  /-- It rests again when something has happened to its stream. -/
  again : ∀ {free free' heard bytes verge state registry' stream stream'},
    Waits free heard state registry' stream → Meets bytes verge free' stream stream' →
    Rests (Waits free' (heard ++ bytes)) Speaks suite party registry before free' verge
      (heard ++ bytes) (run registry' state stream')

/-- A dialogue rests that asks for nothing: its side waits, or its negotiation is over. -/
inductive Resting (phase : σ → Phase) (Waits : Prop → Bytes → σ → Registry → Stream → Prop)
    (Speaks : Bytes → Bytes → Prop) (suite : Suite) (party : Party) (registry : Registry)
    (before : Bytes) (free : Prop) (verge : ReadResult) (heard : Bytes) : Dialogue α → Prop
  /-- The side waits. -/
  | waits {dialogue : Dialogue α} {state : σ} (waits : Waits free heard state dialogue.registry
      dialogue.stream) (asks : dialogue.asks = []) (negotiates : dialogue.phase = phase state)
      (negotiated : dialogue.negotiated = none) :
      Resting phase Waits Speaks suite party registry before free verge heard dialogue
  /-- The negotiation is over. -/
  | settled {dialogue : Dialogue α} (asks : dialogue.asks = [])
      (settled : dialogue.phase = .refused ∨ ∃ connection, dialogue.phase = .connected connection)
      (accounts : ∀ more, verge = .wait ∨ more = [] → Accounts Speaks suite party registry before
        free (heard ++ more) dialogue.negotiated dialogue.registry dialogue.stream.outbound) :
      Resting phase Waits Speaks suite party registry before free verge heard dialogue

/-- A dialogue that asks for nothing reads nothing. -/
theorem read_of_no_asks {dialogue : Dialogue α} (nothing : dialogue.asks = []) (suite : Suite) :
    dialogue.read suite = dialogue := by
  obtain ⟨registry, stream, phase, negotiated, asks, gathered, answers⟩ := dialogue
  obtain rfl : asks = [] := nothing
  cases phase with
  | connected connection => simp [read, answerAll]
  | _ => rfl

/-- A dialogue whose negotiation is over and that asks for nothing does nothing. -/
theorem run_of_over {dialogue : Dialogue α}
    (settled : dialogue.phase = .refused ∨ ∃ connection, dialogue.phase = .connected connection)
    (nothing : dialogue.asks = []) (suite : Suite) : dialogue.run suite = dialogue := by
  have stays : dialogue.negotiate suite = dialogue := by
    rw [negotiate]
    rcases settled with refused | ⟨connection, connected⟩
    · simp only [refused]
    · simp only [connected]
  rw [run, stays, read_of_no_asks nothing]

section

variable {suite : Suite} {phase : σ → Phase} {Waits : Prop → Bytes → σ → Registry → Stream → Prop}
  {Speaks : Bytes → Bytes → Prop} {party : Party} {registry : Registry} {before heard bytes : Bytes}
  {free free' : Prop} {verge verge' : ReadResult}
  {sideRun : Registry → σ → Stream → Move σ × Registry × Stream} {dialogue : Dialogue α}

/-- A dialogue rests when its side does. -/
theorem Resting.of_rests {result : Move σ × Registry × Stream}
    (rests : Rests (Waits free heard) Speaks suite party registry before free verge heard result)
    (asks : dialogue.asks = []) (negotiated : dialogue.negotiated = none) :
    Resting phase Waits Speaks suite party registry before free verge heard
      (dialogue.moved phase result) := by
  cases rests with
  | waits waits => exact .waits waits asks rfl negotiated
  | @settled result _ _ accounts =>
    cases result with
    | error e => exact .settled asks (.inl rfl) accounts
    | ok connection => exact .settled asks (.inr ⟨connection, rfl⟩) accounts

/-- A dialogue runs until it rests whenever something happens to its stream. -/
structure Awaits (suite : Suite) (phase : σ → Phase)
    (Waits : Prop → Bytes → σ → Registry → Stream → Prop) (Speaks : Bytes → Bytes → Prop)
    (party : Party) (registry : Registry) (before : Bytes) (free : Prop) (heard : Bytes)
    (dialogue : Dialogue α) : Prop where
  /-- It rests again behind it. -/
  again : ∀ {free' : Prop} {bytes : Bytes} {verge : ReadResult} (stream : Stream),
    (free' → free) → stream.outbound.written = dialogue.stream.outbound.written →
    (Calm free dialogue.stream → Meets bytes verge free' dialogue.stream stream) →
    Resting phase Waits Speaks suite party registry before free' verge (heard ++ bytes)
      (({ dialogue with stream } : Dialogue α).run suite)

/-- A dialogue that runs a side that comes to rest does so as well. -/
theorem resting_run {state : σ}
    (conducts : Conducts α suite phase sideRun Speaks party registry before Waits)
    (rests : Rests (Waits free heard) Speaks suite party registry before free verge heard
      (sideRun dialogue.registry state dialogue.stream))
    (negotiates : dialogue.phase = phase state) (asks : dialogue.asks = [])
    (negotiated : dialogue.negotiated = none) :
    Resting phase Waits Speaks suite party registry before free verge heard
      (dialogue.run suite) := by
  have moved : Resting phase Waits Speaks suite party registry before free verge heard
      (dialogue.moved phase (sideRun dialogue.registry state dialogue.stream)) :=
    .of_rests rests asks negotiated
  rw [Dialogue.run, conducts.negotiate dialogue state negotiates, read_of_no_asks]
  · exact moved
  · cases moved <;> assumption

/-- A dialogue that rests does so again when something has happened to its stream. -/
theorem Resting.awaits
    (conducts : Conducts α suite phase sideRun Speaks party registry before Waits)
    (resting : Resting phase Waits Speaks suite party registry before free .wait heard dialogue) :
    Awaits suite phase Waits Speaks party registry before free heard dialogue := by
  refine ⟨fun {free' bytes verge} stream weaker written meets => ?_⟩
  cases resting with
  | @waits state waits asks negotiates negotiated =>
    have rests := conducts.again waits (meets (conducts.calm waits))
    exact resting_run conducts rests negotiates asks negotiated
  | settled asks settled accounts =>
    have idle : ({ dialogue with stream } : Dialogue α).run suite = { dialogue with stream } :=
      @run_of_over α { dialogue with stream } settled asks suite
    rw [idle]
    refine .settled asks settled fun more _ => ?_
    -- What has come of the negotiation stays so, whatever arrives.
    obtain ⟨said, written', registers, speaks⟩ := accounts (bytes ++ more) (.inl rfl)
    rw [← List.append_assoc] at registers speaks
    exact ⟨said, written.trans written', registers, fun writes => speaks (weaker writes)⟩

/-- What has come of the negotiation of a dialogue that rests. -/
theorem Resting.accounts
    (conducts : Conducts α suite phase sideRun Speaks party registry before Waits)
    (resting : Resting phase Waits Speaks suite party registry before free verge heard dialogue) :
    Accounts Speaks suite party registry before free heard dialogue.negotiated dialogue.registry
      dialogue.stream.outbound := by
  cases resting with
  | waits waits asks negotiates negotiated =>
    rw [negotiated]
    exact conducts.accounts waits
  | settled asks settled accounts =>
    have now := accounts [] (.inr rfl)
    rwa [List.append_nil] at now

/-- What has come of the negotiation of a dialogue that faces some events. -/
theorem Awaits.face
    (conducts : Conducts α suite phase sideRun Speaks party registry before Waits)
    (awaits : Awaits suite phase Waits Speaks party registry before free heard dialogue)
    (events : List Stream.Event) (ending : Ending) :
    Accounts Speaks suite party registry before (free ∧ ∀ event ∈ events, event.Harmless)
      (heard ++ Stream.Event.heard events) (dialogue.face suite ending events).negotiated
      (dialogue.face suite ending events).registry
      (dialogue.face suite ending events).stream.outbound := by
  -- The octets of each event join the ones that were heard, and the rest of the events come to a
  -- dialogue that has rested and awaits them.
  induction events generalizing dialogue heard free with
  | nil =>
    have closed := awaits.again (dialogue.stream.close ending) id
      (by cases ending <;> rfl) fun calm => calm.close ending
    exact (closed.accounts conducts).imp And.left
  | cons event events ih =>
    have met := awaits.again (dialogue.stream.meet event) And.left
      (by cases event <;> rfl) fun calm => calm.meet event
    have accounts := ih (met.awaits conducts)
    have split : Stream.Event.heard (event :: events) =
        event.octets ++ Stream.Event.heard events := List.flatMap_cons
    rw [List.append_assoc, ← split] at accounts
    refine accounts.imp ?_
    rintro ⟨writes, harmless⟩
    rw [List.forall_mem_cons] at harmless
    exact ⟨⟨writes, harmless.1⟩, harmless.2⟩

end

/-! ## Both sides -/

section

variable {suite : Suite} {party : Party} {registry : Registry} {outbound : Pipe}

/-- What is known of a dialer that waits. -/
theorem conducts_dialing (before : Bytes) :
    Conducts α suite .dialing (Dialer.run suite) (Dialer.Speaks suite party) party registry before
      (Dialer.Waits suite party registry before) where
  negotiate dialogue dialer dials := by rw [negotiate, dials]
  calm waits := waits.calm
  accounts waits := waits.accounts
  again waits meets := waits.again meets

/-- What is known of a listener that waits. -/
theorem conducts_listening (before : Bytes) :
    Conducts α suite .listening (Listener.run suite) (Listener.Speaks suite party) party registry
      before (Listener.Waits suite party registry before) where
  negotiate dialogue listener listens := by rw [negotiate, listens]
  calm waits := waits.calm
  accounts waits := waits.accounts
  again waits meets := waits.again meets

/-- Nothing was read or written at the beginning of a negotiation. -/
theorem spoken_new {bytes : Bytes} {verge : ReadResult} {free : Prop}
    {pace : Nat → Option Nat} {stream : Stream}
    (written : stream.outbound.written = outbound.written)
    (meets : Calm (outbound.refuses = false) ⟨{ Pipe.new with pace }, outbound⟩ →
      Meets bytes verge free ⟨{ Pipe.new with pace }, outbound⟩ stream) :
    Wire.new.ahead stream = bytes ∧ stream.inbound.verge = verge ∧
      Spoken outbound.written [] free .new stream := by
  have met := meets ⟨rfl, rfl, id⟩
  refine ⟨met.ahead .new, met.verge, rfl, ?_, met.accepts, met.gate⟩
  rw [written, List.append_nil]

/-- A dialogue that is to dial. -/
theorem awaits_dial (pace : Nat → Option Nat) :
    Awaits suite .dialing (Dialer.Waits suite party registry outbound.written)
      (Dialer.Speaks suite party) party registry outbound.written (outbound.refuses = false) []
      (new (.dial party) registry ⟨{ Pipe.new with pace }, outbound⟩ ([] : List (Ask α))) := by
  refine ⟨fun {free bytes verge} stream _ written meets => ?_⟩
  obtain ⟨heard, rfl, spoken⟩ := spoken_new written meets
  exact resting_run (conducts_dialing outbound.written) (Dialer.rests_offering heard spoken) rfl rfl
    rfl

/-- A dialogue that is to accept. -/
theorem awaits_accept (pace : Nat → Option Nat) :
    Awaits suite .listening
      (Listener.Waits suite { party with expected := none } registry outbound.written)
      (Listener.Speaks suite { party with expected := none }) { party with expected := none }
      registry outbound.written (outbound.refuses = false) []
      (new (.accept party) registry ⟨{ Pipe.new with pace }, outbound⟩ ([] : List (Ask α))) := by
  refine ⟨fun {free bytes verge} stream _ written meets => ?_⟩
  obtain ⟨heard, rfl, spoken⟩ := spoken_new written meets
  have octets : LengthPrefixed.head none ++ Wire.new.ahead stream = [] ++ bytes :=
    congrArg ([] ++ ·) heard
  exact resting_run (conducts_listening outbound.written)
    (Listener.rests_awaitingOffer LengthPrefixed.valid_none octets spoken) rfl rfl rfl

/-- What has come of the negotiation of a dialer that faces some events. -/
theorem accounts_dial (pace : Nat → Option Nat) (events : List Stream.Event) (ending : Ending) :
    let after := (new (.dial party) registry ⟨{ Pipe.new with pace }, outbound⟩
      ([] : List (Ask α))).face suite ending events
    Accounts (Dialer.Speaks suite party) suite party registry outbound.written
      (outbound.refuses = false ∧ ∀ event ∈ events, event.Harmless) (Stream.Event.heard events)
      after.negotiated after.registry after.stream.outbound :=
  (awaits_dial pace).face (conducts_dialing _) events ending

/-- What has come of the negotiation of a listener that faces some events. -/
theorem accounts_accept (pace : Nat → Option Nat) (events : List Stream.Event) (ending : Ending) :
    let after := (new (.accept party) registry ⟨{ Pipe.new with pace }, outbound⟩
      ([] : List (Ask α))).face suite ending events
    let party : Party := { party with expected := none }
    Accounts (Listener.Speaks suite party) suite party registry outbound.written
      (outbound.refuses = false ∧ ∀ event ∈ events, event.Harmless) (Stream.Event.heard events)
      after.negotiated after.registry after.stream.outbound :=
  (awaits_accept pace).face (conducts_listening _) events ending

/-- The octets that arrive in pieces are the ones of all of them. -/
theorem heard_map_arrives (pieces : List Bytes) :
    Stream.Event.heard (pieces.map .arrives) = pieces.flatten := by
  rw [Stream.Event.heard, List.flatMap_map, List.flatMap_def]
  exact congrArg List.flatten (List.map_id pieces)

/-- What is written by a negotiation that no other one steps in on, if writes do not fail, and
however the octets that come are split. A listener writes nothing before the first frame is
complete, and nothing at all if it is no envelope. Otherwise it writes its own envelope, and then
the second message of the handshake if the owner of the key in the offer, which is the registered
one, has sent the first one. A dialer writes its offer before it reads anything, and then the first
message of the handshake if it takes the key in the reply. -/
theorem negotiation_writes (suite : Suite) (party : Party) (registry : Registry)
    (accepts : outbound.refuses = false) (pace : Nat → Option Nat) (pieces : List Bytes)
    (ending : Ending) :
    let stream : Stream := ⟨{ Pipe.new with pace }, outbound⟩
    let accepted :=
      (new (.accept party) registry stream ([] : List (Ask α))).feed suite ending pieces
    let dialed := (new (.dial party) registry stream ([] : List (Ask α))).feed suite ending pieces
    ((∃ said, accepted.stream.outbound.written = outbound.written ++ said ∧
        Listener.Speaks suite { party with expected := none } pieces.flatten said) ∧
      ∀ key, Party.Admits { party with expected := none } pieces.flatten key →
        accepted.registry.get? party.remote = some key) ∧
    (∃ said, dialed.stream.outbound.written = outbound.written ++ said ∧
      Dialer.Speaks suite party pieces.flatten said) ∧
    ∀ inbound, ∃ stream, (Dialer.new party).step suite registry ⟨inbound, outbound⟩ =
        (.next ⟨party, .new, .awaitingReply (party.envelope suite) none⟩, registry, stream) ∧
      stream.inbound = inbound ∧
      stream.outbound.written =
        outbound.written ++ LengthPrefixed.encode (party.envelope suite) := by
  intro stream accepted dialed
  have unbroken : outbound.refuses = false ∧
      ∀ event ∈ pieces.map Stream.Event.arrives, event.Harmless := by
    refine ⟨accepts, fun event arrived => ?_⟩
    obtain ⟨piece, -, rfl⟩ := List.mem_map.1 arrived
    trivial
  obtain ⟨said, written, registers, speaks⟩ :=
    @accounts_accept α suite party registry outbound pace (pieces.map .arrives) ending
  obtain ⟨said', written', -, speaks'⟩ :=
    @accounts_dial α suite party registry outbound pace (pieces.map .arrives) ending
  rw [← feed_eq_face] at written written' registers
  rw [heard_map_arrives] at registers speaks speaks'
  refine ⟨⟨⟨said, written, speaks unbroken⟩, fun key admits => ?_⟩,
    ⟨said', written', speaks' unbroken⟩, Dialer.step_new accepts⟩
  -- A listener that takes the key has replied, and so it has registered the key.
  have something : said ≠ [] := by
    obtain ⟨offer, rest, begins, envelope, -, decoded, -⟩ := admits
    obtain ⟨response, rfl, -⟩ := (speaks unbroken).replies offer rest envelope begins decoded
    exact ne_nil_of_opens (List.prefix_append _ _)
  have inserted : accepted.registry = registry.insert party.remote key :=
    registers.set key admits something
  rw [inserted]
  exact registry.get?_insert party.remote key

end

/-- A listener lets an honest dialer finish the handshake, and a dialer initiates it towards an
honest listener. -/
theorem negotiation_writes_of_expecting :
    let meeting := Meeting.expecting
    let stream : Stream := ⟨{ Pipe.new with pace := fun _ => some 1 }, .new⟩
    let accepted := (new (.accept meeting.listener) .empty stream ([] : List (Ask Unit))).feed
      .standard .silent [LengthPrefixed.encode (meeting.offer .standard),
        (meeting.initiation .standard (.filled 1) (.filled 2)).1]
    let dialed := (new (.dial meeting.dialer) .empty stream ([] : List (Ask Unit))).feed
      .standard .silent [LengthPrefixed.encode (meeting.reply .standard)]
    Pipe.new.refuses = false ∧
      (∃ response, accepted.stream.outbound.written =
        LengthPrefixed.encode (meeting.reply .standard) ++ response ∧ response.length = 48) ∧
      ∃ initiation, dialed.stream.outbound.written =
        LengthPrefixed.encode (meeting.offer .standard) ++ initiation ∧ initiation.length = 96 := by
  intro meeting stream accepted dialed
  have secrets : meeting.secrets = some (.filled 1, .filled 2) := rfl
  refine ⟨rfl, ?_, ?_⟩
  · obtain ⟨⟨⟨said, written, speaks⟩, -⟩, -⟩ :=
      @negotiation_writes Unit .new .standard meeting.listener .empty rfl (fun _ => some 1)
        [LengthPrefixed.encode (meeting.offer .standard),
          (meeting.initiation .standard (.filled 1) (.filled 2)).1] .silent
    have begins : LengthPrefixed.Begins [LengthPrefixed.encode (meeting.offer .standard),
        (meeting.initiation .standard (.filled 1) (.filled 2)).1].flatten
        (meeting.offer .standard) (meeting.initiation .standard (.filled 1) (.filled 2)).1 :=
      ⟨by simp, meeting.length_offer_le .standard⟩
    obtain ⟨response, rfl, answers, -⟩ := speaks.replies _ _ _ begins Meeting.decode_offer
    refine ⟨response, written, answers ?_⟩
    have long := @Meeting.length_initiation .standard meeting (.filled 1) (.filled 2)
    refine (Listener.admitted_iff (Meeting.secures_offer .standard secrets)).2
      ⟨Nat.le_of_eq long.symm, meeting.responder .standard (.filled 1) (.filled 2), ?_, rfl⟩
    rw [List.take_of_length_le (Nat.le_of_eq long)]
    exact Meeting.respond?_initiation Meeting.sound_expecting secrets
  · obtain ⟨-, ⟨said, written, initiation, rfl, initiates, -⟩, -⟩ :=
      @negotiation_writes Unit .new .standard meeting.dialer .empty rfl (fun _ => some 1)
        [LengthPrefixed.encode (meeting.reply .standard)] .silent
    have begins : LengthPrefixed.Begins [LengthPrefixed.encode (meeting.reply .standard)].flatten
        (meeting.reply .standard) [] :=
      ⟨by simp, meeting.length_reply_le .standard⟩
    exact ⟨initiation, written, initiates ⟨_, _, _, begins,
      (Meeting.secures_reply Meeting.welcome_expecting secrets).heeds⟩⟩

/-- What becomes of the registry by a negotiation that no other one steps in on, whatever arrives,
whenever writes begin to fail, and however far it comes. Of all that is there only the key of the
other endpoint may change: it is the key in the first frame then, which is an envelope that the side
takes the key from, and the side has written its own envelope before. -/
theorem negotiation_registers (suite : Suite) (party : Party) (registry : Registry)
    (outbound : Pipe) (pace : Nat → Option Nat) (events : List Stream.Event) (ending : Ending) :
    let stream : Stream := ⟨{ Pipe.new with pace }, outbound⟩
    let dialed := (new (.dial party) registry stream ([] : List (Ask α))).face suite ending events
    let accepted :=
      (new (.accept party) registry stream ([] : List (Ask α))).face suite ending events
    Leaves suite party registry (Stream.Event.heard events) outbound.written
        dialed.stream.outbound.written dialed.registry dialed.negotiated ∧
      Leaves suite { party with expected := none } registry (Stream.Event.heard events)
        outbound.written accepted.stream.outbound.written accepted.registry accepted.negotiated :=
  ⟨(accounts_dial pace events ending).leaves, (accounts_accept pace events ending).leaves⟩

end Dialogue

end PeerLink
