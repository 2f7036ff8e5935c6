import PeerLink.Proofs.Negotiation.Meeting
import PeerLink.Proofs.Patience.Asking
import PeerLink.Proofs.Patience.Negotiating
import PeerLink.Proofs.Patience.Steps

/-!
# Dialogues

A dialogue is one side of a connection from its beginning: it dials or accepts, and then reads what
it asks for. `Dialogue.feed` lets the octets arrive in pieces and runs the dialogue behind each of
them.
-/

namespace PeerLink

open Negotiation

/-- Where a dialogue is. -/
inductive Dialogue.Phase where
  /-- The dialogue dials. -/
  | dialing (dialer : Dialer)
  /-- The dialogue accepts. -/
  | listening (listener : Listener)
  /-- The negotiation has failed. -/
  | refused
  /-- There is a connection. -/
  | connected (connection : Connection)

/-- A side of a connection that asks for objects as values of `α`. -/
structure Dialogue (α : Type) where
  /-- The keys of the peers. -/
  registry : Registry
  /-- The end of the stream. -/
  stream : Stream
  /-- Where the dialogue is. -/
  phase : Dialogue.Phase
  /-- What the negotiation has come to. -/
  negotiated : Option (Except NegotiationError Connection)
  /-- What is not answered yet, in order. -/
  asks : List (Ask α)
  /-- The octets that were gathered for the first ask. -/
  gathered : Bytes
  /-- The answers so far, in order. -/
  answers : List (Answer α)

namespace Dialogue

variable {α σ : Type}

/-- The dialogue behind a step or a run of its negotiation. -/
def moved (dialogue : Dialogue α) (phase : σ → Phase) : Move σ × Registry × Stream → Dialogue α
  | (.next state, registry, stream) => { dialogue with registry, stream, phase := phase state }
  | (.wait state, registry, stream) => { dialogue with registry, stream, phase := phase state }
  | (.finished (.error e), registry, stream) =>
    { dialogue with registry, stream, phase := .refused, negotiated := some (.error e) }
  | (.finished (.ok connection), registry, stream) =>
    { dialogue with
      registry, stream, phase := .connected connection, negotiated := some (.ok connection) }

/-- Negotiates as far as it goes. -/
def negotiate (suite : Suite) (dialogue : Dialogue α) : Dialogue α :=
  match dialogue.phase with
  | .dialing dialer => dialogue.moved .dialing (dialer.run suite dialogue.registry dialogue.stream)
  | .listening listener =>
    dialogue.moved .listening (listener.run suite dialogue.registry dialogue.stream)
  | .refused => dialogue
  | .connected _ => dialogue

/-- Answers asks one after the other until one has to wait; gives also the asks that are left. -/
def answerAll (suite : Suite) (gathered : Bytes) (connection : Connection) (stream : Stream) :
    List (Ask α) → List (Answer α) × List (Ask α) × Bytes × Connection × Stream
  | [] => ([], [], gathered, connection, stream)
  | ask :: asks =>
    match connection.answer suite gathered stream ask with
    | (none, rest) => ([], ask :: asks, rest)
    | (some answer, gathered, connection, stream) =>
      let (answers, rest) := answerAll suite gathered connection stream asks
      (answer :: answers, rest)

/-- Reads as far as it goes. A read that waits is abandoned. -/
def read (suite : Suite) (dialogue : Dialogue α) : Dialogue α :=
  match dialogue.phase with
  | .connected connection =>
    let (answers, asks, gathered, connection, stream) :=
      answerAll suite dialogue.gathered connection dialogue.stream dialogue.asks
    { dialogue with
      stream, phase := .connected connection, asks, gathered,
      answers := dialogue.answers ++ answers }
  | _ => dialogue

/-- Runs the dialogue as far as it goes. -/
def run (suite : Suite) (dialogue : Dialogue α) : Dialogue α :=
  (dialogue.negotiate suite).read suite

/-- Octets arrive. -/
def arrive (bytes : Bytes) (dialogue : Dialogue α) : Dialogue α :=
  { dialogue with stream := dialogue.stream.arrive bytes }

/-- The stream comes to its end. -/
def close (ending : Ending) (dialogue : Dialogue α) : Dialogue α :=
  { dialogue with stream := dialogue.stream.close ending }

/-- Lets octets arrive in pieces and runs the dialogue behind each of them, and at last behind the
end of the stream. What waits for octets is run again whenever there is another piece, also an empty
one. -/
def feed (suite : Suite) (ending : Ending) : List Bytes → Dialogue α → Dialogue α
  | [], dialogue => (dialogue.close ending).run suite
  | piece :: pieces, dialogue => feed suite ending pieces ((dialogue.arrive piece).run suite)

/-- How a dialogue begins. -/
inductive Start where
  /-- The dialogue dials. -/
  | dial (party : Party)
  /-- The dialogue accepts. -/
  | accept (party : Party)
  /-- There is a bare connection. -/
  | bare (address : Option Endpoint)
  /-- There is a secure connection. -/
  | secure (resolution : Resolution) (channel : Noise.Established) (address : Endpoint)

/-- The first phase. -/
def Start.phase : Start → Phase
  | dial party => .dialing (.new party)
  | accept party => .listening (.new party)
  | bare address => .connected (.bare address)
  | secure resolution channel address =>
    .connected (.negotiated .new resolution (some channel) address)

/-- A dialogue at its beginning. -/
def new (start : Start) (registry : Registry) (stream : Stream) (asks : List (Ask α)) :
    Dialogue α where
  registry := registry
  stream := stream
  phase := start.phase
  negotiated := none
  asks := asks
  gathered := []
  answers := []

/-- The buffers of the stream, if the dialogue still has it. -/
def Phase.wire? : Phase → Option Wire
  | dialing dialer => some dialer.wire
  | listening listener => some listener.wire
  | refused => none
  | connected connection => connection.wire

/-- The octets before a dialogue in a phase, read ahead or not. -/
def Phase.unread (phase : Phase) (stream : Stream) : Bytes :=
  (phase.wire?.map fun wire => wire.ahead stream).getD []

/-- What can be seen of a dialogue. -/
structure Report (α : Type) where
  /-- What the negotiation has come to, with the connection as it was then, but for the octets that
  were read ahead. -/
  negotiated : Option (Except NegotiationError Connection)
  /-- What was answered. -/
  answers : List (Answer α)
  /-- What was written, piece by piece, and whether the end was let go of. -/
  outbound : Pipe
  /-- What was registered. -/
  registry : Registry
  /-- The octets that are still to be read, of which any number may have been read ahead. -/
  unread : Bytes

/-- A connection without the octets that were read ahead. -/
def outward (connection : Connection) : Connection :=
  { connection with wire := connection.wire.map fun wire => { wire with readAhead := .empty } }

/-- What can be seen of the dialogue. -/
def report (dialogue : Dialogue α) : Report α where
  negotiated := dialogue.negotiated.map (Except.map outward)
  answers := dialogue.answers
  outbound := dialogue.stream.outbound
  registry := dialogue.registry
  unread := dialogue.phase.unread dialogue.stream

/-! ## Steps -/

/-- What a run of a side makes of its last step: a side whose negotiation fails lets go of the
stream. -/
def released : Move σ × Registry × Stream → Move σ × Registry × Stream
  | (.finished (.error e), registry, stream) => (.finished (.error e), registry, stream.release)
  | result => result

/-- What a step of the negotiation is for the dialogue. -/
def progress (dialogue : Dialogue α) (phase : σ → Phase) (result : Move σ × Registry × Stream) :
    Progress (Dialogue α) :=
  match result.1 with
  | .wait _ => .rests (dialogue.moved phase result)
  | _ => .goes (dialogue.moved phase (released result))

/-- What an ask is for the dialogue. -/
def answered (dialogue : Dialogue α) (ask : Ask α) (asks : List (Ask α)) :
    Option (Answer α) × Bytes × Connection × Stream → Progress (Dialogue α)
  | (none, gathered, connection, stream) =>
    .rests { dialogue with stream, phase := .connected connection, asks := ask :: asks, gathered }
  | (some answer, gathered, connection, stream) =>
    .goes { dialogue with
      stream, phase := .connected connection, asks, gathered,
      answers := dialogue.answers ++ [answer] }

/-- A step of a dialogue: one of the negotiation, or one ask. -/
def step (suite : Suite) (dialogue : Dialogue α) : Progress (Dialogue α) :=
  match dialogue.phase with
  | .dialing dialer =>
    dialogue.progress .dialing (dialer.step suite dialogue.registry dialogue.stream)
  | .listening listener =>
    dialogue.progress .listening (listener.step suite dialogue.registry dialogue.stream)
  | .refused => .rests dialogue
  | .connected connection =>
    match dialogue.asks with
    | [] => .rests dialogue
    | ask :: asks =>
      dialogue.answered ask asks
        (connection.answer suite dialogue.gathered dialogue.stream ask)

section

variable {suite : Suite} {dialogue : Dialogue α}

/-- A dialogue that dials takes a step of its dialer. -/
theorem step_dialing {dialer : Dialer} (dials : dialogue.phase = .dialing dialer) :
    dialogue.step suite =
      dialogue.progress .dialing (dialer.step suite dialogue.registry dialogue.stream) := by
  rw [step, dials]

/-- A dialogue that accepts takes a step of its listener. -/
theorem step_listening {listener : Listener} (listens : dialogue.phase = .listening listener) :
    dialogue.step suite =
      dialogue.progress .listening (listener.step suite dialogue.registry dialogue.stream) := by
  rw [step, listens]

/-- A dialogue whose negotiation has failed does nothing. -/
theorem step_refused (refused : dialogue.phase = .refused) :
    dialogue.step suite = .rests dialogue := by
  rw [step, refused]

/-- A dialogue that has nothing to ask for does nothing. -/
theorem step_connected_nil {connection : Connection}
    (connected : dialogue.phase = .connected connection) (nothing : dialogue.asks = []) :
    dialogue.step suite = .rests dialogue := by
  rw [step, connected]
  dsimp only
  rw [nothing]

/-- A dialogue that is connected asks. -/
theorem step_connected_cons {connection : Connection}
    (connected : dialogue.phase = .connected connection) {ask : Ask α} {asks : List (Ask α)}
    (some_ask : dialogue.asks = ask :: asks) :
    dialogue.step suite = dialogue.answered ask asks
      (connection.answer suite dialogue.gathered dialogue.stream ask) := by
  rw [step, connected]
  dsimp only
  rw [some_ask]

end

variable {suite : Suite}

/-- Reading is a run of steps. -/
theorem runs_read {connection : Connection} (dialogue : Dialogue α)
    (connected : dialogue.phase = .connected connection) :
    Runs (step suite) dialogue (dialogue.read suite) := by
  obtain ⟨registry, stream, phase, negotiated, asks, gathered, answers⟩ := dialogue
  obtain rfl : phase = .connected connection := connected
  induction asks generalizing stream connection gathered answers with
  | nil =>
    refine .rests ?_
    simp [step, read, answerAll]
  | cons ask asks ih =>
    rcases asked : connection.answer suite gathered stream ask with
      ⟨_ | answer, gathered', connection', stream'⟩
    · refine .rests ?_
      simp [step, read, answerAll, asked, answered]
    · -- The answer stands behind the ones before it.
      have runs := @ih connection' stream' gathered' (answers ++ [answer])
      refine .goes (by simp only [step, asked, answered]; rfl) ?_
      simpa [read, answerAll, asked] using runs

/-- Negotiating and reading on is a run of steps, if the run of a side is one of its steps. -/
theorem runs_negotiation {phase : σ → Phase} (rank : σ → Nat)
    (sideStep sideRun : Registry → σ → Stream → Move σ × Registry × Stream)
    (step_eq : ∀ (dialogue : Dialogue α) (state : σ), dialogue.phase = phase state →
      dialogue.step suite =
        dialogue.progress phase (sideStep dialogue.registry state dialogue.stream))
    (read_eq : ∀ (dialogue : Dialogue α) (state : σ), dialogue.phase = phase state →
      dialogue.read suite = dialogue)
    (run_eq : ∀ registry state stream, sideRun registry state stream =
      match sideStep registry state stream with
      | (.next state, registry, stream) => sideRun registry state stream
      | result => released result)
    (rank_lt : ∀ {registry state stream state' registry' stream'},
      sideStep registry state stream = (.next state', registry', stream') →
        rank state' < rank state)
    (dialogue : Dialogue α) (state : σ) (negotiates : dialogue.phase = phase state) :
    Runs (step suite) dialogue
      ((dialogue.moved phase (sideRun dialogue.registry state dialogue.stream)).read suite) := by
  -- A side that goes on is in a later phase, and the induction is on the phases that may follow.
  induction n : rank state using Nat.strongRecOn generalizing dialogue state with
  | _ n ih =>
    subst n
    have stepped := step_eq dialogue state negotiates
    rw [run_eq]
    rcases taken : sideStep dialogue.registry state dialogue.stream with
      ⟨state' | state' | result, registry, stream⟩
    · rw [taken] at stepped
      exact .goes stepped (ih _ (rank_lt taken) _ state' rfl rfl)
    · rw [taken] at stepped
      rw [read_eq _ state' rfl]
      exact .rests stepped
    · rw [taken] at stepped
      rcases result with e | connection
      · exact .goes stepped (.rests rfl)
      · exact .goes stepped (runs_read _ rfl)

/-- A run of a dialogue is a run of its steps. -/
theorem runs_run (dialogue : Dialogue α) : Runs (step suite) dialogue (dialogue.run suite) := by
  rw [run, negotiate]
  cases phase_eq : dialogue.phase with
  | dialing dialer =>
    refine runs_negotiation (·.phase.rank) (Dialer.step suite) (Dialer.run suite)
      (fun dialogue dialer dials => ?_) (fun dialogue dialer dials => ?_)
      (fun registry dialer stream => ?_) Dialer.rank_step_lt dialogue dialer phase_eq
    · exact step_dialing dials
    · rw [read, dials]
    · rw [Dialer.run_eq]
      rcases dialer.step suite registry stream with ⟨_ | _ | _ | _, _, _⟩ <;> rfl
  | listening listener =>
    refine runs_negotiation (·.phase.rank) (Listener.step suite) (Listener.run suite)
      (fun dialogue listener listens => ?_) (fun dialogue listener listens => ?_)
      (fun registry listener stream => ?_) Listener.rank_step_lt dialogue listener phase_eq
    · exact step_listening listens
    · rw [read, listens]
    · rw [Listener.run_eq]
      rcases listener.step suite registry stream with ⟨_ | _ | _ | _, _, _⟩ <;> rfl
  | refused =>
    refine .rests ?_
    rw [step_refused phase_eq, read, phase_eq]
  | connected connection => exact runs_read dialogue phase_eq

end Dialogue

end PeerLink
