import PeerLink.Proofs.Patience.Dialogue

/-!
# It does not matter how the octets arrive

`Dialogue.report_feed` says that whatever can be seen of a dialogue is the same for every way in
which the octets before it are split into pieces and into reads, and for every number of reads that
are abandoned and made again. Its steps are patient (`Dialogue.patient_step`): the ones of a
negotiation are, and so are the asks behind it. Hence its runs are, and the induction over the
pieces compares the dialogue at each piece with the one that has all later pieces before it at
once.
-/

namespace PeerLink.Dialogue

open Negotiation

variable {α σ : Type} {suite : Suite} {more : Bytes} {verge verge' : ReadResult}

/-- The second dialogue is in the same phase as the first one, and has more octets before it. -/
inductive Phase.Later (more : Bytes) (verge verge' : ReadResult) :
    Phase → Stream → Phase → Stream → Prop
  /-- Both dial. -/
  | dialing {dialer dialer' : Dialer} {stream stream' : Stream}
      (later : dialer.Later more verge verge' stream dialer' stream') :
      Later more verge verge' (.dialing dialer) stream (.dialing dialer') stream'
  /-- Both accept. -/
  | listening {listener listener' : Listener} {stream stream' : Stream}
      (later : listener.Later more verge verge' stream listener' stream') :
      Later more verge verge' (.listening listener) stream (.listening listener') stream'
  /-- Both negotiations have failed. -/
  | refused {stream stream' : Stream} (outbound : stream'.outbound = stream.outbound) :
      Later more verge verge' .refused stream .refused stream'
  /-- Both are connected. -/
  | connected {connection connection' : Connection} {stream stream' : Stream}
      (later : connection.Later more verge verge' stream connection' stream') :
      Later more verge verge' (.connected connection) stream (.connected connection') stream'

section

variable {phase phase' phase'' : Phase} {stream stream' stream'' : Stream}

/-- When octets arrive at the first dialogue there are fewer that only the second one has. -/
theorem Phase.Later.arrive {bytes : Bytes}
    (later : phase.Later (bytes ++ more) .wait verge' stream phase' stream') :
    phase.Later more .wait verge' (stream.arrive bytes) phase' stream' := by
  cases later with
  | dialing later => exact .dialing later.arrive
  | listening later => exact .listening later.arrive
  | refused outbound => exact .refused outbound
  | connected later => exact .connected later.arrive

/-- A dialogue that waits, and the same one when octets have arrived and the stream has come to its
end. -/
theorem Phase.Later.supply (later : phase.Later more .wait verge' stream phase' stream')
    (bytes : Bytes) (ending : Ending) :
    phase.Later bytes .wait ending.verge stream phase ((stream.arrive bytes).close ending) := by
  cases later with
  | dialing later => exact .dialing (later.supply bytes ending)
  | listening later => exact .listening (later.supply bytes ending)
  | refused outbound => exact .refused (by cases ending <;> rfl)
  | connected later => exact .connected (later.supply bytes ending)

/-- Two dialogues that have the same before them as a third one, and the same octets behind that,
have the same before them. -/
theorem Phase.Later.unique (later : phase.Later more verge verge' stream phase' stream')
    (later' : phase.Later more verge verge' stream phase'' stream'') :
    phase'.Later [] verge' verge' stream' phase'' stream'' := by
  cases later with
  | dialing later =>
    cases later' with
    | dialing later' => exact .dialing (later.unique later')
  | listening later =>
    cases later' with
    | listening later' => exact .listening (later.unique later')
  | refused outbound =>
    cases later' with
    | refused outbound' => exact .refused (outbound'.trans outbound.symm)
  | connected later =>
    cases later' with
    | connected later' => exact .connected (later.unique later')

/-- Both dialogues have written the same. -/
theorem Phase.Later.outbound (later : phase.Later more verge verge' stream phase' stream') :
    stream'.outbound = stream.outbound := by
  cases later with
  | dialing later => exact later.outbound
  | listening later => exact later.outbound
  | refused outbound => exact outbound
  | connected later => exact later.outbound

/-- Both dialogues have the same octets before them if the second one has no more. -/
theorem Phase.Later.unread (later : phase.Later [] verge verge' stream phase' stream') :
    phase'.unread stream' = phase.unread stream := by
  have octets {wire wire' : Wire} {stream stream' : Stream}
      (later : wire.Later [] verge verge' stream wire' stream') :
      wire'.ahead stream' = wire.ahead stream := by
    rw [later.octets, List.append_nil]
  cases later with
  | dialing later =>
    cases later with
    | intro party later => exact octets later
  | listening later =>
    cases later with
    | intro party later => exact octets later
  | refused => rfl
  | connected later =>
    cases later with
    | bare later => exact octets later
    | secure later => exact octets later

end

/-- Two dialogues have come to the same so far, and ask for the same. -/
structure Same (dialogue dialogue' : Dialogue α) : Prop where
  /-- What is asked for is the same. -/
  asks : dialogue'.asks = dialogue.asks
  /-- What was answered is the same. -/
  answers : dialogue'.answers = dialogue.answers
  /-- What was registered is the same. -/
  registry : dialogue'.registry = dialogue.registry
  /-- What was negotiated is the same, but for the octets that were read ahead. -/
  negotiated : dialogue'.negotiated.map (Except.map outward) =
    dialogue.negotiated.map (Except.map outward)

/-- The second dialogue is at the same point as the first one, and has more octets before it. -/
structure Later (more : Bytes) (verge verge' : ReadResult) (dialogue dialogue' : Dialogue α) : Prop
    extends Same dialogue dialogue' where
  /-- The phases are the same. -/
  phase : dialogue.phase.Later more verge verge' dialogue.stream dialogue'.phase dialogue'.stream
  /-- What was gathered is the same. -/
  gathered : dialogue'.gathered = dialogue.gathered

section

variable {dialogue dialogue' dialogue'' : Dialogue α}

/-- Two dialogues are the same if both are the same as a third one. -/
theorem Same.unique (same : Same dialogue dialogue') (same' : Same dialogue dialogue'') :
    Same dialogue' dialogue'' where
  asks := same'.asks.trans same.asks.symm
  answers := same'.answers.trans same.answers.symm
  registry := same'.registry.trans same.registry.symm
  negotiated := same'.negotiated.trans same.negotiated.symm

/-- When octets arrive at the first dialogue there are fewer that only the second one has. -/
theorem Later.arrive {bytes : Bytes}
    (later : Later (bytes ++ more) .wait verge' dialogue dialogue') :
    Later more .wait verge' (dialogue.arrive bytes) dialogue' where
  __ := later
  phase := later.phase.arrive

/-- A dialogue that waits, and the same one when octets have arrived and the stream has come to its
end. -/
theorem Later.supply (later : Later more .wait verge' dialogue dialogue') (bytes : Bytes)
    (ending : Ending) :
    Later bytes .wait ending.verge dialogue ((dialogue.arrive bytes).close ending) where
  phase := later.phase.supply bytes ending
  asks := rfl
  gathered := rfl
  answers := rfl
  registry := rfl
  negotiated := rfl

/-- Two dialogues that have the same before them as a third one, and the same octets behind that,
have the same before them. -/
theorem Later.unique (later : Later more verge verge' dialogue dialogue')
    (later' : Later more verge verge' dialogue dialogue'') :
    Later [] verge' verge' dialogue' dialogue'' where
  __ := later.toSame.unique later'.toSame
  phase := later.phase.unique later'.phase
  gathered := later'.gathered.trans later.gathered.symm

/-- What can be seen of two dialogues with the same octets before them is the same. -/
theorem Later.report (later : Later [] verge verge' dialogue dialogue') :
    dialogue'.report = dialogue.report := by
  simp only [Dialogue.report, later.negotiated, later.answers, later.registry, later.phase.outbound,
    later.phase.unread]

/-! ## Steps -/

/-- What two sides come to the same with is the same for their dialogues. -/
theorem Same.progress (same : Same dialogue dialogue')
    (gathered : dialogue'.gathered = dialogue.gathered) {phase : σ → Phase}
    {SideLater : σ → Stream → σ → Stream → Prop}
    (lifts : ∀ state stream state' stream', SideLater state stream state' stream' →
      (phase state).Later more verge verge' stream (phase state') stream')
    {result result' : Move σ × Registry × Stream}
    (leads : Leads SideLater more verge verge' result result') :
    Progress.Matches (Later more verge verge') (dialogue.progress phase result)
      (dialogue'.progress phase result') := by
  cases leads with
  | next registry side =>
    exact .goes { same with phase := lifts _ _ _ _ side, gathered, registry := rfl }
  | wait registry side =>
    exact .rests { same with phase := lifts _ _ _ _ side, gathered, registry := rfl }
  | failed registry e outbound =>
    have released : ∀ {stream stream' : Stream}, stream'.outbound = stream.outbound →
        stream'.release.outbound = stream.release.outbound := congrArg Pipe.finish
    exact .goes { same with
      phase := .refused (released outbound), gathered, registry := rfl, negotiated := rfl }
  | @connected wire wire' stream stream' registry side resolution channel endpoint =>
    have outward_eq : outward (.negotiated wire' resolution channel endpoint) =
        outward (.negotiated wire resolution channel endpoint) := by
      simp only [outward, Connection.negotiated, Option.map_some, side.unwritten]
    exact .goes { same with
      phase := .connected (Connection.later_negotiated side ..), gathered, registry := rfl,
      negotiated := congrArg (fun connection => some (Except.ok connection)) outward_eq }

/-- What two connections answer the same is the same for their dialogues. -/
theorem Same.answered (same : Same dialogue dialogue') {ask : Ask α} {asks : List (Ask α)}
    (result : Option (Answer α)) (gathered : Bytes)
    {connection connection' : Connection} {stream stream' : Stream}
    (connections : connection.Later more verge verge' stream connection' stream') :
    Progress.Matches (Later more verge verge')
      (dialogue.answered ask asks (result, gathered, connection, stream))
      (dialogue'.answered ask asks (result, gathered, connection', stream')) := by
  cases result with
  | none =>
    exact .rests { same with phase := .connected connections, asks := rfl, gathered := rfl }
  | some answer =>
    exact .goes { same with
      phase := .connected connections, asks := rfl, gathered := rfl,
      answers := congrArg (· ++ [answer]) same.answers }

/-- A dialogue rests in a step of its negotiation exactly if the side waits. -/
theorem progress_eq_rests {phase : σ → Phase} {result : Move σ × Registry × Stream}
    {rest : Dialogue α} :
    dialogue.progress phase result = .rests rest ↔ ∃ state, result.1 = .wait state ∧
      rest = { dialogue with
        registry := result.2.1, stream := result.2.2, phase := phase state } := by
  obtain ⟨move, registry, stream⟩ := result
  cases move with
  | next state => simp [Dialogue.progress]
  | wait state => simp [Dialogue.progress, moved, eq_comm]
  | finished result => simp [Dialogue.progress]

/-- A dialogue rests where it asks exactly if there is no answer yet. -/
theorem answered_eq_rests {ask : Ask α} {asks : List (Ask α)} {result : Option (Answer α)}
    {gathered : Bytes} {connection : Connection} {stream : Stream} {rest : Dialogue α} :
    dialogue.answered ask asks (result, gathered, connection, stream) = .rests rest ↔
      result = none ∧ rest = { dialogue with
        stream, phase := .connected connection, asks := ask :: asks, gathered } := by
  cases result with
  | none => simp [Dialogue.answered, eq_comm]
  | some answer => simp [Dialogue.answered]

end

/-- A side of a negotiation, as it stands in a dialogue: it does not matter to its steps when octets
arrive. -/
structure PatientSide (α : Type) (suite : Suite) (phase : σ → Phase)
    (sideStep : Registry → σ → Stream → Move σ × Registry × Stream)
    (SideLater : Bytes → ReadResult → ReadResult → σ → Stream → σ → Stream → Prop) : Prop where
  /-- A dialogue with the side takes a step of it. -/
  steps {dialogue : Dialogue α} {state : σ} (here : dialogue.phase = phase state) :
    dialogue.step suite =
      dialogue.progress phase (sideStep dialogue.registry state dialogue.stream)
  /-- What has more octets before it than the side is the same side. -/
  later_iff {more : Bytes} {verge verge' : ReadResult} {state : σ} {stream stream' : Stream}
    {phase' : Phase} : (phase state).Later more verge verge' stream phase' stream' ↔
      ∃ state', phase' = phase state' ∧ SideLater more verge verge' state stream state' stream'
  /-- A step that does not have to wait is the same if there are more octets. -/
  ready {more : Bytes} {verge verge' : ReadResult} {registry : Registry} {state state' : σ}
    {stream stream' : Stream} (later : SideLater more verge verge' state stream state' stream')
    (ready : (∀ state₁, (sideStep registry state stream).1 ≠ .wait state₁) ∨
      more = [] ∧ verge = verge') :
    Leads (SideLater more verge verge') more verge verge' (sideStep registry state stream)
      (sideStep registry state' stream')
  /-- A step that has waited is the one that has had all octets from the beginning. -/
  again {more : Bytes} {verge' : ReadResult} {registry registry' : Registry}
    {state state' state₁ state₂ : σ} {stream stream' stream₁ stream₂ : Stream}
    (later : SideLater more .wait verge' state stream state' stream')
    (waits : sideStep registry state stream = (.wait state₁, registry', stream₁))
    (later' : SideLater more .wait verge' state₁ stream₁ state₂ stream₂) :
    registry' = registry ∧ Leads (SideLater [] verge' verge') [] verge' verge'
      (sideStep registry state₂ stream₂) (sideStep registry state' stream')

/-- A dialer is patient. -/
theorem patientSide_dialing :
    PatientSide α suite .dialing (Dialer.step suite) (fun more verge verge' =>
      Dialer.Later more verge verge') where
  steps := step_dialing
  later_iff := by
    refine ⟨fun later => ?_, ?_⟩
    · cases later with
      | dialing side => exact ⟨_, rfl, side⟩
    · rintro ⟨dialer, rfl, side⟩
      exact .dialing side
  ready := Dialer.Later.ready
  again := Dialer.Later.again

/-- A listener is patient. -/
theorem patientSide_listening :
    PatientSide α suite .listening (Listener.step suite) (fun more verge verge' =>
      Listener.Later more verge verge') where
  steps := step_listening
  later_iff := by
    refine ⟨fun later => ?_, ?_⟩
    · cases later with
      | listening side => exact ⟨_, rfl, side⟩
    · rintro ⟨listener, rfl, side⟩
      exact .listening side
  ready := Listener.Later.ready
  again := Listener.Later.again

section

variable {dialogue dialogue' rest rest' : Dialogue α}

/-- A dialogue takes the step of a patient side also if there are more octets. -/
theorem PatientSide.step_ready {phase : σ → Phase}
    {sideStep : Registry → σ → Stream → Move σ × Registry × Stream}
    {SideLater : Bytes → ReadResult → ReadResult → σ → Stream → σ → Stream → Prop}
    (patient : PatientSide α suite phase sideStep SideLater)
    (later : Later more verge verge' dialogue dialogue') {state : σ}
    (negotiates : dialogue.phase = phase state)
    (ready : (∀ rest, dialogue.step suite ≠ .rests rest) ∨ more = [] ∧ verge = verge') :
    (dialogue.step suite).Matches (Later more verge verge') (dialogue'.step suite) := by
  obtain ⟨state', negotiates', side⟩ := patient.later_iff.1 (negotiates ▸ later.phase)
  rw [patient.steps negotiates] at ready ⊢
  rw [patient.steps negotiates', later.registry]
  have side_ready := ready.imp_left fun goes state₁ waits =>
    goes _ (progress_eq_rests.2 ⟨state₁, waits, rfl⟩)
  exact later.progress later.gathered
    (fun _ _ state₁ _ side => patient.later_iff.2 ⟨state₁, rfl, side⟩)
    (patient.ready side side_ready)

/-- A dialogue whose side has waited takes the step that the other dialogue takes at once. -/
theorem PatientSide.step_again {phase : σ → Phase}
    {sideStep : Registry → σ → Stream → Move σ × Registry × Stream}
    {SideLater : Bytes → ReadResult → ReadResult → σ → Stream → σ → Stream → Prop}
    (patient : PatientSide α suite phase sideStep SideLater)
    (later : Later more .wait verge' dialogue dialogue') {state : σ}
    (negotiates : dialogue.phase = phase state) (rests : dialogue.step suite = .rests rest)
    (later' : Later more .wait verge' rest rest') :
    (rest'.step suite).Matches (Later [] verge' verge') (dialogue'.step suite) := by
  obtain ⟨state', negotiates', side⟩ := patient.later_iff.1 (negotiates ▸ later.phase)
  rw [patient.steps negotiates] at rests
  rcases taken : sideStep dialogue.registry state dialogue.stream with ⟨move, registry, stream⟩
  rw [taken] at rests
  obtain ⟨state₁, rfl, rfl⟩ := progress_eq_rests.1 rests
  obtain ⟨state₂, negotiates₂, side'⟩ := patient.later_iff.1 later'.phase
  obtain ⟨rfl, leads⟩ := patient.again side taken side'
  -- Waiting has changed nothing but what was read ahead.
  have before : Same dialogue rest' :=
    ⟨later'.asks, later'.answers, later'.registry, later'.negotiated⟩
  rw [patient.steps negotiates', patient.steps negotiates₂, later'.registry, later.registry]
  exact (before.unique later.toSame).progress (later.gathered.trans later'.gathered.symm)
    (fun _ _ state₁ _ side => patient.later_iff.2 ⟨state₁, rfl, side⟩) leads

variable {connection connection' : Connection}

/-- A dialogue that asks gets the same answer if there are more octets. -/
theorem step_ready_connected (later : Later more verge verge' dialogue dialogue')
    (connected : dialogue.phase = .connected connection)
    (ready : (∀ rest, dialogue.step suite ≠ .rests rest) ∨ more = [] ∧ verge = verge') :
    (dialogue.step suite).Matches (Later more verge verge') (dialogue'.step suite) := by
  have phases := later.phase
  rw [connected] at phases
  generalize connected' : dialogue'.phase = phase' at phases
  obtain _ | _ | _ | connections := phases
  -- What is asked for is the same, and so is what was gathered for it.
  cases asks : dialogue.asks with
  | nil =>
    rw [step_connected_nil connected asks, step_connected_nil connected' (later.asks.trans asks)]
    exact .rests later
  | cons ask asks' =>
    rw [step_connected_cons connected asks] at ready ⊢
    rw [step_connected_cons connected' (later.asks.trans asks), later.gathered]
    rcases answered : connection.answer suite dialogue.gathered dialogue.stream ask with
      ⟨result, gathered, next, stream⟩
    rw [answered] at ready
    obtain ⟨next', stream', answered', later'⟩ := connections.answer answered
      (ready.imp_left fun goes waits => goes _ (answered_eq_rests.2 ⟨waits, rfl⟩))
    rw [answered']
    exact later.answered result gathered later'

/-- An ask that was abandoned gets the answer that the other dialogue gets at once. -/
theorem step_again_connected (later : Later more .wait verge' dialogue dialogue')
    (connected : dialogue.phase = .connected connection) (rests : dialogue.step suite = .rests rest)
    (later' : Later more .wait verge' rest rest') :
    (rest'.step suite).Matches (Later [] verge' verge') (dialogue'.step suite) := by
  have phases := later.phase
  rw [connected] at phases
  generalize connected' : dialogue'.phase = phase' at phases
  obtain _ | _ | _ | connections := phases
  have phases' := later'.phase
  generalize connected'' : rest'.phase = phase'' at phases'
  cases asks : dialogue.asks with
  | nil =>
    -- A dialogue that has nothing to ask for is where it was.
    rw [step_connected_nil connected asks] at rests
    cases rests
    rw [connected] at phases'
    obtain _ | _ | _ | connections' := phases'
    rw [step_connected_nil connected' (later.asks.trans asks),
      step_connected_nil connected'' (later'.asks.trans asks)]
    exact .rests (later'.unique later)
  | cons ask asks' =>
    rw [step_connected_cons connected asks] at rests
    rcases answered : connection.answer suite dialogue.gathered dialogue.stream ask with
      ⟨result, gathered, next, stream⟩
    rw [answered] at rests
    obtain ⟨rfl, rfl⟩ := answered_eq_rests.1 rests
    -- The ask is made again, with what was gathered for it.
    obtain _ | _ | _ | connections' := phases'
    obtain ⟨result, left, next₁, stream₁, next₂, stream₂, answered₁, answered₂, later₂⟩ :=
      connections.answer_again answered connections'
    have before : Same dialogue rest' :=
      ⟨later'.asks.trans asks.symm, later'.answers, later'.registry, later'.negotiated⟩
    rw [step_connected_cons connected' (later.asks.trans asks),
      step_connected_cons connected'' later'.asks, later.gathered, later'.gathered, answered₁,
      answered₂]
    exact (before.unique later.toSame).answered result left later₂

/-- Where a negotiation has failed there is nothing to read. -/
theorem step_refused_of_later (later : Later more verge verge' dialogue dialogue')
    (refused : dialogue.phase = .refused) : dialogue'.step suite = .rests dialogue' := by
  have phases := later.phase
  rw [refused] at phases
  generalize refused' : dialogue'.phase = phase' at phases
  cases phases with
  | refused => exact step_refused refused'

end

/-- It does not matter to the steps of a dialogue when octets arrive. -/
theorem patient_step : Patient Later (step suite : Dialogue α → Progress (Dialogue α)) where
  ready := by
    intro more verge verge' dialogue dialogue' later ready
    cases phase : dialogue.phase with
    | dialing dialer => exact patientSide_dialing.step_ready later phase ready
    | listening listener => exact patientSide_listening.step_ready later phase ready
    | refused =>
      rw [step_refused phase, step_refused_of_later later phase]
      exact .rests later
    | connected connection => exact step_ready_connected later phase ready
  again := by
    intro more verge' dialogue dialogue' rest rest' later rests later'
    cases phase : dialogue.phase with
    | dialing dialer => exact patientSide_dialing.step_again later phase rests later'
    | listening listener => exact patientSide_listening.step_again later phase rests later'
    | refused =>
      -- A dialogue that does nothing is where it was.
      rw [step_refused phase] at rests
      cases rests
      rw [step_refused_of_later later phase, step_refused_of_later later' phase]
      exact .rests (later'.unique later)
    | connected connection => exact step_again_connected later phase rests later'

/-! ## Runs -/

/-- Nothing arrives with no octets. -/
theorem arrive_nil (stream : Stream) : stream.arrive [] = stream := by
  have append_nil (buffer : Buffer) : buffer.append [] = buffer := by
    rw [Buffer.append]
    split_ifs with nothing
    · rw [Buffer.eq_empty nothing]
      rfl
    · rfl
  rw [Stream.arrive, Pipe.inject, append_nil]

/-- A dialogue at its beginning, over a stream that may be slow, and the same one over a stream at
which all octets have arrived. -/
theorem later_new (start : Start) (registry : Registry) (outbound : Pipe) (asks : List (Ask α))
    (pace : Nat → Option Nat) (bytes : Bytes) (ending : Ending) :
    Later bytes .wait ending.verge
      (new start registry ⟨{ Pipe.new with pace }, outbound⟩ asks)
      (((new start registry ⟨Pipe.new, outbound⟩ asks).arrive bytes).close ending) where
  asks := rfl
  answers := rfl
  registry := rfl
  negotiated := rfl
  gathered := rfl
  phase := by
    have wire := Wire.later_new outbound pace bytes ending
    cases start with
    | dial party => exact .dialing (.intro party wire (.refl _))
    | accept party => exact .listening (.intro _ wire (.refl _))
    | bare address => exact .connected (.bare wire ..)
    | secure resolution channel address =>
      exact .connected (Connection.later_negotiated wire resolution (some channel) address)

/-- A dialogue that was run waits, and more octets may arrive. -/
theorem Later.run {dialogue dialogue' : Dialogue α}
    (later : Later more .wait verge' dialogue dialogue') (suite : Suite) (bytes : Bytes)
    (ending : Ending) :
    Later bytes .wait ending.verge (dialogue.run suite)
      (((dialogue.run suite).arrive bytes).close ending) := by
  have still : Later [] .wait .wait dialogue ((dialogue.arrive []).close .silent) :=
    later.supply [] .silent
  obtain ⟨_, -, same⟩ := patient_step.alike still (@runs_run α suite dialogue)
  exact same.supply bytes ending

/-- A dialogue at which octets arrive in pieces comes to what the one comes to that has had all of
them from the beginning. -/
theorem report_feed_of_later {ending : Ending} {pieces : List Bytes} {dialogue whole : Dialogue α}
    (later : Later pieces.flatten .wait ending.verge dialogue whole) :
    (feed suite ending pieces dialogue).report = (whole.run suite).report := by
  induction pieces generalizing dialogue whole with
  | nil =>
    -- The end of the stream is all that the dialogue has waited for.
    have closed := later.supply [] ending
    rw [arrive, arrive_nil] at closed
    obtain ⟨whole', runs, same⟩ :=
      patient_step.alike (closed.unique later) (runs_run (dialogue.close ending))
    rw [(runs_run whole).unique runs] at same
    exact same.report.symm
  | cons piece pieces ih =>
    -- Behind the piece the dialogue is one at which the later pieces may arrive at once.
    have arrived : Later pieces.flatten .wait ending.verge (dialogue.arrive piece) whole :=
      later.arrive
    have next := arrived.run suite pieces.flatten ending
    obtain ⟨whole', runs, same⟩ := patient_step.resumed arrived (runs_run _) next (runs_run _)
    rw [(runs_run whole).unique runs] at same
    calc (feed suite ending (piece :: pieces) dialogue).report
      _ = (feed suite ending pieces ((dialogue.arrive piece).run suite)).report := rfl
      _ = (((((dialogue.arrive piece).run suite).arrive pieces.flatten).close ending).run
            suite).report := ih next
      _ = (whole.run suite).report := same.report.symm

/-- Two dialogues that have the same before them as a dialogue between them have the same before
them. -/
theorem Later.trans {dialogue dialogue' dialogue'' : Dialogue α}
    (later : Later [] .wait .wait dialogue dialogue')
    (later' : Later [] .wait .wait dialogue' dialogue'') :
    Later [] .wait .wait dialogue dialogue'' := by
  have same : Later [] .wait .wait dialogue dialogue := by
    have supplied := later.supply [] .silent
    rwa [Dialogue.arrive, arrive_nil] at supplied
  exact (later.unique same).unique later'

/-- A dialogue at which octets have arrived in pieces is where the one is that has had all of them
from the beginning. -/
theorem later_feed {pieces : List Bytes} {dialogue whole : Dialogue α}
    (later : Later pieces.flatten .wait .wait dialogue whole) :
    Later [] .wait .wait (feed suite .silent pieces dialogue) (whole.run suite) := by
  induction pieces generalizing dialogue whole with
  | nil =>
    obtain ⟨whole', runs, same⟩ := patient_step.alike later (runs_run dialogue)
    rw [(runs_run whole).unique runs] at same
    exact same
  | cons piece pieces ih =>
    have arrived : Later pieces.flatten .wait .wait (dialogue.arrive piece) whole := later.arrive
    have next := arrived.run suite pieces.flatten .silent
    obtain ⟨whole', runs, same⟩ := patient_step.resumed arrived (runs_run _) next (runs_run _)
    rw [(runs_run whole).unique runs] at same
    exact (ih next).trans same

/-- Whatever can be seen of a dialogue is the same for every way in which the octets before it are
split: into pieces, each of which is all there is until the next one arrives, and into reads, of
which the pace bounds each. All that waits for a piece is abandoned and made again. It comes to the
same as if all octets were there at once and each read gave as many as were asked for. -/
theorem report_feed (suite : Suite) (start : Start) (registry : Registry) (outbound : Pipe)
    (asks : List (Ask α)) (pace : Nat → Option Nat) (pieces : List Bytes) (ending : Ending) :
    (feed suite ending pieces
        (new start registry ⟨{ Pipe.new with pace }, outbound⟩ asks)).report =
      ((((new start registry ⟨Pipe.new, outbound⟩ asks).arrive pieces.flatten).close ending).run
        suite).report :=
  report_feed_of_later (later_new start registry outbound asks pace pieces.flatten ending)

end PeerLink.Dialogue
