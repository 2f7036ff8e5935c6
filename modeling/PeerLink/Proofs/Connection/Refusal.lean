import PeerLink.Proofs.Connection.Posting

/-!
# An object that is refused

An object that is too large for a frame is refused, and that is all that comes of it: nothing is
put on the stream, and of a secure connection no more is sealed than the octets that were pending
(`Connection.SealedUp`). What a writer is told afterwards depends on its standing alone, which the
refusal leaves as it is, so that everything but the calls of the reader comes to the same as without
the refused object (`Line.Alongside`). What goes out are then the octets of the same tokens,
whatever the reader asks for (`Line.Posts`), and a reader that mirrors the writer gets these tokens.
-/

namespace PeerLink

open SealedFrames

/-- A connection when the octets that are pending are sealed, in as few frames as possible, and
nothing else has happened to it. -/
inductive Connection.SealedUp (suite : Suite) : Connection → Connection → Prop
  /-- A bare connection seals nothing. -/
  | bare (connection : Connection) (bare : connection.isSecure = false) :
      SealedUp suite connection connection
  /-- The frames of the pending octets are to be written, and the half of the writer has gone on by
  as many places as there are frames. -/
  | secure (wire : Wire) (unwritten : Buffer) (layer : SecureLayer) (address : Option Endpoint)
      (resolution : Resolution)
      (octets : unwritten.toBytes = wire.unwritten.toBytes ++
        frames suite layer.sender (pieces layer.pending.toBytes)) :
      SealedUp suite ⟨some wire, .secure layer, address, resolution⟩
        ⟨some { wire with unwritten },
          .secure { layer with
            sender := layer.sender.after suite (pieces layer.pending.toBytes).length
            pending := .empty },
          address, resolution⟩

/-- An object that is too large puts nothing on the stream, and nothing of it is sealed. -/
theorem Connection.sealedUp_of_refused {suite : Suite} {object : Json} {connection : Connection}
    {stream : Stream} {size : Nat} {next : Connection} {rest : Stream}
    (refused : connection.writeObject suite object stream =
      (.error (.frameTooLarge size), next, rest)) :
    rest = stream ∧ connection.SealedUp suite next := by
  -- The error is not one of the stream.
  have no_flush {channel : Channel} {wire : Wire} : connection.flushWire channel wire stream ≠
      (.error (.frameTooLarge size), next, rest) := by
    intro flushed
    have outcome : (wire.flush stream).1.mapError ConnectionError.io = _ := congrArg (·.1) flushed
    generalize (wire.flush stream).1 = result at outcome
    cases result <;> simp [Except.mapError] at outcome
  obtain ⟨_ | wire, frames | layer, address, resolution⟩ := connection
  · simp [writeObject] at refused
  · simp [writeObject] at refused
  · unfold writeObject at refused
    dsimp only at refused
    split_ifs at refused
    · obtain ⟨-, rfl, rfl⟩ := refused
      exact ⟨rfl, .bare _ rfl⟩
    · exact absurd refused no_flush
  · unfold writeObject at refused
    dsimp only at refused
    split at refused
    · obtain ⟨-, rfl, rfl⟩ := refused
      obtain ⟨octets, half⟩ :=
        sealFrames_pieces suite layer.sender wire.unwritten layer.pending.toBytes
      have sealed := SealedUp.secure wire _ layer address resolution octets
      rw [← half] at sealed
      exact ⟨rfl, sealed⟩
    · exact absurd refused no_flush

namespace Line

variable {α : Type} {suite : Suite} {line line' : Line}

/-- Whether a move is one of the reader or of the network, on the way from the writer. -/
def Move.atReader : Move α → Bool
  | .forth (.read _) => true
  | .forth (.hold _) => true
  | _ => false

/-- Two lines at which the writer is told the same and both ends are the same to the other
direction. -/
structure Alongside (line line' : Line) : Prop where
  /-- The writer has the same standing. -/
  told : line.writer.standing line.link.dialing = line'.writer.standing line'.link.dialing
  /-- The writer reads alike. -/
  reads : line.writer.ReadsAlike line'.writer
  /-- The reader writes alike. -/
  writes : line'.reader.WritesAlike line.reader
  /-- The pipe to the writer is the same. -/
  back : line.link.back = line'.link.back

namespace Alongside

/-- Every line is alongside itself. -/
theorem refl (line : Line) : Alongside line line :=
  ⟨rfl, .refl _, .refl _, rfl⟩

/-- A call of the reader or the network on the way to it is no part of what lines have in
common. -/
theorem atReader (alongside : Alongside line line') {move : Move α}
    (at_reader : move.atReader = true) : Alongside (line.move suite move).2 line' := by
  match move, at_reader with
  | .forth (.read call), _ =>
    rcases called : line.reader.call suite call line.link.listening with ⟨answer, reader, stream⟩
    obtain ⟨writes, same⟩ := Connection.call_writesAlike called
    have intake : stream.inbound.intake = line.link.forth.intake := by
      have intake := Connection.intake_call suite call line.reader line.link.listening
      rwa [called] at intake
    show Alongside (line.happen suite (.read call)).2 line'
    simp only [Line.happen, called]
    refine ⟨?_, alongside.reads, ?_, same.trans alongside.back⟩
    · rw [← alongside.told]
      exact line.writer.standing_of_intake intake
    · exact alongside.writes.trans writes
  | .forth (.hold gate), _ =>
    exact ⟨alongside.told, alongside.reads, alongside.writes, alongside.back⟩

/-- Everything but the calls of the reader and the network on the way to it comes to the same on
lines alongside each other. -/
theorem move (alongside : Alongside line line') {move : Move α} (apart : move.atReader = false) :
    (line.move suite move).1 = (line'.move suite move).1 ∧
      Alongside (line.move suite move).2 (line'.move suite move).2 := by
  obtain ⟨told, reads, writes, back⟩ := alongside
  match move, apart with
  | .forth (.write call), _ =>
    have standing := Connection.write_standing suite call line.writer line.link.dialing
    have standing' := Connection.write_standing suite call line'.writer line'.link.dialing
    rw [told, standing'] at standing
    rcases written : line.writer.write suite call line.link.dialing with ⟨outcome, writer, stream⟩
    rcases written' : line'.writer.write suite call line'.link.dialing with
      ⟨outcome', writer', stream'⟩
    rw [written, written'] at standing
    obtain ⟨rfl, told'⟩ := Prod.mk.inj standing
    obtain ⟨reads', back'⟩ := reads.write written written' back
    show (line.happen suite (.write call)).1 = (line'.happen suite (.write call)).1 ∧
      Alongside (line.happen suite (.write call)).2 (line'.happen suite (.write call)).2
    rw [Line.happen, Line.happen, written, written']
    exact ⟨rfl, told'.symm, reads', writes, back'⟩
  | .back (.write call), _ =>
    rcases written' : line'.reader.write suite call line'.link.listening with
      ⟨outcome, reader', stream'⟩
    obtain ⟨reader, stream, written, same, writes'⟩ := writes.write written' line.link.forth
    rw [show Stream.mk line.link.forth line'.link.listening.outbound = line.link.listening from
      congrArg (Stream.mk _) back.symm] at written
    rw [move_back_write, move_back_write, written, written']
    refine ⟨rfl, ?_, reads, writes', same⟩
    show line.writer.standing (Link.ofListening stream).dialing =
      line'.writer.standing (Link.ofListening stream').dialing
    -- The reader lets go of the pipe on both lines, or on none.
    rcases writes.severs written' written with ⟨kept', kept⟩ | ⟨severed', severed⟩
    · have intake : stream.inbound.intake = line.link.forth.intake := congrArg Pipe.intake kept
      have intake' : stream'.inbound.intake = line'.link.forth.intake :=
        congrArg Pipe.intake kept'
      exact (line.writer.standing_of_intake intake).trans
        (told.trans (line'.writer.standing_of_intake intake').symm)
    · have behind : line.writer.standing (Link.ofListening stream).dialing =
          { line.writer.standing line.link.dialing with shut := true } :=
        line.writer.standing_of_sever severed
      have behind' : line'.writer.standing (Link.ofListening stream').dialing =
          { line'.writer.standing line'.link.dialing with shut := true } :=
        line'.writer.standing_of_sever severed'
      rw [behind, behind', told]
  | .back (.read call), _ =>
    rcases called : line.writer.call suite call line.link.dialing with ⟨answer, writer, stream⟩
    obtain ⟨writer', called', reads'⟩ := reads.call called line'.link.forth
    rw [show Stream.mk line.link.dialing.inbound line'.link.forth = line'.link.dialing from
      congrArg (Stream.mk · _) back] at called'
    obtain ⟨still, unwritten⟩ := Connection.call_writesAlike called
    obtain ⟨still', unwritten'⟩ := Connection.call_writesAlike called'
    rw [move_back_read, move_back_read, called, called']
    have told' := (still.standing_eq unwritten).trans
      (told.trans (still'.standing_eq unwritten').symm)
    exact ⟨rfl, told', reads', writes, rfl⟩
  | .back (.hold gate), _ =>
    exact ⟨rfl, told, reads, writes, congrArg (fun pipe => { pipe with gate }) back⟩

end Alongside

/-- What moves come to but for the calls of the reader and the network on the way to it. -/
def apart (trace : List (Move α × Report α)) : List (Move α × Report α) :=
  trace.filter fun step => !step.1.atReader

/-- What a move of the reader comes to is left out. -/
theorem apart_cons_atReader {move : Move α} (at_reader : move.atReader = true) (report : Report α)
    (steps : List (Move α × Report α)) : apart ((move, report) :: steps) = apart steps := by
  simp [apart, at_reader]

/-- What any other move comes to is kept. -/
theorem apart_cons {move : Move α} (at_reader : move.atReader = false) (report : Report α)
    (steps : List (Move α × Report α)) :
    apart ((move, report) :: steps) = (move, report) :: apart steps := by
  simp [apart, at_reader]

/-- On lines alongside each other everything comes to the same but the calls of the reader. -/
theorem Alongside.apart_trace (alongside : Alongside line line') (moves : List (Move α)) :
    apart (line.trace suite moves) =
      line'.trace suite (moves.filter fun move => !move.atReader) := by
  induction moves generalizing line line' with
  | nil => rfl
  | cons move moves ih =>
    rw [trace]
    cases at_reader : move.atReader with
    | true =>
      rw [apart_cons_atReader at_reader, ih (alongside.atReader at_reader),
        List.filter_cons_of_neg (by simp [at_reader])]
    | false =>
      obtain ⟨same, alongside'⟩ := @Alongside.move _ suite _ _ alongside move at_reader
      rw [apart_cons at_reader, ih alongside', List.filter_cons_of_pos (by simp [at_reader]), same]
      rfl

/-- A step adds to what is written for a reader, unless the reader closes its connection; the calls
of the reader add nothing. -/
theorem written_heard_cases (move : Move α) (report : Report α) :
    (∃ tokens, (move.atReader = true → tokens = []) ∧
        ∀ later, written (heard ((move, report) :: later)) = tokens ++ written (heard later)) ∨
      (move.atReader = false ∧ ∀ later, heard ((move, report) :: later) = []) := by
  by_cases close : move = .back (.write .close)
  · subst close
    exact .inr ⟨rfl, fun _ => rfl⟩
  · refine .inl ⟨move.added report, fun at_reader => ?_, written_heard_cons close report⟩
    match move, at_reader with
    | .forth (.read call), _ => rfl
    | .forth (.hold gate), _ => rfl

/-- What is written for a reader is not a matter of its calls. -/
theorem written_heard_apart (steps : List (Move α × Report α)) :
    written (heard (apart steps)) = written (heard steps) := by
  induction steps with
  | nil => rfl
  | cons step steps ih =>
    obtain ⟨move, report⟩ := step
    rcases written_heard_cases move report with ⟨tokens, nothing, adds⟩ | ⟨no_reader, ends⟩
    · rw [adds, ← ih]
      cases at_reader : move.atReader with
      | true =>
        rw [apart_cons_atReader at_reader, nothing at_reader]
        rfl
      | false => rw [apart_cons at_reader, adds]
    · rw [apart_cons no_reader, ends, ends]

/-- What is written for a reader behind some moves adds to what is written by them. -/
theorem written_heard_append (steps : List (Move α × Report α))
    {later later' : List (Move α × Report α)}
    (same : written (heard later) = written (heard later')) :
    written (heard (steps ++ later)) = written (heard (steps ++ later')) := by
  induction steps with
  | nil => exact same
  | cons step steps ih =>
    obtain ⟨move, report⟩ := step
    rw [List.cons_append, List.cons_append]
    rcases written_heard_cases move report with ⟨tokens, -, adds⟩ | ⟨-, ends⟩
    · rw [adds, adds, ih]
    · rw [ends, ends]

/-- A move that wants to write an object that is refused leaves a line alongside the one before. -/
theorem move_refused {object : Json} {size : Nat} {writer : Connection}
    (wrote : line.writer.writeObject suite object line.link.dialing =
      (.error (.frameTooLarge size), writer, line.link.dialing)) :
    line.move suite (.forth (.write (.object object)) : Move α) =
        (.wrote (.error (.frameTooLarge size)), { line with writer }) ∧
      Alongside { line with writer } line := by
  constructor
  · show line.happen suite (.write (.object object)) = _
    rw [happen, Connection.write, wrote]
    rfl
  · have standing := Connection.write_standing suite (.object object) line.writer line.link.dialing
    rw [Connection.write, wrote] at standing
    have no_close : WriteCall.object object ≠ .close := by simp
    have reads := (Connection.write_readsAlike no_close wrote).1
    exact ⟨Standing.eq_of_refused standing, reads.symm, .refl _, rfl⟩

/-- The reader closes its connection in both of two runs that differ only at the reader, or in
none. -/
theorem close_mem_iff {moves moves' : List (Move α)}
    (same : moves.filter (fun move => !move.atReader) =
      moves'.filter fun move => !move.atReader) :
    .back (.write .close) ∈ moves ↔ .back (.write .close) ∈ moves' := by
  have kept (moves : List (Move α)) : .back (.write .close) ∈ moves ↔
      .back (.write .close) ∈ moves.filter fun move => !move.atReader := by
    rw [List.mem_filter]
    exact ⟨fun mem => ⟨mem, rfl⟩, And.left⟩
  rw [kept moves, kept moves', same]

/-! ## The moves behind an object that is refused -/

/-- The moves `after` behind a call that wants to write an object are as the moves `after'` would be
without the call. -/
structure AsIfUnwritten (suite : Suite) (line : Line) (before : List (Move α)) (object : Json)
    (after after' : List (Move α)) : Prop where
  /-- Nothing is put on the stream. -/
  unsent : ((line.behind suite before).writer.writeObject suite object
    (line.behind suite before).link.dialing).2.2 = (line.behind suite before).link.dialing
  /-- At most what was pending is sealed, and no place of the half is taken for the object. -/
  unsealed : (line.behind suite before).writer.SealedUp suite
    ((line.behind suite before).writer.writeObject suite object
      (line.behind suite before).link.dialing).2.1
  /-- Whatever both ends do, they are told the same, but for the calls of the reader. -/
  told : apart ((line.behind suite (before ++ [.forth (.write (.object object))])).trace suite
    after) = apart ((line.behind suite before).trace suite after')
  /-- Whatever the reader asks for, until it closes its connection: what goes out are the octets of
  the same tokens in the same order. Of sealed frames only which octets share one may differ, and
  each is sealed at the next place of the half. -/
  posts : .back (.write .close) ∉ before ++ after → ∃ tokens,
    line.Posts suite tokens
      (line.behind suite (before ++ .forth (.write (.object object)) :: after)) ∧
    line.Posts suite tokens (line.behind suite (before ++ after'))
  /-- If the calls of the reader mirror the writer, it gets the same tokens in the same order, up to
  what it has not read yet. -/
  gets : Mirrors line.limit (.start line.link.forth.gate.isNone)
      (heard (line.trace suite (before ++ .forth (.write (.object object)) :: after))) →
    Mirrors line.limit (.start line.link.forth.gate.isNone)
      (heard (line.trace suite (before ++ after'))) →
    ∃ got left got' left',
      Hears line.limit (.start line.link.forth.gate.isNone)
        (heard (line.trace suite (before ++ .forth (.write (.object object)) :: after))) got left ∧
      Hears line.limit (.start line.link.forth.gate.isNone)
        (heard (line.trace suite (before ++ after'))) got' left' ∧
      got ++ left.tokens = got' ++ left'.tokens

/-- An object that is refused is as if it had never been written: whatever both ends did before and
do afterwards, nothing of it is on the stream or sealed, what goes out are the same octets and
objects in the same order, and the reader gets them. Only the reader's calls and what the network
holds back on the way to it may be others in the run without the object. -/
theorem refused_object_is_as_if_unwritten (opens : suite.Opens) (connected : line.Connected suite)
    (before after after' : List (Move α)) (object : Json) {size : Nat}
    (refused : ((line.behind suite before).writer.writeObject suite object
      (line.behind suite before).link.dialing).1 = .error (.frameTooLarge size))
    (same : after.filter (fun move => !move.atReader) =
      after'.filter fun move => !move.atReader) :
    AsIfUnwritten suite line before object after after' := by
  generalize here_eq : line.behind suite before = here at refused
  rcases wrote : here.writer.writeObject suite object here.link.dialing with
    ⟨outcome, writer, stream⟩
  obtain rfl : outcome = .error (.frameTooLarge size) := by
    rw [wrote] at refused
    exact refused
  obtain ⟨rfl, sealed⟩ := Connection.sealedUp_of_refused wrote
  obtain ⟨moved, alongside⟩ := @move_refused α _ _ _ _ _ wrote
  have told : apart (Line.trace suite after { here with writer }) =
      apart (here.trace suite after') := by
    rw [alongside.apart_trace, (Alongside.refl here).apart_trace, same]
  -- What is written behind the refused object is what is written without it.
  have same_tokens :
      written (heard (line.trace suite (before ++ .forth (.write (.object object)) :: after))) =
        written (heard (line.trace suite (before ++ after'))) := by
    rw [trace_append, trace_append, here_eq, trace, moved]
    refine written_heard_append _ ?_
    show written (heard (Line.trace suite after { here with writer })) = _
    rw [← written_heard_apart, told, written_heard_apart]
  constructor
  · rw [here_eq, wrote]
  · rw [here_eq, wrote]
    exact sealed
  · rw [behind_append, here_eq, behind, behind, moved]
    exact told
  · intro no_close
    have posts := connected.posts opens
    have no_close' : .back (.write .close) ∉ before ++ after' := by
      rw [List.mem_append, ← close_mem_iff same, ← List.mem_append]
      exact no_close
    refine ⟨_, posts.run _ (by simpa using no_close), ?_⟩
    rw [same_tokens]
    exact posts.run _ no_close'
  · intro mirrors mirrors'
    have carries := connected.carries opens
    obtain ⟨got, left, hears⟩ := carries.hears opens _ mirrors
    obtain ⟨got', left', hears'⟩ := carries.hears opens _ mirrors'
    refine ⟨got, left, got', left', hears, hears', ?_⟩
    rw [← hears.tokens, ← hears'.tokens, same_tokens]

/-- A string of 65517 characters is refused behind two octets that are not flushed, on the line of a
dialer and a listener that both have a secure channel. -/
theorem refused_object_is_as_if_unwritten_of_expecting :
    Suite.standard.Opens ∧ ∃ (line here : Line) (size : Nat), line.Connected .standard ∧
      line.behind .standard [(.forth (.write (.bytes [104, 105])) : Move String)] = here ∧
      (here.writer.writeObject .standard (.string (.ofList (.replicate 65517 'a')))
        here.link.dialing).1 = .error (.frameTooLarge size) ∧
      AsIfUnwritten .standard line [.forth (.write (.bytes [104, 105]))]
        (.string (.ofList (.replicate 65517 'a')))
        [.forth (.write .flush), .forth (.read (.bytes 1)), .forth (.read .byte)]
        [.forth (.write .flush), (.forth (.read (.bytes 2)) : Move String)] := by
  have opens := Suite.opens_standard
  obtain ⟨line, connected, secure⟩ := exists_connected_secure
  have limit : line.limit = 65517 := by rw [Line.limit, secure, if_pos rfl]
  have large : 65517 < (Json.string (.ofList (.replicate 65517 'a'))).encode.length := by
    have octets := Json.lt_length_tailOctets (.ofList (.replicate 65517 'a'))
    rw [String.toList_ofList, List.length_replicate] at octets
    rw [Json.encode_string, List.length_cons]
    omega
  -- The octets are written, and the string is refused.
  obtain ⟨mail, delivers, carries⟩ := (connected.carries opens).happen opens
    (.write (.bytes [104, 105]) : Event String) (by rintro call ⟨⟩)
  have opened : mail.closed = false := by
    generalize (line.happen .standard (.write (.bytes [104, 105]) : Event String)).1 = report
      at delivers
    cases delivers with
    | bytes bytes opened => exact opened
    | refused closed no_close => simp [Mail.start] at closed
  obtain ⟨outcome, mail', writer, stream, wrote, delivers, -⟩ :=
    @Carries.write String _ _ _ _ carries (.object (.string (.ofList (.replicate 65517 'a'))))
  rw [limit] at delivers
  obtain ⟨size, rfl⟩ : ∃ size, outcome = .error (.frameTooLarge size) := by
    cases delivers with
    | object _ _ acceptable => exact absurd large (Nat.not_lt.2 acceptable)
    | tooLarge => exact ⟨_, rfl⟩
    | refused closed no_close => simp [opened] at closed
  have refused := congrArg (·.1) wrote
  exact ⟨opens, line, _, _, connected, rfl, refused,
    refused_object_is_as_if_unwritten opens connected _ _ _ _ refused rfl⟩

end Line

end PeerLink
