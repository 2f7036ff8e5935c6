import PeerLink.Proofs.Connection.Duplex
import PeerLink.Proofs.Connection.Standing

/-!
# Texts on their way

Peers that exchange messages write whole frames and flush each of them. `Line.Sends` is what a line
carries then: some texts, each in a frame, and behind them the end of the direction if the writer
has ended it. There is a lemma for each thing that may happen to the line: a text is written, a
frame is read, the direction ends, the network holds back what is on its way, and whatever happens
in the other direction. They say what the call comes to and what the line sends afterwards.
-/

namespace PeerLink

/-- A length that is remembered of a sealed frame is one that a frame may have. -/
def Connection.Valid (connection : Connection) : Prop :=
  match connection.channel with
  | .bare _ => True
  | .secure layer => SealedFrames.Valid layer.frames

namespace Line

variable {suite : Suite} {mail : Mail} {limit : Nat} {line : Line}

namespace Carries

/-- Both ends of a line have the same limit. -/
theorem limit_eq (carries : Carries suite mail limit line) :
    line.limit = limit ∧ line.turned.limit = limit := by
  cases carries with
  | bare bare =>
    cases bare
    exact ⟨rfl, rfl⟩
  | secure secure =>
    cases secure
    exact ⟨rfl, rfl⟩

/-- What a reader remembers of a frame is the length of one. -/
theorem valid (carries : Carries suite mail limit line) : line.reader.Valid := by
  cases carries with
  | bare bare =>
    cases bare
    trivial
  | secure secure =>
    cases secure with
    | intro parcels transit valid acceptable place tokens all_sealed => exact valid

/-- The reader has not closed its connection. -/
theorem reader_opened (carries : Carries suite mail limit line) :
    line.reader.isClosed = false := by
  cases carries with
  | bare bare =>
    cases bare
    rfl
  | secure secure =>
    cases secure
    rfl

/-- The pipe of a line ends when the writer has ended its direction. -/
theorem ended_eq (carries : Carries suite mail limit line) :
    line.link.forth.ended = mail.closed := by
  cases carries with
  | bare bare =>
    cases bare with
    | intro transit valid begun acceptable => exact transit.ended
  | secure secure =>
    cases secure with
    | intro parcels transit valid acceptable place tokens all_sealed => exact transit.ended

/-- The pipe of a line is open until then. -/
theorem opened (carries : Carries suite mail limit line) (not_closed : mail.closed = false) :
    line.link.forth.Open := by
  cases carries with
  | bare bare =>
    cases bare with
    | intro transit valid begun acceptable => exact transit.opened not_closed
  | secure secure =>
    cases secure with
    | intro parcels transit valid acceptable place tokens all_sealed =>
      exact transit.opened not_closed

/-- A writer keeps nothing back when everything is written. -/
theorem keeps (carries : Carries suite mail limit line) (flushed : mail.flushed = true) :
    line.writer.keeps = false := by
  cases carries with
  | bare bare =>
    cases bare with
    | @intro writer _ _ _ _ _ _ _ _ transit valid begun acceptable =>
      cases writer with
      | none => rfl
      | some wire =>
        have written := Buffer.isEmpty_iff.2 (transit.flushed flushed)
        simp only [Connection.keeps, written, Bool.not_true]
  | secure secure =>
    cases secure with
    | @intro writer _ layer _ _ _ _ _ _ parcels transit valid acceptable place tokens all_sealed =>
      cases writer with
      | none => rfl
      | some wire =>
        have written := Buffer.isEmpty_iff.2 (transit.flushed flushed)
        have sealed := Buffer.isEmpty_iff.2 (all_sealed flushed)
        simp only [Connection.keeps, written, sealed, Bool.and_true, Bool.not_true]

/-- The direction ends when a writer closes its connection, and the other direction has no part in
that. -/
theorem finish (carries : Carries suite mail limit line) (opened : mail.closed = false)
    (flushed : mail.flushed = true) (back : Pipe) :
    ∃ writer, Carries suite { mail with closed := true } limit
      ⟨writer, line.reader, ⟨line.link.forth.finish, back⟩⟩ := by
  cases carries with
  | bare bare =>
    have kept := bare
    cases bare with
    | intro transit valid begun acceptable =>
      rcases transit.writer_cases with ⟨closed, -⟩ | ⟨-, wire, rfl⟩
      · simp [opened] at closed
      · exact ⟨_, (Carries.bare (kept.closed flushed).2).alike (.refl _) (.refl _) back⟩
  | secure secure =>
    have kept := secure
    cases secure with
    | intro parcels transit valid acceptable place tokens all_sealed =>
      rcases transit.writer_cases with ⟨closed, -⟩ | ⟨-, wire, rfl⟩
      · simp [opened] at closed
      · exact ⟨_, (Carries.secure (kept.closed flushed).2).alike (.refl _) (.refl _) back⟩

end Carries

/-- A text that fits a frame is on its way once it is written, and one that is too large leaves what
is on its way as it is. -/
theorem Carries.writeText (carries : Carries suite mail limit line)
    (opened : mail.closed = false) (text : Bytes) :
    (text.length ≤ limit ∧ ∃ writer stream,
        line.writer.writeText suite text line.link.dialing = (.ok (), writer, stream) ∧
        Carries suite (mail.post text) limit { line with writer, link := .ofDialing stream }) ∨
      (limit < text.length ∧ ∃ writer,
        line.writer.writeText suite text line.link.dialing =
          (.error (.frameTooLarge text.length), writer, line.link.dialing) ∧
        Carries suite mail limit { line with writer }) := by
  cases carries with
  | bare bare =>
    have kept := bare
    cases bare with
    | intro transit valid begun acceptable =>
      rcases transit.writer_cases with ⟨closed, -⟩ | ⟨-, wire, rfl⟩
      · simp [opened] at closed
      · unfold Connection.writeText
        by_cases large : LengthPrefixed.maxSize < text.length
        · simp only [if_pos large]
          exact .inr ⟨large, _, rfl, .bare kept⟩
        · have small : text.length ≤ LengthPrefixed.maxSize := Nat.le_of_not_lt large
          obtain ⟨stream, flushed, bare⟩ := (kept.object_put small).all_flushed
          simp only [if_neg large, Connection.flushWire, flushed]
          exact .inl ⟨small, _, _, rfl, .bare bare⟩
  | secure secure =>
    have kept := secure
    cases secure with
    | @intro writer reader layer layer' _ _ _ _ link parcels transit valid acceptable place tokens
        all_sealed =>
      rcases transit.writer_cases with ⟨closed, -⟩ | ⟨-, wire, rfl⟩
      · simp [opened] at closed
      · -- What is pending is sealed in any case, also in front of a text that is too large.
        obtain ⟨none_pending, sealed⟩ := kept.sealPending
        unfold Connection.writeText
        dsimp only
        rw [SealedFrames.encode?_eq]
        by_cases small : text.length ≤ SealedFrames.maxPayload
        · obtain ⟨stream, flushed, secure⟩ :=
            (sealed.object_put none_pending small).all_flushed none_pending
          simp only [if_pos small, Connection.flushWire, flushed]
          exact .inl ⟨small, _, _, rfl, .secure secure⟩
        · simp only [if_neg small]
          exact .inr ⟨Nat.lt_of_not_le small, _, rfl, .secure sealed⟩

/-- Nothing that is on its way is held back where the network has no gate. -/
theorem Carries.freed (carries : Carries suite mail limit line)
    (no_gate : line.link.forth.gate = none) :
    Carries suite { mail with free := true } limit line := by
  have freed := carries.hold none
  obtain ⟨writer, reader, ⟨forth, back⟩⟩ := line
  obtain ⟨queue, sent, gate, ended, reset, broken, flips, pace, reads⟩ := forth
  obtain rfl : gate = none := no_gate
  exact freed

/-- A line carries texts, each in a frame that is written, and behind them the end of the direction
if it has `ended`. If it is `free`, the network holds nothing back. A writer that has ended its
direction may be a different one. -/
def Sends (suite : Suite) (limit : Nat) (texts : List Bytes) (ended free : Bool) (line : Line) :
    Prop :=
  ∃ writer, (ended = false → writer = line.writer) ∧
    Carries suite ⟨texts.map .object, true, ended, free⟩ limit ⟨writer, line.reader, line.link⟩

namespace Sends

variable {texts rest : List Bytes} {text : Bytes} {ended free : Bool}

/-- A line that carries nothing sends no texts. -/
theorem of_start (carries : Carries suite (.start free) limit line) :
    Sends suite limit [] false free line :=
  ⟨line.writer, fun _ => rfl, carries⟩

/-- The pipe of the line ends when the direction has ended. -/
theorem ended_eq (sends : Sends suite limit texts ended free line) :
    line.link.forth.ended = ended := by
  obtain ⟨writer, still, carries⟩ := sends
  exact carries.ended_eq

/-- What the reader remembers of a frame is the length of one. -/
theorem valid (sends : Sends suite limit texts ended free line) : line.reader.Valid := by
  obtain ⟨writer, still, carries⟩ := sends
  exact carries.valid

/-- The reader has not closed its connection. -/
theorem reader_opened (sends : Sends suite limit texts ended free line) :
    line.reader.isClosed = false := by
  obtain ⟨writer, still, carries⟩ := sends
  exact carries.reader_opened

/-- The writer keeps nothing back as long as the direction has not ended. -/
theorem keeps (sends : Sends suite limit texts false free line) : line.writer.keeps = false := by
  obtain ⟨_, still, carries⟩ := sends
  obtain rfl := still rfl
  exact carries.keeps rfl

/-- Nothing is held back where the network has no gate. -/
theorem freed (sends : Sends suite limit texts ended free line) :
    ∃ free, (line.link.forth.gate = none → free = true) ∧
      Sends suite limit texts ended free line := by
  by_cases no_gate : line.link.forth.gate = none
  · obtain ⟨writer, still, carries⟩ := sends
    exact ⟨true, fun _ => rfl, writer, still, carries.freed no_gate⟩
  · exact ⟨free, fun none => absurd none no_gate, sends⟩

/-- A text is written behind the others, or it is too large. -/
theorem writeText (sends : Sends suite limit texts false free line) (text : Bytes) :
    (text.length ≤ limit ∧ ∃ writer stream,
        line.writer.writeText suite text line.link.dialing = (.ok (), writer, stream) ∧
        Sends suite limit (texts ++ [text]) false free
          { line with writer, link := .ofDialing stream }) ∨
      (limit < text.length ∧ ∃ writer,
        line.writer.writeText suite text line.link.dialing =
          (.error (.frameTooLarge text.length), writer, line.link.dialing) ∧
        Sends suite limit texts false free { line with writer }) := by
  obtain ⟨_, still, carries⟩ := sends
  obtain rfl := still rfl
  rcases carries.writeText rfl text with ⟨small, writer, stream, written, carries'⟩ |
    ⟨large, writer, written, carries'⟩
  · refine .inl ⟨small, writer, stream, written, writer, fun _ => rfl, ?_⟩
    rw [List.map_append]
    exact carries'
  · exact .inr ⟨large, writer, written, writer, fun _ => rfl, carries'⟩

/-- Behind the last text a reader finds the end of the direction, or waits. -/
theorem readFrame_nil (opens : suite.Opens) (sends : Sends suite limit [] ended free line) :
    ∃ reader stream, line.reader.readFrame suite line.link.listening =
        (if ended then .done none else .waiting, reader, stream) ∧
      Sends suite limit [] ended free { line with reader, link := .ofListening stream } := by
  obtain ⟨writer, still, carries⟩ := sends
  obtain ⟨outcome, mail', reader, stream, read, gets, carries'⟩ :=
    carries.readFrame opens (by rintro octet rest ⟨⟩)
  cases gets with
  | object tokens => simp at tokens
  | stop nothing closed =>
    obtain rfl : ended = true := closed
    exact ⟨reader, stream, read, writer, still, carries'⟩
  | waiting waits =>
    obtain rfl : ended = false := by
      rcases waits with ⟨-, opened⟩ | ⟨some_left, -⟩
      · exact opened
      · simp at some_left
    exact ⟨reader, stream, read, writer, still, carries'⟩

/-- A reader gets the first text, or waits for it if the network holds it back. -/
theorem readFrame_cons (opens : suite.Opens)
    (sends : Sends suite limit (text :: rest) ended free line) :
    ∃ outcome reader stream, line.reader.readFrame suite line.link.listening =
        (outcome, reader, stream) ∧
      ((outcome = .done (some text) ∧ Sends suite limit rest ended free
          { line with reader, link := .ofListening stream }) ∨
        (outcome = .waiting ∧ free = false ∧ Sends suite limit (text :: rest) ended free
          { line with reader, link := .ofListening stream })) := by
  obtain ⟨writer, still, carries⟩ := sends
  obtain ⟨outcome, mail', reader, stream, read, gets, carries'⟩ :=
    carries.readFrame opens (by rintro octet rest ⟨⟩)
  refine ⟨outcome, reader, stream, read, ?_⟩
  cases gets with
  | object tokens =>
    obtain ⟨same, same_rest⟩ := List.cons.inj tokens
    obtain rfl := Token.object.inj same
    rw [← same_rest] at carries'
    exact .inl ⟨rfl, writer, still, carries'⟩
  | stop nothing closed => simp at nothing
  | waiting waits =>
    refine .inr ⟨rfl, ?_, writer, still, carries'⟩
    rcases waits with ⟨nothing, -⟩ | ⟨-, unflushed | not_free⟩
    · simp at nothing
    · simp at unflushed
    · exact not_free

/-- The direction ends, whatever becomes of the writer and of the other direction. -/
theorem finish (sends : Sends suite limit texts ended free line) (writer : Connection)
    (back : Pipe) :
    Sends suite limit texts true free
      ⟨writer, line.reader, ⟨line.link.forth.finish, back⟩⟩ := by
  obtain ⟨writer', still, carries⟩ := sends
  cases ended with
  | false =>
    obtain ⟨writer'', finished⟩ := carries.finish rfl rfl back
    exact ⟨writer'', by simp, finished⟩
  | true =>
    -- The direction has ended before.
    have same : line.link.forth.finish = line.link.forth := by
      have ended := carries.ended_eq
      rw [Pipe.finish, ← show line.link.forth.ended = true from ended]
    rw [same]
    exact ⟨writer', by simp, carries.alike (.refl _) (.refl _) back⟩

/-- The other direction has no part in the texts. -/
theorem alike (sends : Sends suite limit texts ended free line) {writer reader : Connection}
    (writes : ended = false → line.writer.WritesAlike writer)
    (reads : line.reader.ReadsAlike reader) (back : Pipe) :
    Sends suite limit texts ended free ⟨writer, reader, ⟨line.link.forth, back⟩⟩ := by
  obtain ⟨writer', still, carries⟩ := sends
  cases ended with
  | true => exact ⟨writer', by simp, carries.alike (.refl _) reads back⟩
  | false =>
    obtain rfl := still rfl
    exact ⟨writer, fun _ => rfl, carries.alike (writes rfl) reads back⟩

/-- What is read at the end of a line has no part in what is sent from there. -/
theorem behind_readFrame (sends : line.turned.Sends suite limit texts ended free)
    {outcome : Outcome ConnectionError (Option Bytes)} {reader : Connection} {stream : Stream}
    (framed : line.reader.readFrame suite line.link.listening = (outcome, reader, stream)) :
    Sends suite limit texts ended free ⟨reader, line.writer, .ofDialing stream⟩ := by
  obtain ⟨writes, same⟩ := Connection.readFrame_writesAlike framed
  have alike := sends.alike (fun _ => writes) (.refl _) stream.inbound
  rw [show line.turned.link.forth = stream.outbound from same.symm] at alike
  exact alike

/-- What is written at the beginning of a line has no part in what is sent to there. -/
theorem behind_writeText (sends : line.turned.Sends suite limit texts ended free)
    {outcome : Except ConnectionError Unit} {writer : Connection} {stream : Stream}
    (written : line.writer.writeText suite text line.link.dialing = (outcome, writer, stream)) :
    Sends suite limit texts ended free ⟨line.reader, writer, .ofListening stream⟩ := by
  obtain ⟨reads, same⟩ := Connection.writeText_readsAlike written
  have alike := sends.alike (fun _ => .refl _) reads stream.outbound
  rw [show line.turned.link.forth = stream.inbound from same.symm] at alike
  exact alike

/-- The network holds octets back, or lets all of them through. -/
theorem hold (sends : Sends suite limit texts ended free line) (gate : Option Nat) :
    Sends suite limit texts ended gate.isNone
      ⟨line.writer, line.reader, { line.link with forth := { line.link.forth with gate } }⟩ := by
  obtain ⟨writer, still, carries⟩ := sends
  exact ⟨writer, still, carries.hold gate⟩

end Sends

end Line

end PeerLink
