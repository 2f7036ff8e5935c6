import PeerLink.Proofs.Peer.Answering

/-!
# A node serves what a line sends

The requests of a peer come over one direction of a line and the answers go back over the other one.
`serve_sends` says what becomes of both when the node serves the connection until it has to wait:
the texts that have arrived are answered in their order, each with one text, up to the first that is
no message, and the connection is closed behind the last one if the peer has ended its direction.
The induction is on the texts on their way, and each step of it is a round of `serve`.
-/

namespace PeerLink

/-- A pipe that can be flushed and ended. -/
structure Pipe.Firm (pipe : Pipe) : Prop where
  /-- What is written can be flushed. -/
  clogged : pipe.clogged = false
  /-- The end of the pipe can be announced. -/
  jammed : pipe.jammed = false

/-- An open pipe is firm. -/
theorem Pipe.Open.firm {pipe : Pipe} (opened : pipe.Open) : pipe.Firm :=
  ⟨opened.clogged, opened.jammed⟩

/-- Whether a pipe is firm is known to the writer. -/
theorem Pipe.Firm.of_intake {pipe pipe' : Pipe} (firm : pipe.Firm)
    (same : pipe'.intake = pipe.intake) : pipe'.Firm where
  clogged := (congrArg Pipe.Intake.clogged same).trans firm.clogged
  jammed := (congrArg Pipe.Intake.jammed same).trans firm.jammed

/-- A call of a writer leaves a pipe firm. -/
theorem Pipe.Firm.write {suite : Suite} {call : WriteCall} {connection next : Connection}
    {stream rest : Stream} {outcome : Except ConnectionError Unit}
    (firm : stream.outbound.Firm)
    (written : connection.write suite call stream = (outcome, next, rest)) :
    rest.outbound.Firm := by
  have clogged := connection.clogged_write suite call stream
  have jammed := connection.jammed_write suite call stream
  rw [written] at clogged jammed
  exact ⟨clogged.trans firm.clogged, jammed.trans firm.jammed⟩

/-- A connection that keeps nothing back is closed at once. -/
theorem Connection.close_of_idle {suite : Suite} {connection : Connection}
    (opened : connection.isClosed = false) (idle : connection.keeps = false) {stream : Stream}
    (firm : stream.outbound.Firm) :
    ∃ next, connection.close suite stream = (.ok (), next, stream.release) ∧
      next.isClosed = true := by
  obtain ⟨_ | wire, channel, address, resolution⟩ := connection
  · simp [isClosed] at opened
  · rw [keeps_eq suite, Bool.not_eq_eq_eq_not, Bool.not_false] at idle
    have flushed : stream.flush = .ok () := by
      rw [Stream.flush, Pipe.flush, firm.clogged]
      rfl
    have ended : stream.shutdown.1 = .ok () := by
      rw [Stream.shutdown, Pipe.shutdown, firm.jammed]
      rfl
    simp only [close, Wire.flush, if_pos idle, flushed, ended, Stream.release_shutdown]
    exact ⟨_, rfl, rfl⟩

/-- Closing a connection puts nothing on a stream if the connection keeps nothing back, or if the
stream has ended. -/
theorem Connection.outbound_of_close {suite : Suite} {connection : Connection} {stream : Stream}
    (opened : connection.isClosed = false)
    (settled : connection.keeps = false ∨ stream.outbound.ended = true) :
    (connection.close suite stream).2.2.outbound = stream.outbound.finish := by
  obtain ⟨_ | wire, channel, address, resolution⟩ := connection
  · simp [isClosed] at opened
  · -- What is kept back is refused.
    have same : ((Connection.sealPending suite wire channel).1.flush stream).2.2.outbound =
        stream.outbound := by
      rw [keeps_eq suite, Bool.not_eq_eq_eq_not, Bool.not_false] at settled
      rw [Wire.flush]
      split_ifs with nothing
      · rfl
      · have ended := settled.resolve_left nothing
        rw [Stream.write, Pipe.write, if_pos ended]
    simp only [close, Stream.release_shutdown]
    generalize (Connection.sealPending suite wire channel).1.flush stream = result at same
    obtain ⟨_ | _, wire', stream'⟩ := result
    all_goals exact congrArg Pipe.finish same

section Texts

variable {κ : Type} (stores : Nat → Peerstore κ)

/-- The texts of `count` answers, the first of them the one to the `first`-th request. -/
def answerTexts (first count : Nat) : List Bytes :=
  (List.range' first count).map fun i => (answerOf stores i).toJson.encode

/-- Behind an answer come the ones to the next requests. -/
theorem answerTexts_succ (first count : Nat) : answerTexts stores first (count + 1) =
    (answerOf stores first).toJson.encode :: answerTexts stores (first + 1) count := rfl

/-- The answers to requests are followed by the ones to the next requests. -/
theorem answerTexts_add (first m n : Nat) : answerTexts stores first (m + n) =
    answerTexts stores first m ++ answerTexts stores (first + m) n := by
  rw [answerTexts, answerTexts, answerTexts, ← List.map_append, List.range'_append_1]

end Texts

/-- How a node ends a run over `texts`, of which it has answered `count`. -/
inductive Verdict (suite : Suite) (limit : Nat) (texts : List Bytes) (ended free : Bool)
    (peer : Connection) (count : Nat) :
    Outcome ConnectionError Unit → Connection → Stream → Prop
  /-- It waits for the texts that are still on their way, and for more of them. If the network holds
  nothing back, none are on their way. -/
  | waiting {server : Connection} {stream : Stream} (idle : server.keeps = false)
      (asks : Line.Sends suite limit (texts.drop count) ended free
        ⟨peer, server, .ofListening stream⟩)
      (all : free = true → count = texts.length ∧ ended = false) :
      Verdict suite limit texts ended free peer count .waiting server stream
  /-- It closes the connection behind the last text. -/
  | closed {server : Connection} {stream : Stream} (all : count = texts.length)
      (is_ended : ended = true) (is_closed : server.isClosed = true) :
      Verdict suite limit texts ended free peer count (.done ()) server stream
  /-- It gives up the connection over a text that is no message. -/
  | fault {server : Connection} {stream : Stream} {bad : Bytes} {fault : Json.Fault}
      (next : texts[count]? = some bad) (decoded : Message.decoder.decode bad = .error fault) :
      Verdict suite limit texts ended free peer count (.failed (.codec fault)) server stream

/-- A node has run over `texts` and answered `count` of them, the first one as the `answered`-th
request, while `told` were on their way to the peer. If the peer is `gone`, nobody is told. -/
structure Serves {κ : Type} (suite : Suite) (stores : Nat → Peerstore κ) (limit : Nat)
    (texts told : List Bytes) (ended free heard gone : Bool) (line : Line)
    (answered count : Nat) (outcome : Outcome ConnectionError Unit) (server : Connection)
    (stream : Stream) : Prop where
  /-- There are enough texts. -/
  le : count ≤ texts.length
  /-- Each of the texts that are answered is a message. -/
  messages : ∀ text ∈ texts.take count, ∃ message, Message.decoder.decode text = .ok message
  /-- For each of them something is put on the stream once. -/
  sent : stream.outbound.sent.length = line.link.back.sent.length + count
  /-- The stream can still be flushed and ended. -/
  firm : stream.outbound.Firm
  /-- The answers follow what the peer is told already, and the direction ends with the run. -/
  tells : gone = false → Line.Sends suite limit (told ++ answerTexts stores answered count)
    (outcome != .waiting) heard ⟨server, line.writer, .ofDialing stream⟩
  /-- The run ends in one of three ways. -/
  verdict : Verdict suite limit texts ended free line.writer count outcome server stream

variable {κ : Type} {suite : Suite} {stores : Nat → Peerstore κ} {limit : Nat}
  {texts told : List Bytes} {ended free heard gone : Bool} {line : Line} {answered : Nat}

/-- A node that reads a frame keeps as much back as before, and puts nothing on the stream. -/
theorem kept_of_readFrame {outcome : Outcome ConnectionError (Option Bytes)} {server : Connection}
    {stream : Stream} (framed : line.reader.readFrame suite line.link.listening =
      (outcome, server, stream)) :
    server.keeps = line.reader.keeps ∧ stream.outbound = line.link.back := by
  obtain ⟨writes, same⟩ := Connection.readFrame_writesAlike framed
  have standing : server.standing stream = line.reader.standing line.link.listening :=
    writes.standing_eq same
  exact ⟨congrArg Standing.keeps standing, same⟩

/-- A round and a run behind it are a run. -/
theorem Serves.behind {text : Bytes} {rest : List Bytes} {message : Message} {count : Nat}
    {outcome : Outcome ConnectionError Unit} {server server' : Connection}
    {stream stream' stream'' : Stream}
    (serves : Serves suite stores limit rest (told ++ [(answerOf stores answered).toJson.encode])
      ended free heard gone ⟨line.writer, server, .ofListening stream'⟩ (answered + 1) count outcome
      server' stream'')
    (put : ∃ octets, stream'.outbound.sent = octets :: stream.outbound.sent)
    (sent : stream.outbound.sent = line.link.back.sent)
    (decoded : Message.decoder.decode text = .ok message) :
    Serves suite stores limit (text :: rest) told ended free heard gone line answered (count + 1)
      outcome server' stream'' where
  le := Nat.succ_le_succ serves.le
  messages := by
    intro text' mem
    rw [List.take_succ_cons, List.mem_cons] at mem
    rcases mem with rfl | mem
    · exact ⟨message, decoded⟩
    · exact serves.messages text' mem
  sent := by
    obtain ⟨octets, put⟩ := put
    have length : (Link.ofListening stream').back.sent.length = stream.outbound.sent.length + 1 :=
      congrArg List.length put
    rw [serves.sent, length, sent]
    omega
  firm := serves.firm
  tells here := by
    have tells := serves.tells here
    rw [List.append_assoc] at tells
    exact tells
  verdict := by
    cases serves.verdict with
    | waiting idle asks all =>
      exact .waiting idle asks fun is_free => ⟨congrArg (· + 1) (all is_free).1, (all is_free).2⟩
    | closed all is_ended is_closed => exact .closed (congrArg (· + 1) all) is_ended is_closed
    | fault next decoded => exact .fault next decoded

/-- A run that answers nothing. -/
theorem Serves.of_none {outcome : Outcome ConnectionError Unit} {server : Connection}
    {stream : Stream} (sent : stream.outbound.sent = line.link.back.sent)
    (firm : stream.outbound.Firm)
    (tells : gone = false → Line.Sends suite limit told (outcome != .waiting) heard
      ⟨server, line.writer, .ofDialing stream⟩)
    (verdict : Verdict suite limit texts ended free line.writer 0 outcome server stream) :
    Serves suite stores limit texts told ended free heard gone line answered 0 outcome server
      stream where
  le := Nat.zero_le _
  messages := by
    rw [List.take_zero]
    rintro text ⟨⟩
  sent := congrArg List.length sent
  firm := firm
  tells here := by
    rw [answerTexts, List.range'_zero, List.map_nil, List.append_nil]
    exact tells here
  verdict := verdict

/-- A node that has answered everything closes the connection if the peer has ended its direction,
and waits otherwise. -/
theorem serve_sends_nil (answered : Nat) (opens : suite.Opens)
    (asks : line.Sends suite limit [] ended free) (idle : line.reader.keeps = false)
    (firm : line.link.back.Firm)
    (tells : gone = false → line.turned.Sends suite limit told false heard) :
    ∃ outcome server stream,
      serve suite stores answered line.reader line.link.listening = (outcome, server, stream) ∧
      Serves suite stores limit [] told ended free heard gone line answered 0 outcome server
        stream := by
  obtain ⟨server, stream, framed, asks'⟩ := asks.readFrame_nil opens
  obtain ⟨same_keeps, same⟩ := kept_of_readFrame framed
  have sent : stream.outbound.sent = line.link.back.sent := congrArg Pipe.sent same
  rw [← same] at firm
  rw [idle] at same_keeps
  -- There is no request on its way: the node finds the end, or waits.
  cases ended with
  | true =>
    obtain ⟨closed, close, is_closed⟩ :=
      Connection.close_of_idle asks'.reader_opened same_keeps firm
    have read : line.reader.readObject suite Message.decoder line.link.listening =
        (.failed (.io (.unexpectedEof "connection closed by the remote peer")), server,
          stream) := by
      rw [Connection.readObject, framed]
      rfl
    have served := @serve_of_stop _ _ stores answered _ _ _ _ _ read
    rw [close] at served
    exact ⟨_, _, _, served,
      .of_none sent ⟨firm.clogged, firm.jammed⟩
        (fun here => ((tells here).behind_readFrame framed).finish closed _)
        (.closed rfl rfl is_closed)⟩
  | false =>
    have read : line.reader.readObject suite Message.decoder line.link.listening =
        (.waiting, server, stream) := by
      rw [Connection.readObject, framed]
      rfl
    exact ⟨_, _, _, serve_of_waiting read,
      .of_none sent firm (fun here => (tells here).behind_readFrame framed)
        (.waiting same_keeps asks' fun _ => ⟨rfl, rfl⟩)⟩

/-- A node answers the texts that arrive, in their order. -/
theorem serve_sends (answered : Nat) (opens : suite.Opens)
    (fits : ∀ i, (answerOf stores i).toJson.encode.length ≤ limit)
    (asks : line.Sends suite limit texts ended free) (idle : line.reader.keeps = false)
    (firm : line.link.back.Firm)
    (tells : gone = false → line.turned.Sends suite limit told false heard)
    (none_left : gone = true → texts = []) :
    ∃ count outcome server stream,
      serve suite stores answered line.reader line.link.listening = (outcome, server, stream) ∧
      Serves suite stores limit texts told ended free heard gone line answered count outcome server
        stream := by
  induction texts generalizing line told answered with
  | nil => exact ⟨0, serve_sends_nil answered opens asks idle firm tells⟩
  | cons text rest ih =>
    have here : gone = false := by
      by_contra gone_away
      rw [Bool.not_eq_false] at gone_away
      exact absurd (none_left gone_away) (by simp)
    obtain ⟨outcome, server, stream, framed, ⟨rfl, asks'⟩ | ⟨rfl, held, asks'⟩⟩ :=
      asks.readFrame_cons opens
    all_goals
      obtain ⟨same_keeps, same⟩ := kept_of_readFrame framed
      have sent : stream.outbound.sent = line.link.back.sent := congrArg Pipe.sent same
      rw [← same] at firm
      have tells' := (tells here).behind_readFrame framed
    · have read := @readObject_of_text _ _ _ _ _ _ Message.decoder _ framed
      cases decoded : Message.decoder.decode text with
      | error fault =>
        rw [decoded] at read
        exact ⟨0, _, _, _, serve_of_fault read,
          .of_none sent ⟨firm.clogged, firm.jammed⟩ (fun _ => tells'.finish server _)
            (.fault rfl decoded)⟩
      | ok message =>
        rw [decoded] at read
        -- The answer is written behind the ones on their way, and the next round begins.
        rcases tells'.writeText (answerOf stores answered).toJson.encode with
          ⟨-, server', stream', written, tells''⟩ | ⟨large, -⟩
        · have asks'' := asks'.behind_writeText written
          have called : server.write suite (.object (answerOf stores answered).toJson) stream =
            (.ok (), server', stream') := written
          obtain ⟨count, outcome, server'', stream'', served, serves⟩ :=
            @ih _ ⟨line.writer, server', .ofListening stream'⟩ (answered + 1) asks'' tells''.keeps
              (firm.write called) (fun _ => tells'') (by simp [here])
          exact ⟨count + 1, outcome, server'', stream'',
            (serve_of_request asks.valid read written).trans served,
            serves.behind (Connection.sent_of_writeObject written) sent decoded⟩
        · exact absurd (fits answered) (Nat.not_le.2 large)
    · -- The network holds the text back.
      have read : line.reader.readObject suite Message.decoder line.link.listening =
          (.waiting, server, stream) := by
        rw [Connection.readObject, framed]
      rw [idle] at same_keeps
      exact ⟨0, _, _, _, serve_of_waiting read,
        .of_none sent firm (fun _ => tells')
          (.waiting same_keeps asks' fun is_free => absurd (held.symm.trans is_free) (by simp))⟩

end PeerLink
