import PeerLink.Proofs.Connection.Delivery
import PeerLink.Proofs.Peer.Serving
import PeerLink.Proofs.Peer.Store

/-!
# Every request is answered, in order

A `Service` is a node that serves a connection, the peer at its other end, and what both of them
have done so far. Anything may happen to it in any order: the peer writes a frame with any text,
asks for addresses, goes on waiting for an answer, ends its direction or leaves; the node serves the
connection as far as it can; the network holds octets back in either direction. `Service.Sound` is
the invariant: the requests that are not answered are on their way to the node, and the answers that
are not received are on their way to the peer. `Service.InOrder` is what follows from it.
-/

namespace PeerLink

/-- Waits for the answer to a request that was sent. -/
def awaitPeers (suite : Suite) (connection : Connection) (stream : Stream) :
    Outcome RequestError (List PeerAddress) × Connection × Stream :=
  let (outcome, connection, stream) := connection.readObject suite Message.decoder stream
  ((outcome.map Message.peerAddresses).mapError .receive, connection, stream)

/-- A request for the peers of a peer is sent, and then the answer is waited for. -/
theorem requestPeers_eq (suite : Suite) (connection : Connection) (stream : Stream) :
    requestPeers suite connection stream =
      match connection.writeText suite Message.request.toJson.encode stream with
      | (.error cause, connection, stream) => (.failed (.send cause), connection, stream)
      | (.ok (), connection, stream) => awaitPeers suite connection stream := rfl

/-- A node that serves a connection, and the peer at the other end. -/
structure Service where
  /-- The line from the peer to the node. -/
  line : Line
  /-- Whether the peer has ended its direction. -/
  ended : Bool
  /-- The texts that the peer has sent, each in a frame, the first one first. -/
  sent : List Bytes
  /-- The lists of addresses that the peer has received, the first one first. -/
  received : List (List PeerAddress)
  /-- The number of times that the node has put something on the stream. -/
  answered : Nat
  /-- What serving the connection has come to, if it is over. -/
  result : Option (Except ConnectionError Unit)

namespace Service

/-- What may happen to a service. -/
inductive Event where
  /-- The peer writes a text in a frame, and does not wait for an answer. -/
  | frame (text : Bytes)
  /-- The peer asks for addresses. -/
  | request
  /-- The peer goes on waiting for an answer. -/
  | await
  /-- The node serves the connection until it has to wait. -/
  | serve
  /-- The peer ends its direction. -/
  | finish
  /-- The peer closes its connection when it has got an answer to everything. -/
  | leave
  /-- The network lets through so many octets in the two directions, and holds back the others. -/
  | hold (forth back : Option Nat)

/-- A service before anything has happened. -/
def start (line : Line) : Service where
  line := line
  ended := false
  sent := []
  received := []
  answered := 0
  result := none

/-- The service behind a call of the peer. -/
def atPeer (service : Service) (peer : Connection) (stream : Stream) : Service :=
  { service with line := { service.line with writer := peer, link := .ofDialing stream } }

/-- The service when the peer has written a text in a frame. Nothing is written in a direction that
has ended. -/
def frame (suite : Suite) (text : Bytes) (service : Service) : Service :=
  if service.ended then service
  else
    match service.line.writer.writeText suite text service.line.link.dialing with
    | (.error _, peer, stream) => service.atPeer peer stream
    | (.ok (), peer, stream) =>
      { service.atPeer peer stream with sent := service.sent ++ [text] }

/-- The service when the peer has waited for an answer. -/
def await (suite : Suite) (service : Service) : Service :=
  match awaitPeers suite service.line.writer service.line.link.dialing with
  | (.done addresses, peer, stream) =>
    { service.atPeer peer stream with received := service.received ++ [addresses] }
  | (_, peer, stream) => service.atPeer peer stream

/-- The service when the peer has asked for addresses. -/
def request (suite : Suite) (service : Service) : Service :=
  if service.ended then service
  else
    match requestPeers suite service.line.writer service.line.link.dialing with
    | (.failed (.send _), peer, stream) => service.atPeer peer stream
    | (.done addresses, peer, stream) =>
      { service.atPeer peer stream with
        sent := service.sent ++ [Message.request.toJson.encode]
        received := service.received ++ [addresses] }
    | (_, peer, stream) =>
      { service.atPeer peer stream with
        sent := service.sent ++ [Message.request.toJson.encode] }

/-- What serving a connection has come to, if the node does not wait. -/
def resultOf : Outcome ConnectionError Unit → Option (Except ConnectionError Unit)
  | .done () => some (.ok ())
  | .failed e => some (.error e)
  | .waiting => none

/-- The service when the node has served the connection. -/
def serve {κ : Type} (suite : Suite) (stores : Nat → Peerstore κ) (service : Service) : Service :=
  match service.result with
  | some _ => service
  | none =>
    let (outcome, node, stream) := PeerLink.serve suite stores service.answered service.line.reader
      service.line.link.listening
    { service with
      line := { service.line with reader := node, link := .ofListening stream }
      answered := service.answered +
        (stream.outbound.sent.length - service.line.link.back.sent.length)
      result := resultOf outcome }

/-- The service when the peer has ended its direction. -/
def finish (service : Service) : Service :=
  { service with
    line := { service.line with
      link := { service.line.link with forth := service.line.link.forth.finish } }
    ended := true }

/-- The service when the peer has closed its connection. -/
def leave (suite : Suite) (service : Service) : Service :=
  if service.received.length = service.sent.length then
    let (_, peer, stream) := service.line.writer.close suite service.line.link.dialing
    { service.atPeer peer stream with ended := true }
  else service

/-- The service when the network holds octets back, or no longer does so. -/
def hold (forth back : Option Nat) (service : Service) : Service :=
  { service with
    line := { service.line with
      link :=
        ⟨{ service.line.link.forth with gate := forth },
          { service.line.link.back with gate := back }⟩ } }

variable {κ : Type}

/-- The service behind an event. -/
def happen (suite : Suite) (stores : Nat → Peerstore κ) (service : Service) : Event → Service
  | .frame text => service.frame suite text
  | .request => service.request suite
  | .await => service.await suite
  | .serve => service.serve suite stores
  | .finish => service.finish
  | .leave => service.leave suite
  | .hold forth back => service.hold forth back

/-- The service behind events. -/
def run (suite : Suite) (stores : Nat → Peerstore κ) (service : Service) (events : List Event) :
    Service :=
  events.foldl (happen suite stores) service

/-- A peer that waits behind a call of its own. -/
theorem await_atPeer (suite : Suite) (service : Service) (sent : List Bytes) (peer : Connection)
    (stream : Stream) :
    ({ service.atPeer peer stream with sent } : Service).await suite =
      match awaitPeers suite peer stream with
      | (.done addresses, peer, stream) =>
        { service.atPeer peer stream with sent, received := service.received ++ [addresses] }
      | (_, peer, stream) => { service.atPeer peer stream with sent } := by
  show (match awaitPeers suite peer stream with
    | (.done addresses, peer, stream) => _
    | (_, peer, stream) => _ : Service) = _
  rcases awaitPeers suite peer stream with ⟨_ | _ | _, peer', stream'⟩ <;> rfl

/-- A request is a frame, and if it can be written, a wait for the answer. -/
theorem request_eq (suite : Suite) (service : Service) :
    service.request suite = service.frame suite Message.request.toJson.encode ∨
      service.request suite =
        (service.frame suite Message.request.toJson.encode).await suite := by
  by_cases ended : service.ended = true
  · exact .inl (by rw [request, frame, if_pos ended, if_pos ended])
  · rw [request, frame, if_neg ended, if_neg ended, requestPeers_eq]
    rcases service.line.writer.writeText suite Message.request.toJson.encode
      service.line.link.dialing with ⟨_ | ⟨⟩, peer, stream⟩
    · exact .inl rfl
    · refine .inr ?_
      dsimp only
      rw [await_atPeer]
      unfold awaitPeers
      rcases peer.readObject suite Message.decoder stream with ⟨_ | _ | _, peer', stream'⟩ <;> rfl

section Calls

variable {suite : Suite} {service : Service}

/-- A peer that has left waits for nothing. -/
theorem await_of_closed (suite : Suite) (service : Service)
    (left : service.line.writer.isClosed = true) : service.await suite = service := by
  have none_left : service.line.writer.wire = none := Option.isNone_iff_eq_none.1 left
  have nothing : awaitPeers suite service.line.writer service.line.link.dialing =
      (.failed (.receive .closed), service.line.writer, service.line.link.dialing) := by
    simp only [awaitPeers, Connection.readObject, Connection.readFrame, none_left]
    rfl
  rw [await, nothing]
  rfl

/-- A peer that does not get a text receives nothing. -/
theorem await_of_nothing {outcome : Outcome ConnectionError (Option Bytes)} {peer : Connection}
    {stream : Stream} (framed : service.line.writer.readFrame suite service.line.link.dialing =
      (outcome, peer, stream)) (no_text : ∀ text, outcome ≠ .done (some text)) :
    service.await suite = service.atPeer peer stream := by
  rw [await, awaitPeers, Connection.readObject, framed]
  rcases outcome with (_ | text) | _ | _
  · rfl
  · exact absurd rfl (no_text text)
  · rfl
  · rfl

/-- A peer that gets the text of an answer receives its addresses. -/
theorem await_of_answer {stores : Nat → Peerstore κ} {i : Nat} {peer : Connection}
    {stream : Stream} (framed : service.line.writer.readFrame suite service.line.link.dialing =
      (.done (some (answerOf stores i).toJson.encode), peer, stream)) :
    service.await suite = { service.atPeer peer stream with
      received := service.received ++ [(stores i).addresses] } := by
  rw [await, awaitPeers, readObject_of_text framed, Message.decode_encode]
  rfl

/-- The service behind a run of the node that has answered `count` requests. -/
def behindRun (service : Service) (count : Nat) (outcome : Outcome ConnectionError Unit)
    (node : Connection) (stream : Stream) : Service :=
  { service with
    line := { service.line with reader := node, link := .ofListening stream }
    answered := service.answered + count
    result := resultOf outcome }

/-- A node that serves the connection has answered as often as it has put something on the
stream. -/
theorem serve_eq {stores : Nat → Peerstore κ} (serving : service.result = none) {count : Nat}
    {outcome : Outcome ConnectionError Unit} {node : Connection} {stream : Stream}
    (served : PeerLink.serve suite stores service.answered service.line.reader
      service.line.link.listening = (outcome, node, stream))
    (sent : stream.outbound.sent.length = service.line.link.back.sent.length + count) :
    service.serve suite stores = service.behindRun count outcome node stream := by
  have added : stream.outbound.sent.length - service.line.link.back.sent.length = count := by
    omega
  rw [serve, serving]
  simp only [served, added]
  rfl

end Calls

/-! ## The invariant -/

/-- What holds of a service whatever has happened: the requests that are not answered are on their
way to the node, and the answers that are not received are on their way to the peer. -/
structure Sound (suite : Suite) (stores : Nat → Peerstore κ) (limit begun : Nat)
    (service : Service) : Prop where
  /-- Something was put on the stream once for each answer. -/
  written : service.line.link.back.sent.length = begun + service.answered
  /-- The node can flush and end the stream. -/
  firm : service.line.link.back.Firm
  /-- No more is answered than was sent. -/
  answered_le : service.answered ≤ service.sent.length
  /-- Only messages are answered. -/
  messages : ∀ text ∈ service.sent.take service.answered,
    ∃ message, Message.decoder.decode text = .ok message
  /-- No more is received than was answered. -/
  received_le : service.received.length ≤ service.answered
  /-- What is received are the addresses of the store at the time of the answer. -/
  told : ∀ i addresses, service.received[i]? = some addresses → addresses = (stores i).addresses
  /-- As long as the node serves the connection, what it has not answered is on its way to it, and
  it keeps nothing back. -/
  asks : service.result = none → service.line.reader.keeps = false ∧
    ∃ free, service.line.Sends suite limit (service.sent.drop service.answered) service.ended free
  /-- As long as the peer is there, what it has not received is on its way to it. -/
  tells : service.line.writer.isClosed = false → ∃ free,
    service.line.turned.Sends suite limit
      (answerTexts stores service.received.length (service.answered - service.received.length))
      service.result.isSome free
  /-- A peer that has left has got an answer to everything, and ended its direction. -/
  gone : service.line.writer.isClosed = true →
    service.received.length = service.sent.length ∧ service.ended = true
  /-- The node closes the connection when the peer has ended its direction and everything is
  answered. -/
  closed : service.result = some (.ok ()) →
    service.ended = true ∧ service.answered = service.sent.length ∧
      service.line.reader.isClosed = true
  /-- The node gives up over the first text that is no message. -/
  failed : ∀ e, service.result = some (.error e) →
    ∃ bad fault, service.sent[service.answered]? = some bad ∧
      Message.decoder.decode bad = .error fault ∧ e = .codec fault

namespace Sound

variable {suite : Suite} {stores : Nat → Peerstore κ} {limit begun : Nat} {service : Service}

/-- A service is sound before anything has happened. -/
theorem start {line : Line} (opens : suite.Opens) (connected : line.Connected suite) :
    Sound suite stores line.limit line.link.back.sent.length (.start line) where
  written := rfl
  firm := ((connected.turned.carries opens).opened rfl).firm
  answered_le := Nat.le_refl _
  messages := by rintro text ⟨⟩
  received_le := Nat.le_refl _
  told := by rintro i addresses ⟨⟩
  asks _ := ⟨(connected.turned.carries opens).keeps rfl, _, .of_start (connected.carries opens)⟩
  tells _ := by
    have carries := connected.turned.carries opens
    rw [(connected.carries opens).limit_eq.2] at carries
    exact ⟨_, .of_start carries⟩
  gone closed := by
    have opened := (Line.Sends.of_start (connected.turned.carries opens)).reader_opened
    rw [show line.turned.reader.isClosed = true from closed] at opened
    simp at opened
  closed := by rintro ⟨⟩
  failed := by rintro e ⟨⟩

/-- The network may hold octets back in both directions. -/
theorem hold (sound : Sound suite stores limit begun service) (forth back : Option Nat) :
    Sound suite stores limit begun (service.hold forth back) where
  written := sound.written
  firm := ⟨sound.firm.clogged, sound.firm.jammed⟩
  answered_le := sound.answered_le
  messages := sound.messages
  received_le := sound.received_le
  told := sound.told
  asks serving := by
    obtain ⟨idle, free, asks⟩ := sound.asks serving
    exact ⟨idle, _, (asks.hold forth).alike (fun _ => .refl _) (.refl _) _⟩
  tells here := by
    obtain ⟨free, tells⟩ := sound.tells here
    exact ⟨_, (tells.hold back).alike (fun _ => .refl _) (.refl _) _⟩
  gone := sound.gone
  closed := sound.closed
  failed := sound.failed

/-- The peer may end its direction. -/
theorem finish (sound : Sound suite stores limit begun service) :
    Sound suite stores limit begun service.finish where
  written := sound.written
  firm := sound.firm
  answered_le := sound.answered_le
  messages := sound.messages
  received_le := sound.received_le
  told := sound.told
  asks serving := by
    obtain ⟨idle, free, asks⟩ := sound.asks serving
    exact ⟨idle, _, asks.finish service.line.writer service.line.link.back⟩
  tells here := by
    obtain ⟨free, tells⟩ := sound.tells here
    exact ⟨_, tells.alike (fun _ => .refl _) (.refl _) service.line.link.forth.finish⟩
  gone closed := ⟨(sound.gone closed).1, rfl⟩
  closed isOver := ⟨rfl, (sound.closed isOver).2⟩
  failed := sound.failed

/-- A call of the peer leaves the service sound if it leaves what is on its way there. -/
theorem atPeer (sound : Sound suite stores limit begun service) {peer : Connection}
    {stream : Stream} {more : List Bytes} {received : List (List PeerAddress)} {free : Bool}
    (still : stream.inbound.intake = service.line.link.back.intake)
    (received_le : received.length ≤ service.answered)
    (told : ∀ i addresses, received[i]? = some addresses → addresses = (stores i).addresses)
    (asks : service.result = none → ∃ free,
      Line.Sends suite limit ((service.sent ++ more).drop service.answered) service.ended free
        ⟨peer, service.line.reader, .ofDialing stream⟩)
    (tells : Line.Sends suite limit
      (answerTexts stores received.length (service.answered - received.length))
      service.result.isSome free ⟨service.line.reader, peer, .ofListening stream⟩)
    (none_more : service.result = some (.ok ()) → more = []) :
    Sound suite stores limit begun
      { service.atPeer peer stream with sent := service.sent ++ more, received } where
  written := (congrArg (·.sent.length) still).trans sound.written
  firm := sound.firm.of_intake still
  answered_le := by
    rw [List.length_append]
    exact Nat.le_add_right_of_le sound.answered_le
  messages := by
    show ∀ text ∈ (service.sent ++ more).take service.answered, _
    rw [List.take_append_of_le_length sound.answered_le]
    exact sound.messages
  received_le := received_le
  told := told
  asks serving := ⟨(sound.asks serving).1, asks serving⟩
  tells _ := ⟨free, tells⟩
  gone left := absurd (left.symm.trans tells.reader_opened) (by simp)
  closed isOver := by
    rw [none_more isOver, List.append_nil]
    exact sound.closed isOver
  failed e failed := by
    obtain ⟨bad, fault, next, decoded⟩ := sound.failed e failed
    obtain ⟨lt, -⟩ := List.getElem?_eq_some_iff.1 next
    exact ⟨bad, fault, (List.getElem?_append_left lt).trans next, decoded⟩

/-- A peer that has not ended its direction has not left. -/
theorem opened (sound : Sound suite stores limit begun service)
    (not_ended : service.ended = false) : service.line.writer.isClosed = false := by
  by_contra left
  rw [Bool.not_eq_false] at left
  exact absurd ((sound.gone left).2.symm.trans not_ended) (by simp)

/-- A text that the peer writes is on its way behind the others, unless it is too large or the node
serves the connection no more. -/
theorem frame (sound : Sound suite stores limit begun service) (text : Bytes) :
    Sound suite stores limit begun (service.frame suite text) := by
  cases ended : service.ended with
  | true =>
    rw [Service.frame, if_pos ended]
    exact sound
  | false =>
    obtain ⟨free, tells⟩ := sound.tells (sound.opened ended)
    rcases written : service.line.writer.writeText suite text service.line.link.dialing with
      ⟨outcome, peer, stream⟩
    have still : stream.inbound.intake = service.line.link.back.intake :=
      congrArg Pipe.intake (Connection.writeText_readsAlike written).2
    -- What the node tells the peer stays on its way.
    have tells' := tells.behind_writeText written
    have asks' (serving : service.result = none) : ∃ free,
        (outcome = .ok () ∧ Line.Sends suite limit ((service.sent ++ [text]).drop service.answered)
          false free ⟨peer, service.line.reader, .ofDialing stream⟩) ∨
        (outcome ≠ .ok () ∧ Line.Sends suite limit (service.sent.drop service.answered)
          false free ⟨peer, service.line.reader, .ofDialing stream⟩) := by
      obtain ⟨-, free, asks⟩ := sound.asks serving
      rw [ended] at asks
      rcases asks.writeText text with
        ⟨-, peer', stream', written', asks'⟩ | ⟨-, peer', written', asks'⟩
      all_goals
        obtain ⟨rfl, rfl, rfl⟩ := by simpa using written.symm.trans written'
      · rw [← List.drop_append_of_le_length sound.answered_le] at asks'
        exact ⟨free, .inl ⟨rfl, asks'⟩⟩
      · exact ⟨free, .inr ⟨by simp, asks'⟩⟩
    -- Nothing is written any more when the node has come to the end, as it has seen the end then.
    have none_more (more : List Bytes) (isOver : service.result = some (.ok ())) : more = [] :=
      absurd ((sound.closed isOver).1.symm.trans ended) (by simp)
    rw [Service.frame, if_neg (by simp [ended]), written]
    cases outcome with
    | ok =>
      refine sound.atPeer still sound.received_le sound.told (fun serving => ?_)
        tells' (none_more _)
      obtain ⟨free, ⟨-, asks⟩ | ⟨refused, -⟩⟩ := asks' serving
      · rw [ended]
        exact ⟨free, asks⟩
      · exact absurd rfl refused
    | error cause =>
      have kept := @sound.atPeer _ _ _ _ _ _ peer stream [] _ _ still
        sound.received_le sound.told (fun serving => ?_) tells' (none_more _)
      · rw [List.append_nil] at kept
        exact kept
      · obtain ⟨free, ⟨accepted, -⟩ | ⟨-, asks⟩⟩ := asks' serving
        · simp at accepted
        · rw [ended, List.append_nil]
          exact ⟨free, asks⟩

/-- A frame that the peer reads leaves the service sound, whatever the peer receives, if this and
what is still on its way is what the peer is told. -/
theorem atRead (sound : Sound suite stores limit begun service)
    {outcome : Outcome ConnectionError (Option Bytes)} {peer : Connection} {stream : Stream}
    (framed : service.line.writer.readFrame suite service.line.link.dialing =
      (outcome, peer, stream)) {received : List (List PeerAddress)} {free : Bool}
    (received_le : received.length ≤ service.answered)
    (told : ∀ i addresses, received[i]? = some addresses → addresses = (stores i).addresses)
    (tells : Line.Sends suite limit
      (answerTexts stores received.length (service.answered - received.length))
      service.result.isSome free ⟨service.line.reader, peer, .ofListening stream⟩) :
    Sound suite stores limit begun { service.atPeer peer stream with received } := by
  -- What the node has not answered stays on its way.
  have asks (serving : service.result = none) : ∃ free,
      Line.Sends suite limit ((service.sent ++ []).drop service.answered) service.ended free
        ⟨peer, service.line.reader, .ofDialing stream⟩ := by
    obtain ⟨-, free, asks⟩ := sound.asks serving
    rw [List.append_nil]
    exact ⟨free, @Line.Sends.behind_readFrame _ _ service.line.turned _ _ _ asks _ _ _ framed⟩
  have still : stream.inbound.intake = service.line.link.back.intake := by
    have intake := service.line.writer.intake_readFrame suite service.line.link.dialing
    rwa [framed] at intake
  have kept := sound.atPeer still received_le told asks tells fun _ => rfl
  rw [List.append_nil] at kept
  exact kept

/-- The addresses of the store at the time of the next answer are the next ones to be received. -/
theorem told_append (sound : Sound suite stores limit begun service) (i : Nat)
    (addresses : List PeerAddress)
    (get : (service.received ++ [(stores service.received.length).addresses])[i]? =
      some addresses) : addresses = (stores i).addresses := by
  rcases Nat.lt_or_ge i service.received.length with lt | ge
  · rw [List.getElem?_append_left lt] at get
    exact sound.told i addresses get
  · rw [List.getElem?_append_right ge, List.getElem?_singleton] at get
    split_ifs at get with first
    obtain rfl : i = service.received.length := by omega
    exact (Option.some.inj get).symm

/-- A peer that waits gets the next answer if there is one and the network holds nothing back, and
otherwise nothing. -/
theorem await (sound : Sound suite stores limit begun service) (opens : suite.Opens) :
    Sound suite stores limit begun (service.await suite) ∧
      (service.line.writer.isClosed = false → service.line.link.back.gate = none →
        service.received.length < service.answered →
        (service.await suite).received =
          service.received ++ [(stores service.received.length).addresses]) := by
  cases here : service.line.writer.isClosed with
  | true =>
    rw [service.await_of_closed suite here]
    exact ⟨sound, by simp⟩
  | false =>
    obtain ⟨_, tells⟩ := sound.tells here
    obtain ⟨free, is_free, tells⟩ := tells.freed
    cases left : service.answered - service.received.length with
    | zero =>
      -- There is no answer that the peer has not received.
      rw [left] at tells
      obtain ⟨peer, stream, framed, tells'⟩ := tells.readFrame_nil opens
      rw [show ([] : List Bytes) = answerTexts stores service.received.length 0 from rfl, ← left]
        at tells'
      rw [Service.await_of_nothing framed (by intro text; split <;> simp)]
      exact ⟨sound.atRead framed sound.received_le sound.told tells', fun _ _ lt => by omega⟩
    | succ count =>
      rw [left, answerTexts_succ] at tells
      obtain ⟨outcome, peer, stream, framed, ⟨rfl, tells'⟩ | ⟨rfl, held, tells'⟩⟩ :=
        tells.readFrame_cons opens
      · have length : (service.received ++ [(stores service.received.length).addresses]).length =
            service.received.length + 1 := by rw [List.length_append, List.length_singleton]
        have next : service.answered - (service.received.length + 1) = count := by omega
        rw [← next, ← length] at tells'
        rw [Service.await_of_answer framed]
        exact ⟨sound.atRead framed (by omega) sound.told_append tells', fun _ _ _ => rfl⟩
      · rw [← answerTexts_succ, ← left] at tells'
        rw [Service.await_of_nothing framed (by simp)]
        exact ⟨sound.atRead framed sound.received_le sound.told tells',
          fun _ no_gate _ => absurd (held.symm.trans (is_free no_gate)) (by simp)⟩

/-- The service is sound behind a run of the node. -/
theorem served (sound : Sound suite stores limit begun service) {free heard : Bool}
    {count : Nat} {outcome : Outcome ConnectionError Unit} {node : Connection} {stream : Stream}
    (serves : Serves suite stores limit (service.sent.drop service.answered)
      (answerTexts stores service.received.length (service.answered - service.received.length))
      service.ended free heard service.line.writer.isClosed service.line service.answered count
      outcome node stream) :
    Sound suite stores limit begun (service.behindRun count outcome node stream) where
  written := by
    show stream.outbound.sent.length = begun + (service.answered + count)
    rw [serves.sent, sound.written, Nat.add_assoc]
  firm := serves.firm
  answered_le := by
    -- A run answers no more than what was not answered before.
    have le := serves.le
    have answered_le := sound.answered_le
    rw [List.length_drop] at le
    show service.answered + count ≤ service.sent.length
    omega
  messages := by
    show ∀ text ∈ service.sent.take (service.answered + count), _
    intro text mem
    rw [List.take_add, List.mem_append] at mem
    exact mem.elim (sound.messages text) (serves.messages text)
  received_le := Nat.le_add_right_of_le sound.received_le
  told := sound.told
  asks waiting := by
    -- Only a run that waits leaves the connection open.
    cases serves.verdict with
    | waiting idle asks all =>
      rw [List.drop_drop] at asks
      exact ⟨idle, free, asks⟩
    | closed => simp [behindRun, resultOf] at waiting
    | fault => simp [behindRun, resultOf] at waiting
  tells here := by
    -- The answers of the run stand behind the ones on their way.
    have received_le := sound.received_le
    have parts : service.answered + count - service.received.length =
        service.answered - service.received.length + count := by omega
    have answers : answerTexts stores service.received.length
          (service.answered + count - service.received.length) =
        answerTexts stores service.received.length
            (service.answered - service.received.length) ++
          answerTexts stores service.answered count := by
      rw [parts, answerTexts_add, Nat.add_sub_cancel' received_le]
    have decided : (outcome != .waiting) = (resultOf outcome).isSome := by
      cases outcome <;> rfl
    have tells := serves.tells here
    rw [← answers, decided] at tells
    exact ⟨heard, tells⟩
  gone := sound.gone
  closed isOk := by
    have le := serves.le
    have answered_le := sound.answered_le
    cases serves.verdict with
    | closed all is_ended is_closed =>
      rw [List.length_drop] at all
      -- The connection is closed when all was answered, not before.
      have everything : service.answered + count = service.sent.length := by omega
      exact ⟨is_ended, everything, is_closed⟩
    | waiting => simp [behindRun, resultOf] at isOk
    | fault => simp [behindRun, resultOf] at isOk
  failed e failed := by
    cases serves.verdict with
    | fault next decoded =>
      rw [List.getElem?_drop] at next
      exact ⟨_, _, next, decoded, (Except.error.inj (Option.some.inj failed)).symm⟩
    | waiting => simp [behindRun, resultOf] at failed
    | closed => simp [behindRun, resultOf] at failed

/-- A node that serves the connection answers what has arrived, and waits only if everything is
answered or the network holds octets back. -/
theorem serve (sound : Sound suite stores limit begun service) (opens : suite.Opens)
    (fits : ∀ i, (answerOf stores i).toJson.encode.length ≤ limit) :
    Sound suite stores limit begun (service.serve suite stores) ∧
      (service.line.link.forth.gate = none → (service.serve suite stores).result = none →
        (service.serve suite stores).answered = service.sent.length ∧ service.ended = false) := by
  cases serving : service.result with
  | some result =>
    have kept : service.serve suite stores = service := by rw [Service.serve, serving]
    rw [kept, serving]
    exact ⟨sound, by simp⟩
  | none =>
    obtain ⟨idle, _, asks⟩ := sound.asks serving
    obtain ⟨free, is_free, asks⟩ := asks.freed
    obtain ⟨heard, tells⟩ : ∃ heard, service.line.writer.isClosed = false →
        service.line.turned.Sends suite limit (answerTexts stores service.received.length
          (service.answered - service.received.length)) false heard := by
      have tells := sound.tells
      rw [serving] at tells
      cases here : service.line.writer.isClosed with
      | true => exact ⟨true, by simp⟩
      | false =>
        obtain ⟨heard, tells⟩ := tells here
        exact ⟨heard, fun _ => tells⟩
    -- A peer that is gone has got all its answers, so that none goes into a broken pipe.
    have none_left (gone : service.line.writer.isClosed = true) :
        service.sent.drop service.answered = [] := by
      have received_le := sound.received_le
      rw [(sound.gone gone).1] at received_le
      exact List.drop_eq_nil_of_le received_le
    obtain ⟨count, outcome, node, stream, served, serves⟩ :=
      serve_sends service.answered opens fits asks idle sound.firm tells none_left
    rw [Service.serve_eq serving served serves.sent]
    refine ⟨sound.served serves, fun no_gate waiting => ?_⟩
    cases serves.verdict with
    | waiting idle asks all =>
      have answered_le := sound.answered_le
      obtain ⟨everything, is_ended⟩ := all (is_free no_gate)
      rw [List.length_drop] at everything
      have everything : service.answered + count = service.sent.length := by omega
      exact ⟨everything, is_ended⟩
    | closed => simp [behindRun, resultOf] at waiting
    | fault => simp [behindRun, resultOf] at waiting

/-- A peer that has got an answer to everything may leave. -/
theorem leave (sound : Sound suite stores limit begun service) :
    Sound suite stores limit begun (service.leave suite) := by
  by_cases all : service.received.length = service.sent.length
  · rw [Service.leave, if_pos all]
    rcases left : service.line.writer.close suite service.line.link.dialing with
      ⟨outcome, peer, stream⟩
    have called : service.line.writer.write suite .close service.line.link.dialing =
      (outcome, peer, stream) := left
    cases here : service.line.writer.isClosed with
    | true =>
      -- It has left before.
      obtain ⟨rfl, rfl⟩ := Connection.close_closed (Option.isNone_iff_eq_none.1 here) called
      have same : service = { service with ended := true } := by
        rw [← (sound.gone here).2]
      exact same ▸ sound
    | false =>
      have some_wire : service.line.writer.wire ≠ none :=
        fun none_left => by simp [Connection.isClosed, none_left] at here
      obtain ⟨none_left, severed⟩ := Connection.close_severs some_wire called
      have closed : peer.isClosed = true := Option.isNone_iff_eq_none.2 none_left
      refine ⟨?_, ?_, sound.answered_le, sound.messages, sound.received_le, sound.told, ?_, ?_,
        fun _ => ⟨all, rfl⟩, fun isOver => ⟨rfl, (sound.closed isOver).2⟩, sound.failed⟩
      · show stream.inbound.sent.length = _
        rw [severed]
        exact sound.written
      · show stream.inbound.Firm
        rw [severed]
        exact ⟨sound.firm.clogged, sound.firm.jammed⟩
      · intro serving
        obtain ⟨idle, free, asks⟩ := sound.asks serving
        -- The end goes right behind what was written, as nothing is kept back.
        have settled : service.line.writer.keeps = false ∨
            service.line.link.forth.ended = true := by
          cases ended : service.ended with
          | false =>
            rw [ended] at asks
            exact .inl asks.keeps
          | true => exact .inr (asks.ended_eq.trans ended)
        have outbound : (service.line.writer.close suite service.line.link.dialing).2.2.outbound =
            service.line.link.forth.finish := Connection.outbound_of_close here settled
        rw [left] at outbound
        have asks' := asks.finish peer stream.inbound
        rw [show service.line.link.forth.finish = stream.outbound from outbound.symm] at asks'
        exact ⟨idle, free, asks'⟩
      · intro still_here
        exact absurd (closed.symm.trans still_here) (by simp)
  · rw [Service.leave, if_neg all]
    exact sound

/-- A service stays sound whatever happens. -/
theorem happen (sound : Sound suite stores limit begun service) (opens : suite.Opens)
    (fits : ∀ i, (answerOf stores i).toJson.encode.length ≤ limit) (event : Event) :
    Sound suite stores limit begun (service.happen suite stores event) := by
  cases event with
  | frame text => exact sound.frame text
  | request =>
    rw [Service.happen]
    rcases service.request_eq suite with same | same
    · rw [same]
      exact sound.frame _
    · rw [same]
      exact ((sound.frame _).await opens).1
  | await => exact (sound.await opens).1
  | serve => exact (sound.serve opens fits).1
  | finish => exact sound.finish
  | leave => exact sound.leave
  | hold forth back => exact sound.hold forth back

/-- A service stays sound however much happens. -/
theorem run (sound : Sound suite stores limit begun service) (opens : suite.Opens)
    (fits : ∀ i, (answerOf stores i).toJson.encode.length ≤ limit) (events : List Event) :
    Sound suite stores limit begun (service.run suite stores events) := by
  induction events generalizing service with
  | nil => exact sound
  | cons event events ih => exact ih (sound.happen opens fits event)

/-- A text that fits a frame is sent as long as the peer has not ended its direction and the node
serves the connection. -/
theorem sent_of_frame (sound : Sound suite stores limit begun service)
    (not_ended : service.ended = false) (serving : service.result = none) {text : Bytes}
    (small : text.length ≤ limit) :
    (service.frame suite text).sent = service.sent ++ [text] := by
  obtain ⟨-, free, asks⟩ := sound.asks serving
  rw [not_ended] at asks
  rcases asks.writeText text with ⟨-, peer, stream, written, -⟩ | ⟨large, -⟩
  · rw [Service.frame, if_neg (by simp [not_ended]), written]
  · exact absurd small (Nat.not_le.2 large)

end Sound

/-! ## The order of the answers -/

/-- The requests on a connection are answered one after the other, in the order in which they were
sent, each with the addresses in the store at its time. -/
structure InOrder (suite : Suite) (stores : Nat → Peerstore κ) (limit begun : Nat)
    (service : Service) : Prop where
  /-- A text that fits a frame is sent, as long as the direction has not ended and the node serves
  the connection. -/
  takes : service.ended = false → service.result = none → ∀ text, text.length ≤ limit →
    (service.frame suite text).sent = service.sent ++ [text]
  /-- The node puts as many frames on the stream as it has answered requests. -/
  written : service.line.link.back.sent.length = begun + service.answered
  /-- It does not answer more than was sent. -/
  answered_le : service.answered ≤ service.sent.length
  /-- It answers messages only. -/
  messages : ∀ text ∈ service.sent.take service.answered,
    ∃ message, Message.decoder.decode text = .ok message
  /-- The peer does not receive more than was answered. -/
  received_le : service.received.length ≤ service.answered
  /-- The `i`-th list that it receives has each address of the store at the time of the `i`-th
  answer, once, and no others. -/
  told : ∀ i addresses, service.received[i]? = some addresses →
    addresses.Nodup ∧ ∀ address, address ∈ addresses ↔ (stores i).contains address = true
  /-- It receives the next list as soon as the network holds no octets back. -/
  gets : service.line.writer.isClosed = false → service.line.link.back.gate = none →
    service.received.length < service.answered →
    (service.await suite).received =
      service.received ++ [(stores service.received.length).addresses]
  /-- If all texts are messages, the node answers all of them as soon as the network holds no octets
  back; if the direction has ended it closes the connection then. -/
  serves : service.result = none → service.line.link.forth.gate = none →
    (∀ text ∈ service.sent, ∃ message, Message.decoder.decode text = .ok message) →
    (service.serve suite stores).answered = service.sent.length ∧
      (service.serve suite stores).result = if service.ended then some (.ok ()) else none
  /-- If one of them is no message, it answers the ones in front of the first of these, and gives up
  with the fault of this one. -/
  stops : service.result = none → service.line.link.forth.gate = none → ∀ j bad fault,
    (∀ text ∈ service.sent.take j, ∃ message, Message.decoder.decode text = .ok message) →
    service.sent[j]? = some bad → Message.decoder.decode bad = .error fault →
    (service.serve suite stores).answered = j ∧
      (service.serve suite stores).result = some (.error (.codec fault))
  /-- Serving succeeds only when the peer has ended its direction and everything is answered, and
  the connection is closed then. -/
  closed : service.result = some (.ok ()) →
    service.ended = true ∧ service.answered = service.sent.length ∧
      service.line.reader.isClosed = true
  /-- Serving fails only over the first text that is no message. -/
  failed : ∀ e, service.result = some (.error e) →
    ∃ bad fault, service.sent[service.answered]? = some bad ∧
      Message.decoder.decode bad = .error fault ∧ e = .codec fault

/-- What is no message is not among the first ones that are. -/
theorem le_of_messages {sent : List Bytes} {m n : Nat} {bad : Bytes} {fault : Json.Fault}
    (messages : ∀ text ∈ sent.take m, ∃ message, Message.decoder.decode text = .ok message)
    (next : sent[n]? = some bad) (decoded : Message.decoder.decode bad = .error fault) : m ≤ n := by
  by_contra lt
  have mem : bad ∈ sent.take m :=
    List.mem_of_getElem? ((List.getElem?_take_of_lt (Nat.not_le.1 lt)).trans next)
  obtain ⟨message, read⟩ := messages bad mem
  simp [decoded] at read

/-- A node that serves the connection has no part in what its peer sends. -/
theorem sent_serve (suite : Suite) (stores : Nat → Peerstore κ) (service : Service) :
    (service.serve suite stores).sent = service.sent ∧
      (service.serve suite stores).ended = service.ended := by
  unfold serve
  split <;> exact ⟨rfl, rfl⟩

variable {suite : Suite} {stores : Nat → Peerstore κ} {limit begun : Nat} {service : Service}

/-- A sound service answers requests in their order. -/
theorem Sound.inOrder (sound : Sound suite stores limit begun service) (opens : suite.Opens)
    (fits : ∀ i, (answerOf stores i).toJson.encode.length ≤ limit) :
    InOrder suite stores limit begun service where
  takes not_ended serving _ small := sound.sent_of_frame not_ended serving small
  written := sound.written
  answered_le := sound.answered_le
  messages := sound.messages
  received_le := sound.received_le
  told i addresses get := by
    rw [sound.told i addresses get]
    exact ⟨(stores i).nodup_addresses, fun _ => (stores i).mem_addresses_iff⟩
  gets := (sound.await opens).2
  serves serving no_gate messages := by
    obtain ⟨sound', prompt⟩ := sound.serve opens fits
    obtain ⟨same_sent, same_ended⟩ := service.sent_serve suite stores
    -- A run that is over has either come to the end or found a fault, and there is no fault here.
    cases result : (service.serve suite stores).result with
    | none =>
      obtain ⟨all, not_ended⟩ := prompt no_gate result
      exact ⟨all, by rw [not_ended]; rfl⟩
    | some outcome =>
      cases outcome with
      | ok =>
        obtain ⟨is_ended, all, -⟩ := sound'.closed result
        rw [same_sent] at all
        rw [same_ended] at is_ended
        exact ⟨all, by rw [is_ended]; rfl⟩
      | error e =>
        obtain ⟨bad, fault, next, decoded, -⟩ := sound'.failed e result
        rw [same_sent] at next
        obtain ⟨message, read⟩ := messages bad (List.mem_of_getElem? next)
        simp [decoded] at read
  stops serving no_gate j bad fault messages next decoded := by
    obtain ⟨sound', prompt⟩ := sound.serve opens fits
    obtain ⟨same_sent, -⟩ := service.sent_serve suite stores
    have some_left : j < service.sent.length := (List.getElem?_eq_some_iff.1 next).1
    have answered := sound'.messages
    rw [same_sent] at answered
    have le := le_of_messages answered next decoded
    -- The faulty text stops the run: it neither waits nor comes to the end with the text
    -- unanswered.
    cases result : (service.serve suite stores).result with
    | none =>
      have all := (prompt no_gate result).1
      omega
    | some outcome =>
      cases outcome with
      | ok =>
        have all := (sound'.closed result).2.1
        rw [same_sent] at all
        omega
      | error e =>
        obtain ⟨bad', fault', next', decoded', rfl⟩ := sound'.failed e result
        rw [same_sent] at next'
        have first := Nat.le_antisymm le (le_of_messages messages next' decoded')
        rw [first, next, Option.some.injEq] at next'
        rw [← next', decoded, Except.error.injEq] at decoded'
        exact ⟨first, by rw [decoded']⟩
  closed := sound.closed
  failed := sound.failed

/-- Whatever happens on a line that is connected, the requests of the peer are answered in their
order, if all answers fit a frame. -/
theorem requests_are_answered_in_order {line : Line} (opens : suite.Opens)
    (connected : line.Connected suite)
    (fits : ∀ i, (answerOf stores i).toJson.encode.length ≤ line.limit) (events : List Event) :
    InOrder suite stores line.limit line.link.back.sent.length
      ((start line).run suite stores events) := by
  have begun : Sound suite stores line.limit line.link.back.sent.length (start line) :=
    .start opens connected
  exact (begun.run opens fits events).inOrder opens fits

/-- Two requests are sent to a node without peers on the line of a dialer and a listener that both
have a secure channel, and the peer ends its direction. -/
theorem requests_are_answered_in_order_of_expecting :
    Suite.standard.Opens ∧ ∃ line : Line, line.Connected .standard ∧
      (∀ i, (answerOf (fun _ => (.empty : Peerstore Unit)) i).toJson.encode.length ≤ line.limit) ∧
      InOrder .standard (fun _ => (.empty : Peerstore Unit)) line.limit line.link.back.sent.length
        ((start line).run .standard (fun _ => (.empty : Peerstore Unit))
          [.request, .request, .serve, .await, .await, .finish, .serve]) := by
  have opens := Suite.opens_standard
  obtain ⟨line, connected, secure⟩ := Line.exists_connected_secure
  have fits (i : Nat) :
      (answerOf (fun _ => (.empty : Peerstore Unit)) i).toJson.encode.length ≤ line.limit := by
    have size : (answerOf (fun _ => (.empty : Peerstore Unit)) i).toJson.encode.length = 39 :=
      Message.length_encode []
    rw [size, Line.limit, secure, if_pos rfl]
    omega
  exact ⟨opens, line, connected, fits, requests_are_answered_in_order opens connected fits _⟩

end Service

end PeerLink
