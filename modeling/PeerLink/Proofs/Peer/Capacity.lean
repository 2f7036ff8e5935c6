import PeerLink.Proofs.Connection.Refusal
import PeerLink.Proofs.Peer.Answering
import PeerLink.Proofs.Peer.Store

/-!
# Which requests have an answer

The answer to a request is one frame with all addresses of the store. Its size grows with the
store, and a frame has a largest one, so that there are stores of which no request is answered: the
node gives up the connection instead. `AnswersWhatFits` says exactly which requests are answered,
and that a node gives up in this way over no others, however many requests there were before.
-/

namespace PeerLink

/-- A frame of a bare connection that is not read is a failure of the stream. -/
theorem LengthPrefixed.eq_ofIo_of_readFrame {ε : Type} {ofIo : IoError → ε} {state : State}
    {wire : Wire} {stream : Stream} {e : ε}
    (failed : (wire.readFrame (framing ofIo) state stream).1 = .failed e) :
    ∃ cause, e = ofIo cause := by
  have mapped {result : Except IoError (Option Bytes)} (error : result.mapError ofIo = .error e) :
      ∃ cause, e = ofIo cause := by
    cases result with
    | error cause => exact ⟨cause, (Except.error.inj error).symm⟩
    | ok frame => simp [Except.mapError] at error
  fun_induction Wire.readFrame (framing ofIo) state wire stream with
  | case1 state wire stream e' state' readAhead cut =>
    obtain rfl := Outcome.failed.inj failed
    exact mapped (Prod.mk.inj cut).1
  | case3 state wire stream state' readAhead cut bytes wire' stream' fill _ ih => exact ih failed
  | case5 state wire stream state' readAhead cut cause wire' stream' fill =>
    exact ⟨cause, (Outcome.failed.inj failed).symm⟩
  | case6 state wire stream state' readAhead cut wire' stream' fill empty e' state'' last cutLast =>
    obtain rfl := Outcome.failed.inj failed
    exact mapped (Prod.mk.inj cutLast).1
  | case8 state wire stream state' readAhead cut wire' stream' fill not_empty =>
    exact ⟨_, (Outcome.failed.inj failed).symm⟩
  | case2 => simp at failed
  | case4 => simp at failed
  | case7 => simp at failed

namespace Connection

/-- The largest text of an object that is written to a connection. -/
def capacity (connection : Connection) : Nat :=
  if connection.isSecure then SealedFrames.maxPayload else LengthPrefixed.maxSize

variable {suite : Suite} {connection connection' : Connection} {stream stream' : Stream}
  {message : Message}

/-- A connection stands after a read as it stood before. -/
theorem standing_of_readObject {outcome : Outcome ConnectionError Message}
    (read : connection.readObject suite Message.decoder stream =
      (outcome, connection', stream')) :
    connection'.standing stream' = connection.standing stream := by
  have called : connection.call suite (.object Message.decoder) stream =
      (.object outcome, connection', stream') := by
    rw [call, read]
  obtain ⟨alike, same⟩ := call_writesAlike called
  exact alike.standing_eq same

/-- A connection from which something was read is not closed. -/
theorem opened_of_readObject
    (read : connection.readObject suite Message.decoder stream =
      (.done message, connection', stream')) : (connection.standing stream).closed = false := by
  obtain ⟨_ | wire, channel, address, resolution⟩ := connection
  · simp [readObject, readFrame] at read
  · rfl

/-- An object that fits is written if the stream accepts it, and one that is too large puts nothing
on the stream. -/
theorem writeObject_cases (opened : (connection.standing stream).closed = false)
    (accepts : stream.outbound.refuses = false) (object : Json) :
    (object.encode.length ≤ connection.capacity ∧ ∃ next rest,
        connection.writeObject suite object stream = (.ok (), next, rest)) ∨
      (connection.capacity < object.encode.length ∧ ∃ next,
        connection.writeObject suite object stream =
          (.error (.frameTooLarge object.encode.length), next, stream)) := by
  have told := connection.write_standing suite (.object object) stream
  rcases written : connection.writeObject suite object stream with ⟨outcome, next, rest⟩
  rw [Connection.write, written] at told
  rcases Nat.lt_or_ge connection.capacity object.encode.length with large | small
  · rw [Standing.write_large opened large] at told
    obtain ⟨rfl, -⟩ := Prod.mk.inj told
    obtain ⟨rfl, -⟩ := sealedUp_of_refused written
    exact .inr ⟨large, next, rfl⟩
  · have accepted : { connection.standing stream with keeps := true }.refused = false := accepts
    rw [Standing.write_small opened (Nat.not_lt.2 small),
      Standing.flush_of_accepts accepted] at told
    obtain ⟨rfl, -⟩ := Prod.mk.inj told
    exact .inl ⟨small, next, rest, rfl⟩

/-- Only an object that does not fit is too large. -/
theorem capacity_lt_of_tooLarge {object : Json} {size : Nat} {next : Connection} {rest : Stream}
    (written : connection.writeObject suite object stream =
      (.error (.frameTooLarge size), next, rest)) :
    size = object.encode.length ∧ connection.capacity < size := by
  have told := connection.write_standing suite (.object object) stream
  rw [Connection.write, written] at told
  have outcome := congrArg (·.1) told
  simp only [Standing.write, Standing.flush] at outcome
  split_ifs at outcome with closed large refused
  · simp at outcome
  · obtain rfl := ConnectionError.frameTooLarge.inj (Except.error.inj outcome)
    exact ⟨rfl, large⟩
  · simp at outcome

/-- What fits a frame does not change when something is written. -/
theorem capacity_of_writeObject {object : Json} {outcome : Except ConnectionError Unit}
    {next : Connection} {rest : Stream}
    (written : connection.writeObject suite object stream = (outcome, next, rest)) :
    next.capacity = connection.capacity := by
  have told := connection.write_standing suite (.object object) stream
  rw [Connection.write, written] at told
  have limit := congrArg (·.2.limit) told
  simp only [Standing.write] at limit
  split_ifs at limit <;> exact limit.symm

/-- Nothing that is read is too large. -/
theorem not_tooLarge_of_readObject {size : Nat} :
    (connection.readObject suite Message.decoder stream).1 ≠ .failed (.frameTooLarge size) := by
  intro failed
  have framed : (connection.readFrame suite stream).1 = .failed (.frameTooLarge size) := by
    rcases read : connection.readFrame suite stream with ⟨(_ | text) | e | _, next, rest⟩
    all_goals simp only [readObject, read] at failed
    · simp at failed
    · cases decoded : Message.decoder.decode text <;>
        simp [decoded, Except.mapError, Outcome.ofExcept] at failed
    · rw [Outcome.failed.inj failed]
    · simp at failed
  obtain ⟨_ | wire, frames | layer, address, resolution⟩ := connection
  · simp [readFrame] at framed
  · simp [readFrame] at framed
  · obtain ⟨cause, e⟩ := LengthPrefixed.eq_ofIo_of_readFrame framed
    simp at e
  · simp only [readFrame] at framed
    generalize (wire.readFrame (SealedFrames.framing suite) layer.frames stream).1 = outcome
      at framed
    rcases outcome with _ | _ | _
    · simp [Outcome.mapError] at framed
    · rename_i e
      cases e <;> simp [Outcome.mapError, ConnectionError.ofFrames] at framed
    · simp [Outcome.mapError] at framed

/-- Nothing is too large when a connection is closed. -/
theorem not_tooLarge_of_close {size : Nat} :
    (connection.close suite stream).1 ≠ .error (.frameTooLarge size) := by
  intro failed
  have told := congrArg (·.1) (connection.write_standing suite .close stream)
  simp only [Connection.write, failed, Standing.write] at told
  split_ifs at told
  simp at told

end Connection

/-! ## The answers that fit -/

/-- The number of octets of the answer with these addresses: the texts of the addresses, the marks
between them, and what is around them. -/
def answerSize (addresses : List PeerAddress) : Nat :=
  39 + (addresses.map fun address => address.toJson.encode.length).sum + (addresses.length - 1)

variable {κ : Type} {suite : Suite} {stores : Nat → Peerstore κ} {answered : Nat}
  {connection : Connection} {stream : Stream}

/-- The size of an answer is the one of its text. -/
theorem length_encode_answerOf (stores : Nat → Peerstore κ) (i : Nat) :
    (answerOf stores i).toJson.encode.length = answerSize (stores i).addresses :=
  Message.length_encode _

/-- A node gives up over a size only if this is the size of an answer, and one that does not fit. -/
theorem capacity_lt_of_serve {size : Nat}
    (failed : (serve suite stores answered connection stream).1 = .failed (.frameTooLarge size)) :
    ∃ i, answered ≤ i ∧ answerSize (stores i).addresses = size ∧ connection.capacity < size := by
  -- No call but the one that writes an answer fails in this way.
  fun_induction serve suite stores answered connection stream with
  | case1 => simp at failed
  | case2 answered connection stream e connection' stream' read ended result connection'' stream''
      closed =>
    have no_close : (connection'.close suite stream').1 ≠ .error (.frameTooLarge size) :=
      Connection.not_tooLarge_of_close
    cases result with
    | ok => simp [Outcome.ofExcept] at failed
    | error cause =>
      rw [closed] at no_close
      exact absurd (congrArg Except.error (Outcome.failed.inj failed)) no_close
  | case3 => simp at failed
  | case4 answered connection stream e connection' stream' no_io read =>
    have no_read : (connection.readObject suite Message.decoder stream).1 ≠
        .failed (.frameTooLarge size) := Connection.not_tooLarge_of_readObject
    rw [read] at no_read
    exact absurd (congrArg Outcome.failed (Outcome.failed.inj failed)) no_read
  | case5 answered connection stream addresses connection' stream' read answer e connection''
      stream'' written =>
    obtain rfl := Outcome.failed.inj failed
    obtain ⟨size_eq, large⟩ := Connection.capacity_lt_of_tooLarge written
    have capacity : connection'.capacity = connection.capacity :=
      congrArg Standing.limit (Connection.standing_of_readObject read)
    rw [capacity] at large
    exact ⟨answered, Nat.le_refl _, size_eq ▸ (length_encode_answerOf stores answered).symm, large⟩
  | case6 answered connection stream addresses connection' stream' read answer connection''
      stream'' written less ih =>
    obtain ⟨i, le, size_eq, large⟩ := ih failed
    have capacity : connection'.capacity = connection.capacity :=
      congrArg Standing.limit (Connection.standing_of_readObject read)
    rw [Connection.capacity_of_writeObject written, capacity] at large
    exact ⟨i, Nat.le_of_succ_le le, size_eq, large⟩
  | case7 => simp at failed

section Request

variable {request : Message} {connection' : Connection} {stream' : Stream}
  (accepts : stream.outbound.refuses = false)
  (read : connection.readObject suite Message.decoder stream =
    (.done request, connection', stream'))

include accepts read

/-- The answer to a request is written if it fits, and too large if it does not. -/
theorem writeAnswer_cases (stores : Nat → Peerstore κ) (answered : Nat) :
    (answerSize (stores answered).addresses ≤ connection.capacity ∧ ∃ next rest octets,
        connection'.writeObject suite (answerOf stores answered).toJson stream' =
          (.ok (), next, rest) ∧
        rest.outbound.sent = octets :: stream.outbound.sent) ∨
      (connection.capacity < answerSize (stores answered).addresses ∧ ∃ next,
        connection'.writeObject suite (answerOf stores answered).toJson stream' =
          (.error (.frameTooLarge (answerSize (stores answered).addresses)), next, stream') ∧
        stream'.release.outbound.sent = stream.outbound.sent) := by
  -- After the request the stream accepts what is written, and as much of it fits as before.
  have opened := Connection.opened_of_readObject read
  have same := Connection.standing_of_readObject read
  obtain ⟨text, framed, -⟩ := readFrame_of_message read
  have outbound := (Connection.readFrame_writesAlike framed).2
  have capacity : connection'.capacity = connection.capacity := congrArg Standing.limit same
  rw [← same] at opened
  rw [← outbound] at accepts
  have cases := @Connection.writeObject_cases suite connection' stream' opened accepts
    (answerOf stores answered).toJson
  rw [length_encode_answerOf, capacity] at cases
  rcases cases with ⟨fits, next, rest, written⟩ | ⟨large, next, refused⟩
  · obtain ⟨octets, sent⟩ := Connection.sent_of_writeObject written
    rw [outbound] at sent
    exact .inl ⟨fits, next, rest, octets, written, sent⟩
  · have sent : stream'.outbound.sent = stream.outbound.sent := congrArg Pipe.sent outbound
    exact .inr ⟨large, next, refused, sent⟩

/-- A node whose answer does not fit gives up the connection, and writes nothing. -/
theorem serve_of_tooLarge (large : connection.capacity < answerSize (stores answered).addresses) :
    ∃ next rest, serve suite stores answered connection stream =
        (.failed (.frameTooLarge (answerSize (stores answered).addresses)), next, rest) ∧
      rest.outbound.sent = stream.outbound.sent := by
  rcases writeAnswer_cases accepts read stores answered with ⟨fits, -⟩ | ⟨-, next, refused, sent⟩
  · exact absurd large (Nat.not_lt.2 fits)
  · exact ⟨next, stream'.release, serve_of_refused read refused, sent⟩

end Request

/-- A node answers the requests whose answers fit a frame, and no others. -/
structure AnswersWhatFits (suite : Suite) (stores : Nat → Peerstore κ) (answered : Nat)
    (connection : Connection) (stream : Stream) : Prop where
  /-- A request whose answer fits is answered at once, with each address of the store once and no
  others, and the node goes on with the next request. -/
  fits : ∀ request connection' stream', connection.readObject suite Message.decoder stream =
      (.done request, connection', stream') →
    answerSize (stores answered).addresses ≤ connection.capacity →
    (answerOf stores answered).peerAddresses.Nodup ∧
      (∀ address, address ∈ (answerOf stores answered).peerAddresses ↔
        (stores answered).contains address = true) ∧
      ∃ next rest octets, connection'.writeObject suite (answerOf stores answered).toJson stream' =
          (.ok (), next, rest) ∧
        rest.outbound.sent = octets :: stream.outbound.sent ∧
        serve suite stores answered connection stream =
          serve suite stores (answered + 1) next rest
  /-- A request whose answer does not fit is not answered: nothing is written, and the node gives up
  the connection. -/
  tooLarge : ∀ request connection' stream', connection.readObject suite Message.decoder stream =
      (.done request, connection', stream') →
    connection.capacity < answerSize (stores answered).addresses →
    ∃ next rest, serve suite stores answered connection stream =
        (.failed (.frameTooLarge (answerSize (stores answered).addresses)), next, rest) ∧
      rest.outbound.sent = stream.outbound.sent
  /-- However many requests there are, it gives up in this way over such an answer only. -/
  only : ∀ size, (serve suite stores answered connection stream).1 =
      .failed (.frameTooLarge size) →
    ∃ i, answered ≤ i ∧ answerSize (stores i).addresses = size ∧ connection.capacity < size

/-- On every connection whose stream accepts what is written, a node answers the requests whose
answers fit a frame, and no others. -/
theorem requests_are_answered_iff_they_fit (stores : Nat → Peerstore κ) (answered : Nat)
    (valid : connection.Valid) (accepts : stream.outbound.refuses = false) :
    AnswersWhatFits suite stores answered connection stream := by
  constructor
  · intro request connection' stream' read fits
    rcases writeAnswer_cases accepts read stores answered with
      ⟨-, next, rest, octets, written, sent⟩ | ⟨large, -⟩
    · exact ⟨(stores answered).nodup_addresses, fun _ => (stores answered).mem_addresses_iff, next,
        rest, octets, written, sent, serve_of_request valid read written⟩
    · exact absurd large (Nat.not_lt.2 fits)
  · exact fun request connection' stream' read large => serve_of_tooLarge accepts read large
  · exact fun size failed => capacity_lt_of_serve failed

/-- A request has arrived on a secure connection. -/
theorem exists_request : ∃ (connection connection' : Connection) (stream stream' : Stream),
    connection.isSecure = true ∧ connection.Valid ∧ stream.outbound.refuses = false ∧
      connection.readObject .standard Message.decoder stream =
        (.done .request, connection', stream') := by
  have opens := Suite.opens_standard
  obtain ⟨line, connected, secure⟩ := Line.exists_connected_secure
  have carries := connected.carries opens
  have accepts : line.link.back.refuses = false :=
    ((connected.turned.carries opens).opened rfl).accepts
  obtain ⟨-, limit⟩ := carries.limit_eq
  rw [Line.limit, Line.limit, secure, if_pos rfl] at limit
  have reader_secure : line.reader.isSecure = true := by
    by_contra bare
    rw [Bool.not_eq_true] at bare
    rw [show line.turned.writer.isSecure = false from bare] at limit
    simp at limit
  -- The request is written, and the network lets it through.
  rcases (Line.Sends.of_start carries).writeText Message.request.toJson.encode with
    ⟨-, writer, stream, written, sends⟩ | ⟨large, -⟩
  · have inbound : stream.inbound = line.link.back := (Connection.writeText_readsAlike written).2
    rw [List.nil_append] at sends
    have arrived := sends.hold none
    obtain ⟨outcome, reader, stream', framed, ⟨rfl, -⟩ | ⟨-, held, -⟩⟩ :=
      arrived.readFrame_cons opens
    · have read := @readObject_of_text _ _ _ _ _ _ Message.decoder _ framed
      rw [Message.decode_encode] at read
      refine ⟨_, _, _, _, reader_secure, arrived.valid, ?_, read⟩
      rw [← inbound] at accepts
      exact accepts
    · simp at held
  · have size : Message.request.toJson.encode.length = 39 := Message.length_encode []
    rw [Line.limit, secure, if_pos rfl, size] at large
    omega

/-- A request on a secure connection to a node without peers. -/
theorem requests_are_answered_iff_they_fit_of_request :
    ∃ (connection connection' : Connection) (stream stream' : Stream),
      connection.Valid ∧ stream.outbound.refuses = false ∧
      connection.readObject .standard Message.decoder stream =
        (.done .request, connection', stream') ∧
      AnswersWhatFits .standard (fun _ => (.empty : Peerstore Unit)) 0 connection stream := by
  obtain ⟨connection, connection', stream, stream', -, valid, accepts, read⟩ := exists_request
  exact ⟨connection, connection', stream, stream', valid, accepts, read,
    requests_are_answered_iff_they_fit _ _ valid accepts⟩

/-! ## A store that is too large -/

/-- The addresses of peers at every port of one host. -/
def neighbours : List PeerAddress :=
  (List.range 65536).map fun port => .tcp (.v4 ⟨127, 0, 0, 1⟩) (.ofNat port)

/-- No address is there twice. -/
theorem nodup_neighbours : neighbours.Nodup := by
  refine (List.nodup_map_iff_inj_on List.nodup_range).2 fun port mem port' mem' same => ?_
  have ports : UInt16.ofNat port = UInt16.ofNat port' := congrArg PeerAddress.port same
  have numbers := congrArg UInt16.toNat ports
  rw [List.mem_range] at mem mem'
  rwa [UInt16.toNat_ofNat_of_lt' mem, UInt16.toNat_ofNat_of_lt' mem'] at numbers

/-- A store with connections to all of them. -/
def crowded : Peerstore Unit where
  entries := neighbours.map fun address => (address.text, ())
  nodup := by
    rw [List.map_map]
    exact nodup_neighbours.map PeerAddress.text_injective

/-- The store lists all of them. -/
theorem addresses_crowded : crowded.addresses = neighbours := by
  refine crowded.addresses_of_texts ?_
  rw [crowded, List.map_map]
  rfl

/-- The marks between so many addresses alone do not fit a sealed frame. -/
theorem lt_answerSize_crowded : SealedFrames.maxPayload < answerSize crowded.addresses := by
  have length : neighbours.length = 65536 := by rw [neighbours, List.length_map, List.length_range]
  have largest : SealedFrames.maxPayload = 65517 := by decide
  rw [addresses_crowded, answerSize, length]
  omega

/-- A node that has connections to all of them gives up a secure connection over a request, although
the stream accepts what is written. -/
theorem requests_are_not_always_answered :
    ∃ (connection connection' : Connection) (stream stream' : Stream) (size : Nat),
      connection.Valid ∧ stream.outbound.refuses = false ∧
      connection.readObject .standard Message.decoder stream =
        (.done .request, connection', stream') ∧
      (serve .standard (fun _ => crowded) 0 connection stream).1 =
        .failed (.frameTooLarge size) := by
  obtain ⟨connection, connection', stream, stream', secure, valid, accepts, read⟩ := exists_request
  have large : connection.capacity < answerSize crowded.addresses := by
    rw [Connection.capacity, secure, if_pos rfl]
    exact lt_answerSize_crowded
  obtain ⟨next, rest, served, -⟩ :=
    @serve_of_tooLarge _ _ (fun _ => crowded) 0 _ _ _ _ _ accepts read large
  exact ⟨connection, connection', stream, stream', _, valid, accepts, read, congrArg (·.1) served⟩

end PeerLink
