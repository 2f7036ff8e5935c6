import PeerLink.Peer.Exchange
import PeerLink.Proofs.Connection.Sending
import PeerLink.Proofs.Patience.Collecting
import PeerLink.Proofs.Peer.Message

/-!
# One request after the other

A node serves a connection by one round after the other: it reads a request, writes the answer, and
goes on with what is left of the stream. `serve_of_request` is such a round. Every request takes
octets from the connection (`Connection.unread_lt`) and its answer takes none, so that there are as
many rounds as there are requests.
-/

namespace PeerLink

namespace LengthPrefixed

variable {ε : Type} (ofIo : IoError → ε)

/-- The octets of a frame that is cut, and the ones behind it, are among the ones it is cut from. -/
theorem length_le_of_cutBytes {state state' : State} {bytes text rest : Bytes}
    (cut : (framing ofIo).cutBytes state bytes = (.ok (some text), state', rest)) :
    text.length + rest.length ≤ bytes.length := by
  have body {n : Nat} {bytes : Bytes}
      (cut : (framing ofIo).cutBytes (some n) bytes = (.ok (some text), state', rest)) :
      text.length + rest.length ≤ bytes.length := by
    rw [cutBytes_some] at cut
    split_ifs at cut
    · simp at cut
    · simp only [Prod.mk.injEq, Except.ok.injEq, Option.some.injEq] at cut
      obtain ⟨rfl, -, rfl⟩ := cut
      rw [List.length_take, List.length_drop]
      omega
  cases state with
  | some n => exact body cut
  | none =>
    rw [cutBytes_none] at cut
    split_ifs at cut
    · simp at cut
    · simp at cut
    · have le := body cut
      rw [List.length_drop] at le
      omega

/-- A frame with octets in it that is read is cut from the octets that have arrived. -/
theorem cutBytes_of_readFrame {state state' : State} {wire wire' : Wire} {stream stream' : Stream}
    {text : Bytes} (read : wire.readFrame (framing ofIo) state stream =
      (.done (some text), state', wire', stream')) (some_octets : text ≠ []) :
    (framing ofIo).cutBytes state (wire.ahead stream) =
      (.ok (some text), state', wire'.ahead stream') := by
  refine Wire.cutBytes_of_readFrame (incremental ofIo) (fun state _ last => ?_) read
  -- Behind the last octet only a frame without octets may be found.
  rcases cut : (framing ofIo).cutLast state .empty with ⟨result, state'', buffer⟩
  obtain rfl : result = .ok (some text) := (congrArg (·.1) cut).symm.trans last
  exact some_octets (eq_nil_of_cutLast ofIo cut)

end LengthPrefixed

namespace Connection

variable {suite : Suite} {connection connection' : Connection} {stream stream' : Stream}

/-- A frame with octets in it that is read takes octets from the connection. -/
theorem unread_lt (valid : connection.Valid) {text : Bytes}
    (read : connection.readFrame suite stream = (.done (some text), connection', stream'))
    (some_octets : text ≠ []) : connection'.unread stream' < connection.unread stream := by
  obtain ⟨_ | wire, frames | layer, address, resolution⟩ := connection
  · simp [readFrame] at read
  · simp [readFrame] at read
  · rcases framed : wire.readFrame (LengthPrefixed.framing ConnectionError.io) frames stream with
      ⟨outcome, frames', wire', stream''⟩
    simp only [readFrame, framed] at read
    obtain ⟨rfl, rfl, rfl⟩ := read
    have advanced := (Wire.readView_readFrame (LengthPrefixed.incremental ConnectionError.io)
      frames wire stream).2
    rw [framed] at advanced
    -- The frame was among the octets that were not read, and it is not empty.
    have size := advanced.size_add
    have le := LengthPrefixed.length_le_of_cutBytes ConnectionError.io
      (LengthPrefixed.cutBytes_of_readFrame ConnectionError.io framed some_octets)
    have some_text := List.length_pos_iff.2 some_octets
    dsimp only [unread] at size ⊢
    omega
  · rcases framed : wire.readFrame (SealedFrames.framing suite) layer.frames stream with
      ⟨outcome, frames', wire', stream''⟩
    simp only [readFrame, framed, Prod.mk.injEq] at read
    obtain ⟨done, rfl, rfl⟩ := read
    cases outcome with
    | done found =>
      obtain ⟨rfl⟩ := Outcome.done.inj done
      exact size_lt_of_readFrame valid framed
    | _ => simp [Outcome.mapError] at done

/-- The octets that are not read do not depend on what is written. -/
theorem ReadsAlike.unread_eq (alike : connection.ReadsAlike connection')
    (same : stream'.inbound = stream.inbound) :
    connection'.unread stream' = connection.unread stream := by
  have available : stream'.available = stream.available := congrArg (·.queue.size) same
  cases alike with
  | bare => exact congrArg (_ + ·) available
  | secure => exact congrArg (_ + ·) available
  | closed none_left none_left' =>
    simp only [unread, none_left, none_left', available]

end Connection

/-! ## Writing an object -/

/-- Everything that is to be written is written at once. -/
theorem Wire.sent_of_flush {wire wire' : Wire} {stream stream' : Stream}
    (something : wire.unwritten.isEmpty = false)
    (flushed : wire.flush stream = (.ok (), wire', stream')) :
    ∃ octets, stream'.outbound.sent = octets :: stream.outbound.sent := by
  have flushes := wire.flushes stream
  rw [flushed] at flushes
  cases flushes with
  | idle nothing => exact absurd (something.symm.trans nothing) (by simp)
  | through something accepts inbound gained => exact ⟨_, congrArg Pipe.Intake.sent gained⟩

/-- An object is put on the stream at once, with everything that was written before it. -/
theorem Connection.sent_of_writeObject {suite : Suite} {connection connection' : Connection}
    {stream stream' : Stream} {object : Json}
    (written : connection.writeObject suite object stream = (.ok (), connection', stream')) :
    ∃ octets, stream'.outbound.sent = octets :: stream.outbound.sent := by
  have flushed {channel : Channel} {wire : Wire} {frame : Bytes} (some_octets : frame ≠ [])
      (flushed : connection.flushWire channel (wire.put frame) stream =
        (.ok (), connection', stream')) :
      ∃ octets, stream'.outbound.sent = octets :: stream.outbound.sent := by
    rcases flush : (wire.put frame).flush stream with ⟨_ | _, wire', rest⟩
    all_goals rw [flushWire, flush] at flushed
    · simp [Except.mapError] at flushed
    · obtain ⟨-, -, rfl⟩ := flushed
      exact Wire.sent_of_flush (Wire.isEmpty_put some_octets wire) flush
  obtain ⟨_ | wire, frames | layer, address, resolution⟩ := connection
  · simp [writeObject] at written
  · simp [writeObject] at written
  · unfold writeObject at written
    dsimp only at written
    split_ifs at written
    · simp at written
    · exact flushed (LengthPrefixed.encode_ne_nil _) written
  · unfold writeObject at written
    dsimp only at written
    rw [SealedFrames.encode?_eq] at written
    split_ifs at written
    · exact flushed (SealedFrames.frame_ne_nil suite _ _) written
    · simp at written

/-! ## The rounds -/

section Rounds

variable {κ : Type} {suite : Suite} {stores : Nat → Peerstore κ} {answered : Nat}
  {connection connection' connection'' : Connection} {stream stream' stream'' : Stream}

/-- The answer that the `i`-th request gets. -/
def answerOf (stores : Nat → Peerstore κ) (i : Nat) : Message :=
  .bootstrap (stores i).addresses

/-- A message is decoded from a frame that was read. -/
theorem readFrame_of_message {message : Message}
    (read : connection.readObject suite Message.decoder stream =
      (.done message, connection', stream')) :
    ∃ text, connection.readFrame suite stream = (.done (some text), connection', stream') ∧
      Message.decoder.decode text = .ok message := by
  rcases framed : connection.readFrame suite stream with ⟨(_ | text) | _ | _, next, rest⟩
  all_goals simp only [Connection.readObject, framed] at read
  · simp at read
  · cases decoded : Message.decoder.decode text with
    | error fault => simp [decoded, Except.mapError, Outcome.ofExcept] at read
    | ok found =>
      simp only [decoded, Except.mapError, Outcome.ofExcept, Prod.mk.injEq,
        Outcome.done.injEq] at read
      obtain ⟨rfl, rfl, rfl⟩ := read
      exact ⟨text, rfl, decoded⟩
  · simp at read
  · simp at read

/-- What reading an object comes to when its frame is read. -/
theorem readObject_of_text {α : Type} {decoder : Json.Decoder α} {text : Bytes}
    (framed : connection.readFrame suite stream = (.done (some text), connection', stream')) :
    connection.readObject suite decoder stream =
      (.ofExcept ((decoder.decode text).mapError .codec), connection', stream') := by
  rw [Connection.readObject, framed]

/-- A node waits with its connection. -/
theorem serve_of_waiting (read : connection.readObject suite Message.decoder stream =
      (.waiting, connection', stream')) :
    serve suite stores answered connection stream = (.waiting, connection', stream') := by
  rw [serve, read]

/-- A node closes its connection when the peer has ended its direction. -/
theorem serve_of_stop {detail : String}
    (read : connection.readObject suite Message.decoder stream =
      (.failed (.io (.unexpectedEof detail)), connection', stream')) :
    serve suite stores answered connection stream =
      (.ofExcept (connection'.close suite stream').1, (connection'.close suite stream').2) := by
  rw [serve, read]
  rfl

/-- A node gives up when a frame is no message. -/
theorem serve_of_fault {fault : Json.Fault}
    (read : connection.readObject suite Message.decoder stream =
      (.failed (.codec fault), connection', stream')) :
    serve suite stores answered connection stream =
      (.failed (.codec fault), connection', stream'.release) := by
  rw [serve, read]

/-- A node gives up when an answer is not written. -/
theorem serve_of_refused {request : Message} {cause : ConnectionError}
    (read : connection.readObject suite Message.decoder stream =
      (.done request, connection', stream'))
    (written : connection'.writeObject suite (answerOf stores answered).toJson stream' =
      (.error cause, connection'', stream'')) :
    serve suite stores answered connection stream =
      (.failed cause, connection'', stream''.release) := by
  obtain ⟨addresses⟩ := request
  rw [answerOf] at written
  rw [serve, read]
  simp only [written]

/-- A node answers a request, and goes on with what is left. -/
theorem serve_of_request (valid : connection.Valid) {request : Message}
    (read : connection.readObject suite Message.decoder stream =
      (.done request, connection', stream'))
    (written : connection'.writeObject suite (answerOf stores answered).toJson stream' =
      (.ok (), connection'', stream'')) :
    serve suite stores answered connection stream =
      serve suite stores (answered + 1) connection'' stream'' := by
  -- The request takes octets from the connection, and the answer takes none.
  obtain ⟨text, framed, decoded⟩ := readFrame_of_message read
  have some_octets : text ≠ [] := by
    rintro rfl
    exact Message.decode_nil _ decoded
  obtain ⟨reads, same⟩ := Connection.writeText_readsAlike written
  have less : connection''.unread stream'' < connection.unread stream := by
    rw [reads.unread_eq same]
    exact Connection.unread_lt valid framed some_octets
  obtain ⟨addresses⟩ := request
  rw [answerOf] at written
  rw [serve, read]
  simp only [written]
  exact dif_pos less

end Rounds

end PeerLink
