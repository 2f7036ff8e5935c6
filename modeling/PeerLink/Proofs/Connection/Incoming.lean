import PeerLink.Proofs.Connection.Halves
import PeerLink.Proofs.Peer.Answering

/-!
# The place of a connection in what its peer sends

A connection reads frames from the octets that have arrived, and it may have taken some of them from
the stream in advance. `Connection.incoming` is what it has not used, wherever the octets are, and
`Incoming.cut` takes the first frame from the front of it. A frame that is read is this one, and the
connection is right behind it afterwards (`incoming_of_readFrame`); a frame that is there is read
(`exists_readFrame`). What is written has no part in the place of the connection.
-/

namespace PeerLink

/-- What a connection has received and not used: the state of its framing, and the octets. -/
inductive Incoming where
  /-- The connection is closed. -/
  | closed
  /-- The connection is bare. -/
  | bare (frames : LengthPrefixed.State) (octets : Bytes)
  /-- The connection is secure. -/
  | secure (frames : SealedFrames.State) (octets : Bytes)

namespace Incoming

/-- The text of the first frame, if it is complete and in order, and what is behind it. -/
def cut (suite : Suite) : Incoming → Option (Bytes × Incoming)
  | closed => none
  | bare frames octets =>
    match (LengthPrefixed.framing ConnectionError.io).cutBytes frames octets with
    | (.ok (some text), frames, rest) => some (text, bare frames rest)
    | _ => none
  | secure frames octets =>
    match (SealedFrames.framing suite).cutBytes frames octets with
    | (.ok (some text), frames, rest) => some (text, secure frames rest)
    | _ => none

/-- More octets arrive. -/
def append : Incoming → Bytes → Incoming
  | closed, _ => closed
  | bare frames octets, more => bare frames (octets ++ more)
  | secure frames octets, more => secure frames (octets ++ more)

variable {suite : Suite} {text : Bytes} {rest : Incoming}

/-- The first frame is the one of the framing of a bare connection. -/
theorem cut_bare_eq_some_iff {frames : LengthPrefixed.State} {octets : Bytes} :
    (bare frames octets).cut suite = some (text, rest) ↔
      ∃ frames' octets', (LengthPrefixed.framing ConnectionError.io).cutBytes frames octets =
        (.ok (some text), frames', octets') ∧ rest = bare frames' octets' := by
  rcases cut_eq : (LengthPrefixed.framing ConnectionError.io).cutBytes frames octets with
    ⟨_ | _ | found, frames', octets'⟩
  all_goals simp [cut, cut_eq, eq_comm]

/-- The first frame is the one of the framing of a secure connection. -/
theorem cut_secure_eq_some_iff {frames : SealedFrames.State} {octets : Bytes} :
    (secure frames octets).cut suite = some (text, rest) ↔
      ∃ frames' octets', (SealedFrames.framing suite).cutBytes frames octets =
        (.ok (some text), frames', octets') ∧ rest = secure frames' octets' := by
  rcases cut_eq : (SealedFrames.framing suite).cutBytes frames octets with
    ⟨_ | _ | found, frames', octets'⟩
  all_goals simp [cut, cut_eq, eq_comm]

/-- What follows has no part in the first frame. -/
theorem cut_append {incoming : Incoming} (first : incoming.cut suite = some (text, rest))
    (more : Bytes) : (incoming.append more).cut suite = some (text, rest.append more) := by
  cases incoming with
  | closed => simp [cut] at first
  | bare frames octets =>
    obtain ⟨frames', octets', cut_eq, rfl⟩ := cut_bare_eq_some_iff.1 first
    have stable := (LengthPrefixed.incremental ConnectionError.io).stable cut_eq (by simp) more
    exact cut_bare_eq_some_iff.2 ⟨_, _, stable, rfl⟩
  | secure frames octets =>
    obtain ⟨frames', octets', cut_eq, rfl⟩ := cut_secure_eq_some_iff.1 first
    have stable := (SealedFrames.incremental suite).stable cut_eq (by simp) more
    exact cut_secure_eq_some_iff.2 ⟨_, _, stable, rfl⟩

end Incoming

namespace Connection

/-- What a connection has received and not used. -/
def incoming (connection : Connection) (stream : Stream) : Incoming :=
  match connection.wire, connection.channel with
  | none, _ => .closed
  | some wire, .bare frames => .bare frames (wire.ahead stream)
  | some wire, .secure layer => .secure layer.frames (wire.ahead stream)

variable {suite : Suite} {connection connection' : Connection} {stream stream' : Stream}
  {text : Bytes}

/-- What is written has no part in what was received. -/
theorem ReadsAlike.incoming_eq (alike : connection.ReadsAlike connection')
    (same : stream'.inbound = stream.inbound) :
    connection'.incoming stream' = connection.incoming stream := by
  have arrived : stream'.inbound.arrived = stream.inbound.arrived := congrArg _ same
  cases alike with
  | bare => simp only [incoming, Wire.ahead, arrived]
  | secure => simp only [incoming, Wire.ahead, arrived]
  | closed none_left none_left' => simp only [incoming, none_left, none_left']

/-- A frame with octets in it that is read is the first one, and the connection is right behind it
afterwards. -/
theorem incoming_of_readFrame
    (framed : connection.readFrame suite stream = (.done (some text), connection', stream'))
    (some_octets : text ≠ []) :
    (connection.incoming stream).cut suite = some (text, connection'.incoming stream') := by
  obtain ⟨_ | wire, frames | layer, address, resolution⟩ := connection
  · simp [readFrame] at framed
  · simp [readFrame] at framed
  · rcases read : wire.readFrame (LengthPrefixed.framing ConnectionError.io) frames stream with
      ⟨outcome, frames', wire', rest⟩
    simp only [readFrame, read] at framed
    obtain ⟨rfl, rfl, rfl⟩ := framed
    have cut_eq := LengthPrefixed.cutBytes_of_readFrame ConnectionError.io read some_octets
    exact Incoming.cut_bare_eq_some_iff.2 ⟨_, _, cut_eq, rfl⟩
  · rcases read : wire.readFrame (SealedFrames.framing suite) layer.frames stream with
      ⟨outcome, frames', wire', rest⟩
    simp only [readFrame, read, Prod.mk.injEq] at framed
    obtain ⟨done, rfl, rfl⟩ := framed
    cases outcome with
    | done found =>
      obtain ⟨rfl⟩ := Outcome.done.inj done
      have cut_eq := SealedFrames.cutBytes_of_readFrame suite read
      exact Incoming.cut_secure_eq_some_iff.2 ⟨_, _, cut_eq, rfl⟩
    | _ => simp [Outcome.mapError] at done

/-- A first frame that is there is read. -/
theorem exists_readFrame {rest : Incoming}
    (first : (connection.incoming stream).cut suite = some (text, rest)) :
    ∃ connection' stream',
      connection.readFrame suite stream = (.done (some text), connection', stream') := by
  obtain ⟨_ | wire, frames | layer, address, resolution⟩ := connection
  · simp [incoming, Incoming.cut] at first
  · simp [incoming, Incoming.cut] at first
  · obtain ⟨frames', octets, cut_eq, -⟩ := Incoming.cut_bare_eq_some_iff.1 first
    obtain ⟨wire', stream', read, -⟩ :=
      Wire.readFrame_of_cutBytes (LengthPrefixed.incremental ConnectionError.io) cut_eq
    simp only [readFrame, read]
    exact ⟨_, _, rfl⟩
  · obtain ⟨frames', octets, cut_eq, -⟩ := Incoming.cut_secure_eq_some_iff.1 first
    obtain ⟨wire', stream', read, -⟩ :=
      Wire.readFrame_of_cutBytes (SealedFrames.incremental suite) cut_eq
    simp only [readFrame, read]
    exact ⟨_, _, rfl⟩

end Connection

end PeerLink
