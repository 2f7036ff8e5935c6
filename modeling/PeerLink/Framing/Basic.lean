import PeerLink.Stream.Basic

/-!
# Frames

A stream of octets is cut into frames by a `Framing`: a function that takes the next frame from a
buffer once it is complete. A `Wire` holds the octets of a stream that were read ahead and the ones
that are not written yet. Every layer reads and writes through the same wire, so that no octet read
ahead by one is lost for the next.

A wire does not hold its stream. Each operation takes the stream and gives it back, so that the
other end can act between any two of them.
-/

namespace PeerLink

/-- A way to cut frames from a buffer, with a state that is kept between the cuts. -/
structure Framing (σ ε : Type) where
  /-- Takes the next frame, if it is complete. -/
  cut : σ → Buffer → Except ε (Option Bytes) × σ × Buffer
  /-- Takes the next frame at the end of the stream; `none` if the stream ends between two
  frames. -/
  cutLast : σ → Buffer → Except ε (Option Bytes) × σ × Buffer
  /-- The error that a failure of the stream is. -/
  ofIo : IoError → ε

/-- What was read ahead from a stream and what is to be written to it. -/
structure Wire where
  /-- The octets read ahead. -/
  readAhead : Buffer
  /-- The octets not written yet. -/
  unwritten : Buffer

namespace Wire

/-- The wire of a stream from which nothing was read. -/
def new : Wire := ⟨.empty, .empty⟩

/-- The fewest octets that are asked for when a frame is not complete. -/
def readChunk : Nat := 8192

/-- Reads ahead (`fill`). The more is buffered, the more is asked for. -/
def fill (wire : Wire) (stream : Stream) : ReadResult × Wire × Stream :=
  match stream.read (max readChunk wire.readAhead.size) with
  | (.data bytes, stream) =>
    (.data bytes, { wire with readAhead := wire.readAhead.append bytes }, stream)
  | (result, stream) => (result, wire, stream)

/-- Reading ahead takes octets from the stream. -/
theorem available_fill_lt {wire wire' : Wire} {stream stream' : Stream} {bytes : Bytes}
    (h : wire.fill stream = (.data bytes, wire', stream')) :
    stream'.available < stream.available := by
  unfold fill at h
  split at h
  · rename_i bytes' stream'' heq
    simp only [Prod.mk.injEq] at h
    rw [← h.2.2]
    exact Stream.available_read_lt heq
  · rename_i result stream'' hne heq
    simp only [Prod.mk.injEq] at h
    exact (hne _ h.1).elim

/-- Reads the next frame (`read_frame`); `none` if the stream ends between two frames. -/
def readFrame {σ ε : Type} (framing : Framing σ ε) (state : σ) (wire : Wire) (stream : Stream) :
    Outcome ε (Option Bytes) × σ × Wire × Stream :=
  match framing.cut state wire.readAhead with
  | (.error e, state, readAhead) => (.failed e, state, { wire with readAhead }, stream)
  | (.ok (some frame), state, readAhead) =>
    (.done (some frame), state, { wire with readAhead }, stream)
  | (.ok none, state, readAhead) =>
    match h : ({ wire with readAhead } : Wire).fill stream with
    | (.data _, wire, stream') =>
      have := available_fill_lt h
      readFrame framing state wire stream'
    | (.wait, wire, stream) => (.waiting, state, wire, stream)
    | (.failed e, wire, stream) => (.failed (framing.ofIo e), state, wire, stream)
    | (.stop, wire, stream) =>
      if wire.readAhead.isEmpty then
        match framing.cutLast state wire.readAhead with
        | (.error e, state, readAhead) => (.failed e, state, { wire with readAhead }, stream)
        | (.ok frame, state, readAhead) => (.done frame, state, { wire with readAhead }, stream)
      else
        (.failed (framing.ofIo (.unexpectedEof "stream closed in the middle of a frame")), state,
          wire, stream)
termination_by stream.available

/-- Puts octets back in front of the ones read ahead (`unread_frame`). -/
def unread (bytes : Bytes) (wire : Wire) : Wire :=
  { wire with readAhead := wire.readAhead.prepend bytes }

/-- Adds octets to the ones that are to be written (`write_frame` and `write_raw`). -/
def put (bytes : Bytes) (wire : Wire) : Wire :=
  { wire with unwritten := wire.unwritten.append bytes }

/-- Reads more octets until there are `n` with the ones received already (`read_exact`). When it
waits it gives the octets received so far. -/
def readExactly (n : Nat) (received : Buffer) (wire : Wire) (stream : Stream) :
    Outcome IoError Bytes × Buffer × Wire × Stream :=
  let ahead := wire.readAhead.take (n - received.size)
  let received := received.append ahead
  let wire := { wire with readAhead := wire.readAhead.drop ahead.length }
  fromStream received wire stream
where
  /-- Reads the octets that are not buffered from the stream. -/
  fromStream (received : Buffer) (wire : Wire) (stream : Stream) :
      Outcome IoError Bytes × Buffer × Wire × Stream :=
    if n ≤ received.size then (.done (received.take n), received, wire, stream)
    else
      match h : stream.read (n - received.size) with
      | (.data bytes, stream') =>
        have := Stream.available_read_lt h
        fromStream (received.append bytes) wire stream'
      | (.wait, stream) => (.waiting, received, wire, stream)
      | (.failed e, stream) => (.failed e, received, wire, stream)
      | (.stop, stream) => (.failed (.unexpectedEof "early eof"), received, wire, stream)
  termination_by stream.available

/-- Reads at least one and at most `n` octets (`read_some`), the ones read ahead first; none at the
end of the stream. -/
def readSome (n : Nat) (wire : Wire) (stream : Stream) :
    Outcome IoError Bytes × Wire × Stream :=
  if wire.readAhead.isEmpty then
    match stream.read n with
    | (.data bytes, stream) => (.done bytes, wire, stream)
    | (.stop, stream) => (.done [], wire, stream)
    | (.wait, stream) => (.waiting, wire, stream)
    | (.failed e, stream) => (.failed e, wire, stream)
  else
    (.done (wire.readAhead.take n), { wire with readAhead := wire.readAhead.drop n }, stream)

/-- Writes what is to be written and flushes the stream (`flush`); what could not be written is
kept. -/
def flush (wire : Wire) (stream : Stream) : Except IoError Unit × Wire × Stream :=
  if wire.unwritten.isEmpty then (stream.flush, wire, stream)
  else
    match stream.write wire.unwritten.toBytes with
    | (.error e, stream) => (.error e, wire, stream)
    | (.ok (), stream) => (stream.flush, { wire with unwritten := .empty }, stream)

end Wire

end PeerLink
