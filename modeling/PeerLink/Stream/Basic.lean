import PeerLink.Stream.Pipe

/-!
# Streams

The end of a stream that a peer holds: the pipe it reads from and the pipe it writes to.
-/

namespace PeerLink

/-- An end of a stream. -/
structure Stream where
  /-- The pipe that is read. -/
  inbound : Pipe
  /-- The pipe that is written. -/
  outbound : Pipe

namespace Stream

/-- Reads at most `n` octets. -/
def read (n : Nat) (stream : Stream) : ReadResult × Stream :=
  let (result, inbound) := stream.inbound.read n
  (result, { stream with inbound })

/-- Writes octets. -/
def write (bytes : Bytes) (stream : Stream) : Except IoError Unit × Stream :=
  let (result, outbound) := stream.outbound.write bytes
  (result, { stream with outbound })

/-- Flushes what was written. -/
def flush (stream : Stream) : Except IoError Unit :=
  stream.outbound.flush

/-- Tells the other end that nothing more will be written. -/
def shutdown (stream : Stream) : Except IoError Unit × Stream :=
  let (result, outbound) := stream.outbound.shutdown
  (result, { stream with outbound })

/-- Lets go of the end: nothing more will be written, and nothing more will be read. -/
def release (stream : Stream) : Stream where
  inbound := stream.inbound.sever
  outbound := stream.outbound.finish

/-- An end that is let go of is ended, whether this could be told or not. -/
theorem release_shutdown (stream : Stream) : stream.shutdown.2.release = stream.release := by
  rw [shutdown, Pipe.shutdown]
  cases stream.outbound.jammed <;> rfl

/-- The number of octets that can be read. -/
def available (stream : Stream) : Nat :=
  stream.inbound.queue.size

/-- A read that returns octets leaves fewer. -/
theorem available_read_lt {stream stream' : Stream} {n : Nat} {bytes : Bytes}
    (h : stream.read n = (.data bytes, stream')) : stream'.available < stream.available := by
  unfold read at h
  simp only [Prod.mk.injEq] at h
  rw [← h.2]
  exact Pipe.size_read_lt (Prod.ext h.1 rfl)

end Stream

end PeerLink
