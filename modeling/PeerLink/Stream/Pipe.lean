import PeerLink.Stream.Buffer
import PeerLink.Stream.Outcome

/-!
# Pipes

One direction of a stream between two peers. A pipe holds the octets that were written and not read
yet, and everything that was ever written. The network in between may hold octets back, change
them, lose them, add to them, end the pipe or fail it; a single read may return fewer octets than
there are. It may also fail what is written, behind as many octets as it likes: the write itself,
the flush behind it, or the shutdown at the end. Time is not modelled: a write that has to wait for
the reader is done at once, and a read that has to wait says so.
-/

namespace PeerLink

/-- The kinds of failures of streams and files. -/
inductive IoKind where
  /-- The stream ends before what was expected. -/
  | unexpectedEof
  /-- Nobody reads the stream any more. -/
  | brokenPipe
  /-- The other end has failed. -/
  | connectionReset
  /-- The octets are not what they should be. -/
  | invalidData
  /-- There is no such file. -/
  | notFound
  /-- Anything else. -/
  | other
  deriving DecidableEq, Repr

/-- A failure of a stream or a file. -/
structure IoError where
  /-- The kind of the failure. -/
  kind : IoKind
  /-- What went wrong, if it was found here and not by the system. -/
  detail : Option String
  deriving DecidableEq, Repr

namespace IoError

/-- A write to a stream that nobody reads. -/
def brokenPipe : IoError := ⟨.brokenPipe, none⟩

/-- A read from a stream whose other end has failed. -/
def connectionReset : IoError := ⟨.connectionReset, none⟩

/-- The end of a stream where more was expected. -/
def unexpectedEof (detail : String) : IoError := ⟨.unexpectedEof, some detail⟩

/-- Octets that are not what they should be. -/
def invalidData (detail : String) : IoError := ⟨.invalidData, some detail⟩

end IoError

/-- One direction of a stream. -/
structure Pipe where
  /-- The octets that are written and not read. -/
  queue : Buffer
  /-- Everything that was written and could be flushed, the latest first, before the network changed
  it. -/
  sent : List Bytes
  /-- How many octets may still be read, if the network holds back the others. -/
  gate : Option Nat
  /-- Whether the end of the stream follows the queue. -/
  ended : Bool
  /-- Whether a failure follows the queue. -/
  reset : Bool
  /-- Whether writes fail. -/
  broken : Bool
  /-- Whether what is written cannot be flushed. -/
  clogged : Bool
  /-- Whether the end of the pipe cannot be announced. -/
  jammed : Bool
  /-- How many octets get through all the same of writes that fail or cannot be flushed. -/
  slack : Nat
  /-- The places of what is written at which the network changes an octet, and the changed bits. -/
  flips : List (Nat × UInt8)
  /-- The most octets that a read returns, for each read in turn. -/
  pace : Nat → Option Nat
  /-- The number of reads that returned octets. -/
  reads : Nat

/-- What a read of a stream gives. -/
inductive ReadResult where
  /-- At least one octet. -/
  | data (bytes : Bytes)
  /-- The end of the stream. -/
  | stop
  /-- Nothing is there yet. -/
  | wait
  /-- The stream has failed. -/
  | failed (error : IoError)
  deriving DecidableEq, Repr

namespace Pipe

/-- A pipe into which nothing was written. -/
def new : Pipe where
  queue := .empty
  sent := []
  gate := none
  ended := false
  reset := false
  broken := false
  clogged := false
  jammed := false
  slack := 0
  flips := []
  pace := fun _ => none
  reads := 0

/-- Everything that was written and could be flushed, in order. -/
def written (pipe : Pipe) : Bytes :=
  pipe.sent.reverse.flatten

/-- The number of octets that were written. -/
def sentSize (pipe : Pipe) : Nat :=
  pipe.sent.foldl (fun n piece => n + piece.length) 0

/-- A bound, if there is one. -/
def atMost (bound : Option Nat) (n : Nat) : Nat :=
  match bound with
  | none => n
  | some limit => min limit n

/-- How many octets a read returns that asks for at most `n`. A read that returns anything returns
at least one octet, however slow the pace. -/
def readable (pipe : Pipe) (n : Nat) : Nat :=
  let ungated := atMost pipe.gate pipe.queue.size
  min ungated (atMost ((pipe.pace pipe.reads).map (max 1)) n)

/-- Reads at most `n` octets. -/
def read (n : Nat) (pipe : Pipe) : ReadResult × Pipe :=
  let size := pipe.readable n
  if 0 < size then
    (.data (pipe.queue.take size),
      { pipe with
        queue := pipe.queue.drop size
        gate := pipe.gate.map (· - size)
        reads := pipe.reads + 1 })
  else if pipe.queue.isEmpty then
    if pipe.reset then (.failed .connectionReset, pipe)
    else if pipe.ended then (.stop, pipe)
    else (.wait, pipe)
  else (.wait, pipe)

/-- Changes bits of the octet at a place. -/
def flip (bytes : Bytes) (place : Nat) (bits : UInt8) : Bytes :=
  bytes.modify place (· ^^^ bits)

/-- What arrives of octets that are written behind `offset` others. -/
def alter (offset : Nat) (flips : List (Nat × UInt8)) (bytes : Bytes) : Bytes :=
  flips.foldl (fun bytes (place, bits) => if offset ≤ place then flip bytes (place - offset) bits
    else bytes) bytes

/-- Whether writes fail. -/
def shut (pipe : Pipe) : Bool :=
  pipe.ended || pipe.broken

/-- Whether writes fail, or cannot be flushed. -/
def refuses (pipe : Pipe) : Bool :=
  pipe.shut || pipe.clogged

/-- What the network lets through of octets that are written in vain. They do not count as written,
as the writer is told that it has failed. -/
def leak (bytes : Bytes) (pipe : Pipe) : Pipe :=
  { pipe with
    queue := pipe.queue.append (bytes.take pipe.slack)
    slack := pipe.slack - bytes.length }

/-- Writes octets. -/
def write (bytes : Bytes) (pipe : Pipe) : Except IoError Unit × Pipe :=
  if pipe.ended then (.error .brokenPipe, pipe)
  else if pipe.broken then (.error .brokenPipe, pipe.leak bytes)
  else if pipe.clogged then (.ok (), pipe.leak bytes)
  else
    (.ok (),
      { pipe with
        queue := pipe.queue.append
          (if pipe.flips.isEmpty then bytes else alter pipe.sentSize pipe.flips bytes)
        sent := bytes :: pipe.sent })

/-- Flushes what was written. -/
def flush (pipe : Pipe) : Except IoError Unit :=
  if pipe.clogged then .error .brokenPipe else .ok ()

/-- The pipe with its end behind the queue. -/
def finish (pipe : Pipe) : Pipe :=
  { pipe with ended := true }

/-- Announces the end of the pipe. -/
def shutdown (pipe : Pipe) : Except IoError Unit × Pipe :=
  if pipe.jammed then (.error .brokenPipe, pipe) else (.ok (), pipe.finish)

/-- The pipe with nobody to read it. -/
def sever (pipe : Pipe) : Pipe :=
  { pipe with broken := true }

/-- A read that returns octets leaves fewer in the queue. -/
theorem size_read_lt {pipe pipe' : Pipe} {n : Nat} {bytes : Bytes}
    (h : pipe.read n = (.data bytes, pipe')) : pipe'.queue.size < pipe.queue.size := by
  unfold read at h
  dsimp only at h
  have bound : pipe.readable n ≤ pipe.queue.size := by
    unfold readable atMost
    cases pipe.gate <;> dsimp only <;> omega
  split at h
  · simp only [Prod.mk.injEq] at h
    rw [← h.2]
    simp only [Buffer.size_drop]
    omega
  · split at h
    · split at h
      · simp at h
      · split at h <;> simp at h
    · simp at h

/-! ## What the network may do -/

/-- Changes bits of a queued octet; `none` if the place is behind the queue. -/
def tamper? (place : Nat) (bits : UInt8) (pipe : Pipe) : Option Pipe :=
  if place < pipe.queue.size then
    some { pipe with queue := .ofBytes (flip pipe.queue.toBytes place bits) }
  else none

/-- Adds octets that nobody wrote. -/
def inject (bytes : Bytes) (pipe : Pipe) : Pipe :=
  { pipe with queue := pipe.queue.append bytes }

/-- Loses all but the first octets of the queue. -/
def truncate (keep : Nat) (pipe : Pipe) : Pipe :=
  { pipe with queue := .ofBytes (pipe.queue.take keep) }

/-- Loses the first octets of the queue. -/
def skip (n : Nat) (pipe : Pipe) : Pipe :=
  { pipe with queue := pipe.queue.drop n }

/-- Queues a part of what was written once more; `none` if it was not written yet. -/
def replay? (first last : Nat) (pipe : Pipe) : Option Pipe :=
  if first ≤ last ∧ last ≤ pipe.sentSize then
    some (pipe.inject ((pipe.written.drop first).take (last - first)))
  else none

end Pipe

end PeerLink
