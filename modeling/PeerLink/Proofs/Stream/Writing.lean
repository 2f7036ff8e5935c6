import PeerLink.Framing.Basic
import PeerLink.Proofs.Framing.Reading

/-!
# What a write puts on a stream

A pipe of an honest network that nobody has ended yet is *open*: what is written arrives behind what
was written before, and whoever finds nothing to read waits. `Wire.flush_of_open` says what a flush
does to such a pipe. On any other pipe a flush comes to one of three things, which `Wire.Flushes`
tells apart: the write fails, the octets are lost behind it, or they go through. In the first two
the network lets through as many of the octets as it likes, and none of them count as written.
-/

namespace PeerLink

/-- A pipe that delivers what is written. -/
structure Pipe.Open (pipe : Pipe) : Prop where
  /-- Nobody has ended the pipe. -/
  ended : pipe.ended = false
  /-- The pipe has not failed. -/
  reset : pipe.reset = false
  /-- Somebody reads the pipe. -/
  broken : pipe.broken = false
  /-- What is written can be flushed. -/
  clogged : pipe.clogged = false
  /-- The end of the pipe can be announced. -/
  jammed : pipe.jammed = false
  /-- The network changes nothing. -/
  flips : pipe.flips = []

/-- `pipe'` is an open pipe that `pipe` has become when `bytes` were written. -/
structure Pipe.Gained (bytes : Bytes) (pipe pipe' : Pipe) : Prop where
  /-- The pipe is still open. -/
  opened : pipe'.Open
  /-- The octets are queued behind the ones that were written before. -/
  queue : pipe'.queue.toBytes = pipe.queue.toBytes ++ bytes
  /-- The network lets through as many octets as before. -/
  gate : pipe'.gate = pipe.gate

namespace Pipe.Open

variable {pipe pipe' : Pipe}

/-- A pipe into which nothing was written is open, at any pace. -/
theorem of_new (pace : Nat → Option Nat) : Open { Pipe.new with pace } :=
  ⟨rfl, rfl, rfl, rfl, rfl, rfl⟩

/-- Whoever finds nothing to read waits. -/
theorem verge (h : pipe.Open) : pipe.verge = .wait := by
  simp only [Pipe.verge, h.ended, h.reset, Bool.false_eq_true, if_false, ite_self]

/-- Reading leaves a pipe open. -/
theorem advanced {n : Nat} (h : pipe.Open) (advanced : Pipe.Advanced n pipe pipe') :
    pipe'.Open := by
  obtain ⟨ended, reset, broken, clogged, jammed, flips⟩ := h
  have same := advanced.same
  constructor <;> rw [same] <;> assumption

/-- The network may hold octets back, or no longer do so. -/
theorem gated (h : pipe.Open) (gate : Option Nat) : Open { pipe with gate } :=
  ⟨h.ended, h.reset, h.broken, h.clogged, h.jammed, h.flips⟩

/-- Nothing is written by writing nothing. -/
theorem gained_nil (h : pipe.Open) : Gained [] pipe pipe :=
  ⟨h, (List.append_nil _).symm, rfl⟩

/-- What is written goes through. -/
theorem accepts (h : pipe.Open) : pipe.refuses = false := by
  rw [refuses, shut, h.ended, h.broken, h.clogged]
  rfl

/-- What is written can be flushed. -/
theorem flush (h : pipe.Open) : pipe.flush = .ok () := by
  rw [Pipe.flush, h.clogged]
  rfl

/-- What is written arrives behind what was written before. -/
theorem write (h : pipe.Open) (bytes : Bytes) :
    ∃ pipe', pipe.write bytes = (.ok (), pipe') ∧ Gained bytes pipe pipe' := by
  refine ⟨{ pipe with queue := pipe.queue.append bytes, sent := bytes :: pipe.sent }, ?_,
    ⟨h.ended, h.reset, h.broken, h.clogged, h.jammed, h.flips⟩, Buffer.toBytes_append _ _, rfl⟩
  simp only [Pipe.write, h.ended, h.broken, h.clogged, h.flips, Bool.false_eq_true, if_false]
  rfl

end Pipe.Open

/-- What is written, and then nothing more. -/
theorem Pipe.Gained.trans_nil {bytes : Bytes} {pipe pipe' pipe'' : Pipe}
    (h : Gained bytes pipe pipe') (h' : Gained [] pipe' pipe'') : Gained bytes pipe pipe'' where
  opened := h'.opened
  queue := by rw [h'.queue, h.queue, List.append_nil]
  gate := h'.gate.trans h.gate

/-- The end of an open pipe is announced. -/
theorem Stream.shutdown_of_open {stream : Stream} (h : stream.outbound.Open) :
    stream.shutdown.1 = .ok () := by
  rw [shutdown, Pipe.shutdown, h.jammed]
  rfl

/-! ## What the writer knows of a pipe -/

/-- What the writer knows of a pipe. -/
structure Pipe.Intake where
  /-- What was written and could be flushed, the latest first. -/
  sent : List Bytes
  /-- Whether writes fail. -/
  shut : Bool
  /-- Whether what is written cannot be flushed. -/
  clogged : Bool
  /-- Whether the end of the pipe cannot be announced. -/
  jammed : Bool

namespace Pipe

/-- What the writer knows of a pipe. -/
def intake (pipe : Pipe) : Intake := ⟨pipe.sent, pipe.shut, pipe.clogged, pipe.jammed⟩

section

variable {pipe pipe' : Pipe} {bytes : Bytes}

/-- Whether octets go through is known to the writer. -/
theorem refuses_of_intake (same : pipe'.intake = pipe.intake) : pipe'.refuses = pipe.refuses :=
  congrArg (fun intake : Intake => intake.shut || intake.clogged) same

/-- What was written is known to the writer. -/
theorem written_of_intake (same : pipe'.intake = pipe.intake) : pipe'.written = pipe.written :=
  congrArg (fun intake : Intake => intake.sent.reverse.flatten) same

/-- Writing has no part in whether octets go through. -/
theorem refuses_of_gained
    (gained : pipe'.intake = { pipe.intake with sent := bytes :: pipe.sent }) :
    pipe'.refuses = pipe.refuses :=
  congrArg (fun intake : Intake => intake.shut || intake.clogged) gained

/-- What was written is what was written before and the octets of a write. -/
theorem written_of_gained
    (gained : pipe'.intake = { pipe.intake with sent := bytes :: pipe.sent }) :
    pipe'.written = pipe.written ++ bytes := by
  rw [written, show pipe'.sent = _ from congrArg Intake.sent gained, written, List.reverse_cons,
    List.flatten_append, List.flatten_singleton]

end

/-- A write fails on a pipe that is shut, and nothing counts as written. -/
theorem write_of_shut {pipe : Pipe} (shut : pipe.shut = true) (bytes : Bytes) :
    ∃ pipe', pipe.write bytes = (.error .brokenPipe, pipe') ∧ pipe'.intake = pipe.intake := by
  rw [write]
  cases ended : pipe.ended with
  | true => exact ⟨pipe, rfl, rfl⟩
  | false =>
    rw [Pipe.shut, ended, Bool.false_or] at shut
    rw [shut]
    exact ⟨pipe.leak bytes, rfl, rfl⟩

/-- What is written to a pipe that cannot be flushed does not count as written. -/
theorem write_of_clogged {pipe : Pipe} (opened : pipe.shut = false) (clogged : pipe.clogged = true)
    (bytes : Bytes) : pipe.write bytes = (.ok (), pipe.leak bytes) := by
  rw [shut, Bool.or_eq_false_iff] at opened
  simp only [write, opened, clogged, Bool.false_eq_true, if_false, if_true]

/-- What is written to any other pipe goes through. -/
theorem write_of_accepts {pipe : Pipe} (accepts : pipe.refuses = false) (bytes : Bytes) :
    ∃ pipe', pipe.write bytes = (.ok (), pipe') ∧
      pipe'.intake = { pipe.intake with sent := bytes :: pipe.sent } := by
  rw [refuses, shut, Bool.or_eq_false_iff, Bool.or_eq_false_iff] at accepts
  simp only [write, accepts, Bool.false_eq_true, if_false]
  refine ⟨_, rfl, ?_⟩
  simp only [intake, shut, accepts]

end Pipe

/-- What a flush of a wire comes to. -/
inductive Wire.Flushes (wire : Wire) (stream : Stream) :
    Except IoError Unit × Wire × Stream → Prop
  /-- The write fails, and what is to be written is kept. -/
  | refused (something : wire.unwritten.isEmpty = false) (shut : stream.outbound.shut = true)
      {stream' : Stream} (inbound : stream'.inbound = stream.inbound)
      (same : stream'.outbound.intake = stream.outbound.intake) :
      Flushes wire stream (.error .brokenPipe, wire, stream')
  /-- What is to be written is lost, as the stream cannot be flushed. -/
  | lost (taken : wire.unwritten.isEmpty = true ∨ stream.outbound.shut = false)
      (clogged : stream.outbound.clogged = true)
      {stream' : Stream} (inbound : stream'.inbound = stream.inbound)
      (same : stream'.outbound.intake = stream.outbound.intake) :
      Flushes wire stream (.error .brokenPipe, { wire with unwritten := .empty }, stream')
  /-- There is nothing to write. -/
  | idle (nothing : wire.unwritten.isEmpty = true) (free : stream.outbound.clogged = false) :
      Flushes wire stream (.ok (), wire, stream)
  /-- What is to be written goes through. -/
  | through (something : wire.unwritten.isEmpty = false)
      (accepts : stream.outbound.refuses = false)
      {stream' : Stream} (inbound : stream'.inbound = stream.inbound)
      (gained : stream'.outbound.intake =
        { stream.outbound.intake with
          sent := wire.unwritten.toBytes :: stream.outbound.sent }) :
      Flushes wire stream (.ok (), { wire with unwritten := .empty }, stream')

/-- A wire without anything to write is as it is behind a flush. -/
theorem Wire.eq_flushed {wire : Wire} (nothing : wire.unwritten.isEmpty = true) :
    { wire with unwritten := .empty } = wire := by
  rw [← Buffer.eq_empty nothing]

/-- A flush of a wire comes to one of these. -/
theorem Wire.flushes (wire : Wire) (stream : Stream) :
    wire.Flushes stream (wire.flush stream) := by
  rw [flush]
  -- Without anything to write the stream is flushed all the same.
  cases nothing : wire.unwritten.isEmpty with
  | true =>
    rw [if_pos rfl, Stream.flush, Pipe.flush]
    cases clogged : stream.outbound.clogged with
    | true =>
      have lost : wire.Flushes stream
          (.error .brokenPipe, { wire with unwritten := .empty }, stream) :=
        .lost (.inl nothing) clogged rfl rfl
      rw [eq_flushed nothing] at lost
      exact lost
    | false => exact .idle nothing clogged
  | false =>
    rw [if_neg (by simp), Stream.write]
    cases shut : stream.outbound.shut with
    | true =>
      obtain ⟨outbound, refused, same⟩ := Pipe.write_of_shut shut wire.unwritten.toBytes
      rw [refused]
      exact .refused nothing shut rfl same
    | false =>
      cases clogged : stream.outbound.clogged with
      | true =>
        rw [Pipe.write_of_clogged shut clogged]
        show wire.Flushes stream (Pipe.flush (stream.outbound.leak _), _)
        rw [Pipe.flush, if_pos (by exact clogged)]
        exact .lost (.inr shut) clogged rfl rfl
      | false =>
        have accepts : stream.outbound.refuses = false := by rw [Pipe.refuses, shut, clogged]; rfl
        obtain ⟨outbound, wrote, gained⟩ := Pipe.write_of_accepts accepts wire.unwritten.toBytes
        rw [wrote]
        show wire.Flushes stream (outbound.flush, _)
        have free : outbound.clogged = false := (congrArg Pipe.Intake.clogged gained).trans clogged
        rw [Pipe.flush, free]
        exact .through nothing accepts rfl gained

/-- What is put on a wire is to be written last. -/
theorem Wire.toBytes_unwritten_put (bytes : Bytes) (wire : Wire) :
    (wire.put bytes).unwritten.toBytes = wire.unwritten.toBytes ++ bytes :=
  Buffer.toBytes_append _ _

/-- What is to be written is written to an open pipe. -/
theorem Wire.flush_of_open (wire : Wire) {stream : Stream} (h : stream.outbound.Open) :
    ∃ stream', wire.flush stream = (.ok (), { wire with unwritten := .empty }, stream') ∧
      stream'.inbound = stream.inbound ∧
      Pipe.Gained wire.unwritten.toBytes stream.outbound stream'.outbound := by
  cases nothing : wire.unwritten.isEmpty with
  | true =>
    refine ⟨stream, ?_, rfl, ?_⟩
    · rw [flush, nothing, if_pos rfl, Stream.flush, h.flush, eq_flushed nothing]
    · rw [Buffer.eq_empty nothing, Buffer.toBytes_empty]
      exact h.gained_nil
  | false =>
    obtain ⟨outbound, written, gained⟩ := h.write wire.unwritten.toBytes
    refine ⟨{ stream with outbound }, ?_, rfl, gained⟩
    rw [flush, nothing, if_neg (by simp), Stream.write, written]
    show (outbound.flush, _) = _
    rw [gained.opened.flush]

/-- A message is written to an open pipe when nothing else is to be written. -/
theorem Wire.flush_put (bytes : Bytes) {wire : Wire} (nothing : wire.unwritten = .empty)
    {stream : Stream} (h : stream.outbound.Open) :
    ∃ stream', (wire.put bytes).flush stream = (.ok (), wire, stream') ∧
      stream'.inbound = stream.inbound ∧ Pipe.Gained bytes stream.outbound stream'.outbound := by
  obtain ⟨stream', written, inbound, gained⟩ := (wire.put bytes).flush_of_open h
  have unwritten : (wire.put bytes).unwritten.toBytes = bytes := by
    rw [toBytes_unwritten_put, nothing, Buffer.toBytes_empty, List.nil_append]
  rw [unwritten] at gained
  refine ⟨stream', ?_, inbound, gained⟩
  rw [written, put]
  congr 2
  rw [← nothing]

/-- A message goes through when nothing else is to be written, or the flush fails and the message
does not count as written. -/
theorem Wire.flush_put_cases {wire : Wire} (nothing : wire.unwritten = .empty) {message : Bytes}
    (some_octets : message ≠ []) (stream : Stream) :
    (stream.outbound.refuses = true ∧ ∃ wire' stream', (wire.put message).flush stream =
        (.error .brokenPipe, wire', stream') ∧
        stream'.outbound.written = stream.outbound.written) ∨
      stream.outbound.refuses = false ∧ ∃ stream', (wire.put message).flush stream =
          (.ok (), wire, stream') ∧
        stream'.inbound = stream.inbound ∧ stream'.outbound.refuses = false ∧
        stream'.outbound.written = stream.outbound.written ++ message := by
  have unwritten : (wire.put message).unwritten.toBytes = message := by
    rw [toBytes_unwritten_put, nothing, Buffer.toBytes_empty, List.nil_append]
  have something : (wire.put message).unwritten.isEmpty = false := by
    rw [← Bool.not_eq_true, Buffer.isEmpty_iff, unwritten]
    exact some_octets
  have same_wire : { wire.put message with unwritten := .empty } = wire := by
    rw [put, ← nothing]
  have flushes := (wire.put message).flushes stream
  generalize (wire.put message).flush stream = result at flushes
  cases flushes with
  | refused _ shut _ same =>
    exact .inl ⟨by rw [Pipe.refuses, shut, Bool.true_or], _, _, rfl, Pipe.written_of_intake same⟩
  | lost _ clogged _ same =>
    exact .inl ⟨by rw [Pipe.refuses, clogged, Bool.or_true], _, _, rfl, Pipe.written_of_intake same⟩
  | idle nothing => rw [something] at nothing; cases nothing
  | @through _ accepts stream' inbound gained =>
    rw [same_wire]
    rw [unwritten] at gained
    exact .inr ⟨accepts, stream', rfl, inbound,
      (Pipe.refuses_of_gained gained).trans accepts, Pipe.written_of_gained gained⟩

end PeerLink
