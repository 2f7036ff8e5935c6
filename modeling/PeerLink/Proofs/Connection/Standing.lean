import PeerLink.Proofs.Connection.Halves
import PeerLink.Proofs.Framing.LengthPrefixed
import PeerLink.Proofs.Framing.Sequence

/-!
# What a writer is told

Whether a call of a writer succeeds is a matter of a few facts: the largest object that fits a
frame, whether the connection is closed, whether anything that was written is not on the stream yet,
and whether the stream can be written, flushed and shut down. They are the `Standing` of the writer,
and `Connection.write_standing` shows that a call comes to what the standing says, and leaves the
standing that the standing says.
-/

namespace PeerLink

open SealedFrames

/-- What decides on what the calls of a writer come to. -/
structure Standing where
  /-- The largest text of an object. -/
  limit : Nat
  /-- Whether the connection is closed. -/
  closed : Bool
  /-- Whether there is something that is written and not on the stream. -/
  keeps : Bool
  /-- Whether writes to the stream fail. -/
  shut : Bool
  /-- Whether what is written cannot be flushed. -/
  clogged : Bool
  /-- Whether the stream cannot be shut down. -/
  jammed : Bool

namespace Standing

/-- Whether the stream refuses what is written to it. -/
def refused (standing : Standing) : Bool := standing.shut || standing.clogged

/-- What writing everything that is kept comes to, and the standing behind it. What the stream takes
is no longer kept, even if it cannot be flushed. -/
def flush (standing : Standing) : Except ConnectionError Unit × Standing :=
  (if standing.keeps && standing.shut || standing.clogged then .error (.io .brokenPipe) else .ok (),
    { standing with keeps := standing.keeps && standing.shut })

/-- What a call of a writer comes to, and the standing behind it. -/
def write (standing : Standing) : WriteCall → Except ConnectionError Unit × Standing
  | .close =>
    if standing.closed then (.ok (), standing)
    else
      (if standing.keeps && standing.shut || standing.clogged || standing.jammed then
          .error (.io .brokenPipe)
        else .ok (),
        { standing with closed := true, keeps := false, shut := true })
  | .byte _ =>
    if standing.closed then (.error .closed, standing)
    else (.ok (), { standing with keeps := true })
  | .bytes octets =>
    if standing.closed then (.error .closed, standing)
    else (.ok (), { standing with keeps := standing.keeps || !octets.isEmpty })
  | .object value =>
    if standing.closed then (.error .closed, standing)
    else if standing.limit < value.encode.length then
      (.error (.frameTooLarge value.encode.length), standing)
    else { standing with keeps := true }.flush
  | .flush => if standing.closed then (.error .closed, standing) else standing.flush

variable {standing : Standing}

/-- Everything that is kept is written to a stream that refuses nothing. -/
theorem flush_of_accepts (accepts : standing.refused = false) :
    standing.flush = (.ok (), { standing with keeps := false }) := by
  rw [refused, Bool.or_eq_false_iff] at accepts
  simp only [flush, accepts, Bool.and_false, Bool.or_false, Bool.false_eq_true, if_false]

/-- An object is refused if it is too large, which leaves the standing as it is. -/
theorem write_large (opened : standing.closed = false) {value : Json}
    (large : standing.limit < value.encode.length) :
    standing.write (.object value) = (.error (.frameTooLarge value.encode.length), standing) := by
  simp only [write, opened, if_pos large]
  rfl

/-- Only an object that is too large is refused, and the standing stays as it is. -/
theorem eq_of_refused {standing' : Standing} {value : Json} {size : Nat}
    (refused : standing.write (.object value) = (.error (.frameTooLarge size), standing')) :
    standing' = standing := by
  simp only [write, flush] at refused
  split_ifs at refused
  · simp at refused
  · exact (Prod.mk.inj refused).2.symm
  · simp at refused
  · simp at refused

/-- An object that is not too large is written with everything that is kept. -/
theorem write_small (opened : standing.closed = false) {value : Json}
    (small : ¬ standing.limit < value.encode.length) :
    standing.write (.object value) = { standing with keeps := true }.flush := by
  simp only [write, opened, if_neg small]
  rfl

/-- Nothing is kept behind a flush that succeeds. -/
theorem keeps_of_flush {standing' : Standing} (flushed : standing.flush = (.ok (), standing')) :
    standing'.keeps = false := by
  simp only [flush] at flushed
  split_ifs at flushed with failing
  · simp at flushed
  · rw [Bool.or_eq_true, not_or, Bool.not_eq_true] at failing
    obtain ⟨-, rfl⟩ := Prod.mk.inj flushed
    exact failing.1

/-- Nothing is kept behind an object that is written. -/
theorem keeps_of_object {standing' : Standing} {value : Json}
    (written : standing.write (.object value) = (.ok (), standing')) :
    standing'.keeps = false := by
  simp only [write] at written
  split_ifs at written
  · simp at written
  · simp at written
  · exact keeps_of_flush written

/-- No call makes a difference to whether the stream can be flushed. -/
theorem clogged_write (standing : Standing) (call : WriteCall) :
    (standing.write call).2.clogged = standing.clogged := by
  cases call <;> simp only [write, flush] <;> split_ifs <;> rfl

/-- No call makes a difference to whether the stream can be shut down. -/
theorem jammed_write (standing : Standing) (call : WriteCall) :
    (standing.write call).2.jammed = standing.jammed := by
  cases call <;> simp only [write, flush] <;> split_ifs <;> rfl

end Standing

/-- There is nothing in a buffer to which octets were appended if there was nothing before and none
were. -/
theorem Buffer.isEmpty_append (buffer : Buffer) (bytes : Bytes) :
    (buffer.append bytes).isEmpty = (buffer.isEmpty && bytes.isEmpty) := by
  rw [Bool.eq_iff_iff, Bool.and_eq_true, isEmpty_iff, isEmpty_iff, toBytes_append,
    List.append_eq_nil_iff, List.isEmpty_iff]

/-- There is something to write on a wire on which octets were put. -/
theorem Wire.isEmpty_put {bytes : Bytes} (some_octets : bytes ≠ []) (wire : Wire) :
    (wire.put bytes).unwritten.isEmpty = false := by
  rw [put, Buffer.isEmpty_append, Bool.and_eq_false_iff]
  exact .inr (List.isEmpty_eq_false_iff.2 some_octets)

/-- There is something that is sealed and not on the stream if there was, or if something was
pending. -/
theorem SecureLayer.isEmpty_sealPending (suite : Suite) (wire : Wire) (layer : SecureLayer) :
    (layer.sealPending suite wire).1.unwritten.isEmpty =
      (wire.unwritten.isEmpty && layer.pending.isEmpty) := by
  obtain ⟨octets, -⟩ := sealFrames_pieces suite layer.sender wire.unwritten layer.pending.toBytes
  rw [Bool.eq_iff_iff, Bool.and_eq_true, Buffer.isEmpty_iff, Buffer.isEmpty_iff,
    Buffer.isEmpty_iff, show (layer.sealPending suite wire).1.unwritten.toBytes = _ from octets,
    List.append_eq_nil_iff]
  refine and_congr_right fun _ => ?_
  cases layer.pending.toBytes with
  | nil => simp [pieces, SealedFrames.frames]
  | cons b rest => simp [pieces, SealedFrames.frames, frame_ne_nil]

namespace Connection

/-- Whether there is something that is written and not on the stream. -/
def keeps (connection : Connection) : Bool :=
  match connection.wire with
  | none => false
  | some wire =>
    match connection.channel with
    | .bare _ => !wire.unwritten.isEmpty
    | .secure layer => !(wire.unwritten.isEmpty && layer.pending.isEmpty)

/-- The standing of a writer at a stream. -/
def standing (connection : Connection) (stream : Stream) : Standing where
  limit := if connection.isSecure then maxPayload else LengthPrefixed.maxSize
  closed := connection.isClosed
  keeps := connection.keeps
  shut := stream.outbound.shut
  clogged := stream.outbound.clogged
  jammed := stream.outbound.jammed

/-- Of a stream the standing of a writer is what the writer knows of the pipe. -/
theorem standing_of_intake (connection : Connection) {stream stream' : Stream}
    (same : stream'.outbound.intake = stream.outbound.intake) :
    connection.standing stream' = connection.standing stream :=
  congrArg (fun intake : Pipe.Intake =>
    Standing.mk _ _ _ intake.shut intake.clogged intake.jammed) same

/-- Writes fail once nobody reads the pipe. -/
theorem standing_of_sever (connection : Connection) {stream stream' : Stream}
    (severed : stream'.outbound = stream.outbound.sever) :
    connection.standing stream' = { connection.standing stream with shut := true } := by
  have shut : stream.outbound.sever.shut = true := Bool.or_true _
  rw [standing, severed, shut]
  rfl

/-- The standing of a writer does not depend on what it reads. -/
theorem WritesAlike.standing_eq {connection connection' : Connection}
    (alike : connection.WritesAlike connection') {stream stream' : Stream}
    (same : stream'.outbound = stream.outbound) :
    connection'.standing stream' = connection.standing stream := by
  rw [connection'.standing_of_intake (congrArg Pipe.intake same)]
  cases alike with
  | bare => rfl
  | secure => rfl
  | closed none_left none_left' channels =>
    obtain ⟨_, _, _, _⟩ := connection
    obtain ⟨_, _, _, _⟩ := connection'
    obtain rfl := none_left
    obtain rfl := none_left'
    cases channels <;> rfl

/-- What is kept is to be written once what is pending is sealed. -/
theorem keeps_eq (suite : Suite) (wire : Wire) (channel : Channel) (address : Option Endpoint)
    (resolution : Resolution) : keeps ⟨some wire, channel, address, resolution⟩ =
      !(Connection.sealPending suite wire channel).1.unwritten.isEmpty := by
  cases channel with
  | bare frames => rfl
  | secure layer =>
    show (!(wire.unwritten.isEmpty && layer.pending.isEmpty)) = _
    rw [← layer.isEmpty_sealPending suite wire]
    rfl

/-- Sealing makes no other channel of a secure one. -/
theorem isSecure_sealPending (suite : Suite) (wire : Wire) (channel : Channel)
    (wires wires' : Option Wire) (address : Option Endpoint) (resolution : Resolution) :
    isSecure ⟨wires', (Connection.sealPending suite wire channel).2, address, resolution⟩ =
      isSecure ⟨wires, channel, address, resolution⟩ := by
  cases channel <;> rfl

/-- What a flush comes to when nothing is pending, and the standing behind it. -/
theorem flushWire_standing (connection : Connection) (channel : Channel) (wire : Wire)
    (stream : Stream)
    (none_pending : ∀ wire, keeps { connection with wire := some wire, channel } =
      !wire.unwritten.isEmpty) :
    (standing { connection with wire := some wire, channel } stream).flush =
      ((connection.flushWire channel wire stream).1,
        (connection.flushWire channel wire stream).2.1.standing
          (connection.flushWire channel wire stream).2.2) := by
  have flushes := wire.flushes stream
  simp only [flushWire]
  generalize wire.flush stream = result at flushes
  -- The four ways of a flush: the write fails, the flush behind it does, nothing is to be written,
  -- or all goes through.
  cases flushes with
  | refused something shut inbound same =>
    rw [standing_of_intake _ same]
    simp only [Standing.flush, standing, none_pending, something, shut]
    rfl
  | lost taken clogged inbound same =>
    rw [standing_of_intake _ same]
    have none_kept : (!wire.unwritten.isEmpty && stream.outbound.shut) = false := by
      rcases taken with nothing | opened
      · rw [nothing]
        rfl
      · rw [opened, Bool.and_false]
    simp only [Standing.flush, standing, none_pending, clogged, none_kept]
    rfl
  | idle nothing free =>
    simp only [Standing.flush, standing, none_pending, nothing, free]
    rfl
  | @through something accepts stream' inbound gained =>
    rw [Pipe.refuses, Bool.or_eq_false_iff] at accepts
    have shut : stream'.outbound.shut = stream.outbound.shut := congrArg Pipe.Intake.shut gained
    have clogged : stream'.outbound.clogged = stream.outbound.clogged :=
      congrArg Pipe.Intake.clogged gained
    have jammed : stream'.outbound.jammed = stream.outbound.jammed :=
      congrArg Pipe.Intake.jammed gained
    simp only [Standing.flush, standing, none_pending, shut, clogged, jammed, accepts]
    rw [Bool.and_false]
    rfl

/-- Nothing is pending once it is sealed. -/
theorem keeps_sealed (suite : Suite) (wire wire' : Wire) (channel : Channel)
    (address : Option Endpoint) (resolution : Resolution) :
    keeps ⟨some wire', (Connection.sealPending suite wire channel).2, address, resolution⟩ =
      !wire'.unwritten.isEmpty := by
  cases channel with
  | bare frames => rfl
  | secure layer => exact congrArg (!·) (Bool.and_true _)

variable (suite : Suite) (wire : Wire) (channel : Channel) (address : Option Endpoint)
  (resolution : Resolution) (stream : Stream)

/-- Sealing what is pending has no part in the standing. -/
theorem standing_sealPending :
    standing ⟨some (Connection.sealPending suite wire channel).1,
        (Connection.sealPending suite wire channel).2, address, resolution⟩ stream =
      standing ⟨some wire, channel, address, resolution⟩ stream := by
  simp only [standing, keeps_sealed, keeps_eq suite wire channel,
    isSecure_sealPending suite wire channel (some wire)]
  rfl

/-- What a flush comes to, and the standing behind it. -/
theorem flush_standing :
    (standing ⟨some wire, channel, address, resolution⟩ stream).write .flush =
      ((flush suite ⟨some wire, channel, address, resolution⟩ stream).1,
        (flush suite ⟨some wire, channel, address, resolution⟩ stream).2.1.standing
          (flush suite ⟨some wire, channel, address, resolution⟩ stream).2.2) := by
  rw [← standing_sealPending suite]
  exact flushWire_standing ⟨some wire, channel, address, resolution⟩
    (Connection.sealPending suite wire channel).2 (Connection.sealPending suite wire channel).1
    stream fun wire' => keeps_sealed suite wire wire' channel address resolution

/-- What closing comes to, and the standing behind it. -/
theorem close_standing :
    (standing ⟨some wire, channel, address, resolution⟩ stream).write .close =
      ((close suite ⟨some wire, channel, address, resolution⟩ stream).1,
        (close suite ⟨some wire, channel, address, resolution⟩ stream).2.1.standing
          (close suite ⟨some wire, channel, address, resolution⟩ stream).2.2) := by
  have flushes := (Connection.sealPending suite wire channel).1.flushes stream
  have keeps := keeps_sealed suite wire (Connection.sealPending suite wire channel).1 channel
    address resolution
  rw [← standing_sealPending suite]
  simp only [close, Standing.write, Stream.release_shutdown]
  generalize (Connection.sealPending suite wire channel).1 = wire' at flushes keeps ⊢
  generalize (Connection.sealPending suite wire channel).2 = channel' at keeps ⊢
  generalize wire'.flush stream = result at flushes
  -- The stream is let go of in any case, and it is ended then.
  have released {stream' : Stream} (clogged : stream'.outbound.clogged = stream.outbound.clogged)
      (jammed : stream'.outbound.jammed = stream.outbound.jammed) :
      standing ⟨none, channel', address, resolution⟩ stream'.release =
        { standing ⟨some wire', channel', address, resolution⟩ stream with
          closed := true, keeps := false, shut := true } := by
    simp only [standing, ← clogged, ← jammed]
    rfl
  rw [if_neg (by simp [standing, isClosed])]
  cases flushes with
  | refused something shut inbound same =>
    rw [← released (congrArg Pipe.Intake.clogged same) (congrArg Pipe.Intake.jammed same)]
    simp only [standing, keeps, something, shut]
    rfl
  | lost taken clogged inbound same =>
    rw [← released (congrArg Pipe.Intake.clogged same) (congrArg Pipe.Intake.jammed same)]
    simp only [standing, clogged, Bool.or_true, Bool.true_or, if_true]
  | idle nothing free =>
    rw [← released rfl rfl]
    simp only [standing, keeps, nothing, free, Stream.shutdown, Pipe.shutdown]
    cases stream.outbound.jammed <;> rfl
  | @through something accepts stream' inbound gained =>
    have jammed : stream'.outbound.jammed = stream.outbound.jammed :=
      congrArg Pipe.Intake.jammed gained
    rw [Pipe.refuses, Bool.or_eq_false_iff] at accepts
    rw [← released (congrArg Pipe.Intake.clogged gained) jammed]
    simp only [standing, accepts, Bool.and_false, Stream.shutdown, Pipe.shutdown, jammed]
    cases stream.outbound.jammed <;> rfl

/-- What a frame comes to that is put behind everything else, and the standing behind it. -/
theorem frame_standing {frame : Bytes} (some_octets : frame ≠ [])
    (none_pending : ∀ wire, keeps ⟨some wire, channel, address, resolution⟩ =
      !wire.unwritten.isEmpty) (wires : Option Wire) (channel' : Channel) :
    { standing ⟨some wire, channel, address, resolution⟩ stream with keeps := true }.flush =
      ((flushWire channel (wire.put frame) ⟨wires, channel', address, resolution⟩ stream).1,
        (flushWire channel (wire.put frame) ⟨wires, channel', address, resolution⟩
            stream).2.1.standing
          (flushWire channel (wire.put frame) ⟨wires, channel', address, resolution⟩
            stream).2.2) := by
  have told := flushWire_standing ⟨wires, channel', address, resolution⟩ channel (wire.put frame)
    stream none_pending
  rw [← told]
  simp only [standing, none_pending, Wire.isEmpty_put some_octets]
  rfl

/-- What a writer is told depends on its standing, and so does its standing afterwards. -/
theorem write_standing (suite : Suite) (call : WriteCall) (connection : Connection)
    (stream : Stream) :
    (connection.standing stream).write call =
      ((connection.write suite call stream).1,
        (connection.write suite call stream).2.1.standing
          (connection.write suite call stream).2.2) := by
  obtain ⟨_ | wire, channel, address, resolution⟩ := connection
  · cases call <;> rfl
  · cases call with
    | byte octet =>
      cases channel <;>
        simp [Standing.write, standing, keeps, isClosed, isSecure, write, writeByte, writeBytes,
          Wire.put, Buffer.isEmpty_append]
    | bytes octets =>
      cases channel <;>
        simp [Standing.write, standing, keeps, isClosed, isSecure, write, writeBytes,
          Wire.put, Buffer.isEmpty_append, Bool.or_assoc]
    | object value =>
      cases channel with
      | bare frames =>
        by_cases large : LengthPrefixed.maxSize < value.encode.length
        · rw [Standing.write_large rfl large]
          simp only [write, writeObject, if_pos large]
        · rw [Standing.write_small rfl large]
          simp only [write, writeObject, if_neg large]
          exact frame_standing wire (.bare frames) address resolution stream
            (LengthPrefixed.encode_ne_nil value.encode) (fun _ => rfl) (some wire) (.bare frames)
      | secure layer =>
        -- What is pending is sealed before it shows whether the object fits a frame.
        have none_pending := fun wire' =>
          keeps_sealed suite wire wire' (.secure layer) address resolution
        rw [← standing_sealPending suite]
        simp only [write, writeObject]
        simp only [Connection.sealPending] at none_pending ⊢
        generalize layer.sealPending suite wire = sealed at none_pending
        obtain ⟨wire', layer'⟩ := sealed
        by_cases small : value.encode.length ≤ maxPayload
        · rw [Standing.write_small rfl (Nat.not_lt.2 small)]
          simp only [encode?_eq, if_pos small]
          exact frame_standing wire' (.secure { layer' with sender := layer'.sender.advance suite })
            address resolution stream (frame_ne_nil suite layer'.sender value.encode) none_pending
            (some wire) (.secure layer)
        · rw [Standing.write_large rfl (Nat.lt_of_not_le small)]
          simp only [encode?_eq, if_neg small]
    | flush => exact flush_standing suite wire channel address resolution stream
    | close => exact close_standing suite wire channel address resolution stream

/-- No call of the writer makes a difference to whether the stream can be flushed. -/
theorem clogged_write (suite : Suite) (call : WriteCall) (connection : Connection)
    (stream : Stream) : (connection.write suite call stream).2.2.outbound.clogged =
      stream.outbound.clogged := by
  have clogged := congrArg (·.2.clogged) (connection.write_standing suite call stream)
  exact clogged.symm.trans (Standing.clogged_write _ _)

/-- No call of the writer makes a difference to whether the stream can be shut down. -/
theorem jammed_write (suite : Suite) (call : WriteCall) (connection : Connection)
    (stream : Stream) : (connection.write suite call stream).2.2.outbound.jammed =
      stream.outbound.jammed := by
  have jammed := congrArg (·.2.jammed) (connection.write_standing suite call stream)
  exact jammed.symm.trans (Standing.jammed_write _ _)

end Connection

end PeerLink
