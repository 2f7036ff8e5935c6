import Mathlib.Algebra.Order.BigOperators.Group.List
import Mathlib.Algebra.Order.Floor.Div
import PeerLink.Proofs.Connection.Standing
import PeerLink.Proofs.Connection.Transit
import PeerLink.Proofs.Crypto.Standard

/-!
# Buffered octets in as few frames as possible

The octets that are written on a secure connection stay in its buffer until a flush, an object or a
close seals them. What is sealed then depends on nothing but their sequence: they go out in pieces
that are as large as a frame allows, but for the last one, so that there is no way to put them in
fewer frames (`length_pieces`, `length_pieces_le`). How they were cut into calls leaves no trace
(`Settled.packed`).

What a writer puts on its stream is a matter of its `Outbox`: the half that seals, the octets that
are sealed and not written, and the ones that are pending. `Connection.write_outbox` shows that a
call of a writer does what the outbox says.
-/

namespace PeerLink

open SealedFrames

/-! ## Pieces -/

namespace SealedFrames

/-- Texts that fit a frame are not longer than as many full frames. -/
theorem length_flatten_le {texts : List Bytes} (fit : ∀ text ∈ texts, text.length ≤ maxPayload) :
    texts.flatten.length ≤ maxPayload * texts.length := by
  have each := List.sum_le_card_nsmul (texts.map List.length) maxPayload (by simpa using fit)
  rw [List.length_flatten, Nat.mul_comm, ← List.length_map (f := List.length)]
  exact each

/-- There is one piece for each full frame, and one for what is left. -/
theorem length_pieces (bytes : Bytes) :
    (pieces bytes).length = bytes.length ⌈/⌉ maxPayload := by
  have positive : 0 < maxPayload := by decide
  fun_induction pieces bytes with
  | case1 => exact (zero_ceilDiv _).symm
  | case2 b rest ih =>
    rw [List.length_cons, ih, List.length_drop, Nat.ceilDiv_eq_add_pred_div,
      Nat.ceilDiv_eq_add_pred_div]
    rcases Nat.le_total (b :: rest).length maxPayload with le | ge
    · have some_octets : 0 < (b :: rest).length := Nat.succ_pos _
      rw [Nat.sub_eq_zero_of_le le, Nat.div_eq_of_lt (by omega)]
      exact (Nat.div_eq_of_lt_le (by omega) (by omega)).symm
    · rw [← Nat.add_div_right _ positive]
      congr 1
      omega

/-- All pieces but the last one are as large as a frame allows. -/
theorem length_of_mem_dropLast {bytes piece : Bytes} (mem : piece ∈ (pieces bytes).dropLast) :
    piece.length = maxPayload := by
  fun_induction pieces bytes with
  | case1 => simp at mem
  | case2 b rest ih =>
    cases behind : pieces ((b :: rest).drop maxPayload) with
    | nil => simp [behind] at mem
    | cons next later =>
      rw [behind, List.dropLast_cons_cons] at mem
      rcases List.mem_cons.1 mem with rfl | mem
      · -- Something is behind the first piece.
        rw [List.length_take, Nat.min_eq_left]
        by_contra short
        rw [List.drop_eq_nil_of_le (Nat.le_of_not_le short), pieces] at behind
        cases behind
      · exact ih (behind ▸ mem)

/-- Octets cannot be put in fewer frames. -/
theorem length_pieces_le {texts : List Bytes} (fit : ∀ text ∈ texts, text.length ≤ maxPayload) :
    (pieces texts.flatten).length ≤ texts.length := by
  rw [length_pieces, ceilDiv_le_iff_le_mul (by decide)]
  exact length_flatten_le fit

/-- A frame is longer than its text by its length and the tag. -/
theorem length_frame (suite : Suite) (half : Sealing) (text : Bytes) :
    (frame suite half text).length = text.length + 18 := by
  rw [frame, List.length_append, Bytes.length_ofNatBE, length_sealMessage, headSize, Suite.tagSize]
  omega

/-- Frames are longer than their texts by 18 octets for each frame. -/
theorem length_frames (suite : Suite) (half : Sealing) (texts : List Bytes) :
    (frames suite half texts).length = texts.flatten.length + 18 * texts.length := by
  induction texts generalizing half with
  | nil => rfl
  | cons text texts ih =>
    rw [frames, List.length_append, ih, length_frame, List.flatten_cons, List.length_append,
      List.length_cons]
    omega

end SealedFrames

/-! ## What a writer puts on its stream -/

/-- Puts octets on a pipe, if there are any. -/
def Pipe.put (bytes : Bytes) (pipe : Pipe) : Except IoError Unit × Pipe :=
  if bytes.isEmpty then (.ok (), pipe) else pipe.write bytes

/-- What a writer has buffered on a secure connection. -/
structure Outbox where
  /-- Whether the connection is closed. -/
  closed : Bool
  /-- The half of the channel that seals. -/
  sender : Sealing
  /-- The octets that are sealed and not written. -/
  sealed : Bytes
  /-- The octets that are written by the writer and not sealed. -/
  pending : Bytes

namespace Outbox

/-- Puts what is sealed on a pipe and flushes the pipe. -/
def flush (outbox : Outbox) (pipe : Pipe) : Except ConnectionError Unit × Outbox × Pipe :=
  match pipe.put outbox.sealed with
  | (.error e, pipe) => (.error (.io e), outbox, pipe)
  | (.ok (), pipe) => (pipe.flush.mapError .io, { outbox with sealed := [] }, pipe)

/-- Seals what is pending. -/
def sealUp (suite : Suite) (outbox : Outbox) : Outbox where
  closed := outbox.closed
  sender := outbox.sender.after suite (pieces outbox.pending).length
  sealed := outbox.sealed ++ frames suite outbox.sender (pieces outbox.pending)
  pending := []

/-- Seals a text of its own. -/
def add (suite : Suite) (text : Bytes) (outbox : Outbox) : Outbox :=
  { outbox with
    sender := outbox.sender.advance suite
    sealed := outbox.sealed ++ frame suite outbox.sender text }

/-- Lets go of what is sealed, written or not, and of the pipe, whose end is announced behind a
flush. -/
def finish : Except ConnectionError Unit × Outbox × Pipe →
    Except ConnectionError Unit × Outbox × Pipe
  | (.error e, outbox, pipe) =>
    (.error e, { outbox with closed := true, sealed := [] }, pipe.finish)
  | (.ok (), outbox, pipe) =>
    (pipe.shutdown.1.mapError .io, { outbox with closed := true, sealed := [] }, pipe.finish)

/-- A call of a writer. -/
def write (suite : Suite) (call : WriteCall) (outbox : Outbox) (pipe : Pipe) :
    Except ConnectionError Unit × Outbox × Pipe :=
  match outbox.closed, call with
  | true, .close => (.ok (), outbox, pipe)
  | true, _ => (.error .closed, outbox, pipe)
  | false, .byte octet => (.ok (), { outbox with pending := outbox.pending ++ [octet] }, pipe)
  | false, .bytes octets => (.ok (), { outbox with pending := outbox.pending ++ octets }, pipe)
  | false, .flush => (outbox.sealUp suite).flush pipe
  | false, .close => finish ((outbox.sealUp suite).flush pipe)
  | false, .object value =>
    if value.encode.length ≤ maxPayload then
      ((outbox.sealUp suite).add suite value.encode).flush pipe
    else (.error (.frameTooLarge value.encode.length), outbox.sealUp suite, pipe)

end Outbox

/-- What the writer has buffered over an open wire. -/
def SecureLayer.outbox (wire : Wire) (layer : SecureLayer) : Outbox :=
  ⟨false, layer.sender, wire.unwritten.toBytes, layer.pending.toBytes⟩

/-- What the writer of a secure connection has buffered. -/
def Connection.outbox? (connection : Connection) : Option Outbox :=
  match connection.channel with
  | .bare _ => none
  | .secure layer =>
    some ⟨connection.isClosed, layer.sender, unwritten connection.wire, layer.pending.toBytes⟩

/-- Octets that were put on a pipe are the last ones that were written if they could be flushed. -/
theorem Pipe.written_of_put {bytes : Bytes} {pipe pipe' : Pipe}
    (put : pipe.put bytes = (.ok (), pipe')) (flushed : pipe'.flush = .ok ()) :
    pipe'.written = pipe.written ++ bytes := by
  unfold Pipe.put at put
  split_ifs at put with nothing
  · obtain ⟨-, rfl⟩ := Prod.mk.inj put
    rw [List.isEmpty_iff.1 nothing, List.append_nil]
  · cases shut : pipe.shut with
    | true =>
      obtain ⟨_, refused, -⟩ := Pipe.write_of_shut shut bytes
      rw [refused] at put
      cases put
    | false =>
      cases clogged : pipe.clogged with
      | true =>
        obtain ⟨-, rfl⟩ := Prod.mk.inj ((Pipe.write_of_clogged shut clogged bytes).symm.trans put)
        rw [Pipe.flush, if_pos (by exact clogged)] at flushed
        cases flushed
      | false =>
        obtain ⟨next, wrote, gained⟩ :=
          Pipe.write_of_accepts (by rw [Pipe.refuses, shut, clogged]; rfl) bytes
        obtain ⟨-, rfl⟩ := Prod.mk.inj (wrote.symm.trans put)
        exact Pipe.written_of_gained gained

/-- A wire puts what is to be written on the pipe, and keeps it if the write fails. -/
theorem Wire.flush_eq_put (wire : Wire) (stream : Stream) :
    ((wire.flush stream).1.mapError ConnectionError.io,
        (wire.flush stream).2.1.unwritten.toBytes, (wire.flush stream).2.2.outbound) =
      match stream.outbound.put wire.unwritten.toBytes with
      | (.error e, pipe) => (.error (.io e), wire.unwritten.toBytes, pipe)
      | (.ok (), pipe) => (pipe.flush.mapError .io, [], pipe) := by
  have empty_iff : wire.unwritten.toBytes.isEmpty = wire.unwritten.isEmpty := by
    rw [Bool.eq_iff_iff, List.isEmpty_iff, Buffer.isEmpty_iff]
  unfold flush Stream.write Pipe.put
  rw [empty_iff]
  cases nothing : wire.unwritten.isEmpty with
  | true =>
    simp only [if_pos, Buffer.toBytes_eq_nil nothing]
    rfl
  | false =>
    rcases stream.outbound.write wire.unwritten.toBytes with ⟨_ | _, pipe⟩
    · rfl
    · rfl

namespace Connection

variable {suite : Suite} {connection : Connection} {outbox : Outbox}

/-- What a reader does has no part in what is buffered. -/
theorem WritesAlike.outbox?_eq {connection' : Connection}
    (alike : connection.WritesAlike connection') : connection'.outbox? = connection.outbox? := by
  cases alike with
  | bare => rfl
  | secure => rfl
  | closed none_left none_left' channels =>
    obtain ⟨_, _, _, _⟩ := connection
    obtain ⟨_, _, _, _⟩ := connection'
    obtain rfl := none_left
    obtain rfl := none_left'
    cases channels <;> rfl

/-- What a call of a writer comes to, and what it leaves in the outbox and on the pipe. -/
def posts : Except ConnectionError Unit × Connection × Stream →
    Except ConnectionError Unit × Option Outbox × Pipe
  | (outcome, connection, stream) => (outcome, connection.outbox?, stream.outbound)

/-- A flush puts on the pipe what is sealed. -/
theorem posts_flushWire (layer : SecureLayer) (wire : Wire) (connection : Connection)
    (stream : Stream) :
    posts (connection.flushWire (.secure layer) wire stream) =
      Prod.map id (Prod.map some id) ((layer.outbox wire).flush stream.outbound) := by
  have flushed := wire.flush_eq_put stream
  unfold flushWire Outbox.flush
  generalize wire.flush stream = result at flushed
  obtain ⟨outcome, wire', stream'⟩ := result
  rcases put : stream.outbound.put wire.unwritten.toBytes with ⟨_ | _, pipe⟩
  all_goals
    simp only [put, Prod.mk.injEq] at flushed
    obtain ⟨outcome_eq, unwritten_eq, pipe_eq⟩ := flushed
    simp [posts, outbox?, SecureLayer.outbox, isClosed, unwritten, put, outcome_eq, unwritten_eq,
      pipe_eq]

/-- What is pending is sealed behind what was sealed before. -/
theorem outbox_sealPending (suite : Suite) (wire : Wire) (layer : SecureLayer) :
    (layer.sealPending suite wire).2.outbox (layer.sealPending suite wire).1 =
      (layer.outbox wire).sealUp suite := by
  obtain ⟨octets, half⟩ :=
    sealFrames_pieces suite layer.sender wire.unwritten layer.pending.toBytes
  simp only [SecureLayer.sealPending, SecureLayer.outbox, Outbox.sealUp, octets, half,
    Buffer.toBytes_empty]

/-- A call of a writer does what the outbox says. -/
theorem write_outbox (holds : connection.outbox? = some outbox) (call : WriteCall)
    (stream : Stream) :
    posts (connection.write suite call stream) =
      Prod.map id (Prod.map some id) (outbox.write suite call stream.outbound) := by
  obtain ⟨_ | wire, frames | layer, address, resolution⟩ := connection
  · simp [outbox?] at holds
  · obtain rfl := Option.some.inj holds
    cases call <;> rfl
  · simp [outbox?] at holds
  · obtain rfl : layer.outbox wire = outbox := Option.some.inj holds
    -- The outbox of the sealed layer is the sealed outbox: the calls agree from here on.
    have sealed := outbox_sealPending suite wire layer
    cases call with
    | byte octet =>
      simp [write, writeByte, writeBytes, posts, outbox?, Outbox.write, SecureLayer.outbox,
        isClosed, unwritten]
    | bytes octets =>
      simp [write, writeBytes, posts, outbox?, Outbox.write, SecureLayer.outbox, isClosed,
        unwritten]
    | flush =>
      exact (posts_flushWire _ _ _ stream).trans
        (congrArg (fun outbox => Prod.map id _ (Outbox.flush outbox _)) sealed)
    | close =>
      show posts (close suite ⟨some wire, .secure layer, address, resolution⟩ stream) =
        Prod.map id (Prod.map some id)
          (Outbox.finish (((layer.outbox wire).sealUp suite).flush stream.outbound))
      rw [← sealed]
      -- Whether the flush or the shutdown fails, the connection lets go of the stream.
      have flushed := (layer.sealPending suite wire).1.flush_eq_put stream
      simp only [close, sealPending]
      unfold Outbox.flush
      generalize (layer.sealPending suite wire).1.flush stream = result at flushed
      obtain ⟨outcome, wire', stream'⟩ := result
      simp only [SecureLayer.outbox]
      rcases put : stream.outbound.put (layer.sealPending suite wire).1.unwritten.toBytes with
        ⟨_ | _, pipe⟩
      all_goals
        simp only [put, Prod.mk.injEq] at flushed
        obtain ⟨outcome_eq, -, rfl⟩ := flushed
        simp only [← outcome_eq, Stream.release_shutdown]
        cases outcome <;> rfl
    | object value =>
      show posts (writeObject suite value ⟨some wire, .secure layer, address, resolution⟩ stream) =
        Prod.map id (Prod.map some id)
          (if value.encode.length ≤ maxPayload then
            (((layer.outbox wire).sealUp suite).add suite value.encode).flush stream.outbound
          else (.error (.frameTooLarge value.encode.length), (layer.outbox wire).sealUp suite,
            stream.outbound))
      rw [← sealed]
      simp only [writeObject, SealedFrames.encode?_eq]
      split_ifs with small
      · refine (posts_flushWire _ _ _ stream).trans
          (congrArg (fun outbox => Prod.map id _ (Outbox.flush outbox _)) ?_)
        simp [SecureLayer.outbox, Outbox.add, Wire.toBytes_unwritten_put]
      · rfl

/-- What a writer is told is what the outbox says. -/
theorem outcome_write (holds : connection.outbox? = some outbox) (call : WriteCall)
    (stream : Stream) :
    (connection.write suite call stream).1 = (outbox.write suite call stream.outbound).1 :=
  congrArg (·.1) (write_outbox holds call stream)

/-- What a call of a writer leaves in the outbox. -/
theorem outbox?_write (holds : connection.outbox? = some outbox) (call : WriteCall)
    (stream : Stream) :
    (connection.write suite call stream).2.1.outbox? =
      some (outbox.write suite call stream.outbound).2.1 :=
  congrArg (·.2.1) (write_outbox holds call stream)

/-- What a call of a writer leaves on the pipe. -/
theorem outbound_write (holds : connection.outbox? = some outbox) (call : WriteCall)
    (stream : Stream) :
    (connection.write suite call stream).2.2.outbound =
      (outbox.write suite call stream.outbound).2.2 :=
  congrArg (·.2.2) (write_outbox holds call stream)

/-- An outbox is the one of a layer over a wire, which may be closed. -/
theorem exists_layer (holds : connection.outbox? = some outbox) :
    ∃ layer, connection.channel = .secure layer ∧
      outbox = ⟨connection.isClosed, layer.sender, unwritten connection.wire,
        layer.pending.toBytes⟩ := by
  obtain ⟨wire, frames | layer, address, resolution⟩ := connection
  · simp [outbox?] at holds
  · exact ⟨layer, rfl, (Option.some.inj holds).symm⟩

/-- A closed connection has nothing left to write. -/
theorem sealed_of_closed (holds : connection.outbox? = some outbox)
    (closed : outbox.closed = true) : outbox.sealed = [] := by
  obtain ⟨_ | wire, frames | layer, address, resolution⟩ := connection
  · simp [outbox?] at holds
  · obtain rfl := Option.some.inj holds
    rfl
  · simp [outbox?] at holds
  · obtain rfl := Option.some.inj holds
    cases closed

end Connection

/-! ## Octets that wait to be sealed -/

namespace WriteCall

/-- A call that seals what is pending. -/
def Seals : WriteCall → Prop
  | byte _ => False
  | bytes _ => False
  | _ => True

/-- The octets that a call buffers. -/
def buffered : WriteCall → Except ConnectionError Unit → Bytes
  | byte octet, .ok () => [octet]
  | bytes octets, .ok () => octets
  | _, _ => []

/-- What a call puts behind everything that was written before. -/
def tail (suite : Suite) (half : Sealing) : WriteCall → Bytes
  | object value => frame suite half value.encode
  | _ => []

end WriteCall

/-- Calls that seal nothing, made on a connection one after the other, with the octets that they
have buffered. The reader may make calls in between, and each call may find another stream. -/
inductive Buffers (suite : Suite) (start : Connection) : Bytes → Connection → Prop
  /-- Nothing is called. -/
  | start : Buffers suite start [] start
  /-- The writer calls. -/
  | write {bytes : Bytes} {connection : Connection} (buffers : Buffers suite start bytes connection)
      (call : WriteCall) (seals_not : ¬ call.Seals) (stream : Stream) :
      Buffers suite start (bytes ++ call.buffered (connection.write suite call stream).1)
        (connection.write suite call stream).2.1
  /-- The reader calls. -/
  | read {bytes : Bytes} {connection : Connection} (buffers : Buffers suite start bytes connection)
      {α : Type} (call : ReadCall α) (stream : Stream) :
      Buffers suite start bytes (connection.call suite call stream).2.1

/-- What a connection may have become right behind a call that seals, whether it has succeeded or
not, or before all calls. -/
inductive Settled (suite : Suite) (origin : Connection) : Connection → Prop
  /-- Nothing was called. -/
  | start : Settled suite origin origin
  /-- Octets were buffered, and then a call was made that seals. -/
  | step {start connection : Connection} {bytes : Bytes} (settled : Settled suite origin start)
      (buffers : Buffers suite start bytes connection) (call : WriteCall) (seals : call.Seals)
      (stream : Stream) : Settled suite origin (connection.write suite call stream).2.1

namespace Outbox

variable {suite : Suite} {outbox : Outbox} {call : WriteCall} {pipe : Pipe}

/-- A call that seals nothing puts nothing on the pipe. -/
theorem write_of_not_seals (seals_not : ¬ call.Seals) :
    outbox.write suite call pipe =
      ((outbox.write suite call pipe).1,
        { outbox with
          pending := outbox.pending ++ call.buffered (outbox.write suite call pipe).1 }, pipe) := by
  obtain ⟨closed, sender, sealed, pending⟩ := outbox
  cases closed <;> cases call <;> simp_all [WriteCall.Seals, write, WriteCall.buffered]

/-- Nothing buffers on a closed connection. -/
theorem buffered_of_closed (closed : outbox.closed = true) :
    call.buffered (outbox.write suite call pipe).1 = [] := by
  cases call <;> simp [write, closed, WriteCall.buffered]

/-- A flush leaves what is pending. -/
theorem pending_flush : (outbox.flush pipe).2.1.pending = outbox.pending := by
  unfold flush
  split <;> rfl

/-- Letting go of the pipe leaves what is pending. -/
theorem pending_finish (result : Except ConnectionError Unit × Outbox × Pipe) :
    (finish result).2.1.pending = result.2.1.pending := by
  obtain ⟨_ | _, _, _⟩ := result <;> rfl

/-- Nothing is pending behind a call that seals. -/
theorem pending_write (seals : call.Seals) (nothing : outbox.closed = true → outbox.pending = []) :
    (outbox.write suite call pipe).2.1.pending = [] := by
  cases closed : outbox.closed with
  | true => cases call <;> simpa [write, closed] using nothing closed
  | false =>
    cases call with
    | byte => exact absurd seals id
    | bytes => exact absurd seals id
    | object value =>
      simp only [write, closed]
      split_ifs
      · exact pending_flush
      · rfl
    | flush =>
      simp only [write, closed]
      exact pending_flush
    | close =>
      simp only [write, closed]
      exact (pending_finish _).trans pending_flush

/-- A flush that succeeds puts everything on the pipe that is sealed. -/
theorem written_of_flush {outbox' : Outbox} {pipe' : Pipe}
    (flushed : outbox.flush pipe = (.ok (), outbox', pipe')) :
    pipe'.written = pipe.written ++ outbox.sealed := by
  unfold flush at flushed
  rcases put : pipe.put outbox.sealed with ⟨_ | _, next⟩
  · simp [put] at flushed
  · simp only [put, Prod.mk.injEq] at flushed
    obtain ⟨outcome, -, rfl⟩ := flushed
    refine Pipe.written_of_put put ?_
    cases succeeds : next.flush with
    | ok => rfl
    | error e =>
      rw [succeeds] at outcome
      cases outcome

/-- A call that seals and succeeds puts the frames of what is pending on the pipe, behind what was
sealed before and ahead of its own frame. -/
theorem written_of_write {outbox' : Outbox} {pipe' : Pipe} (seals : call.Seals)
    (wrote : outbox.write suite call pipe = (.ok (), outbox', pipe'))
    (nothing : outbox.closed = true → outbox.pending = [] ∧ outbox.sealed = []) :
    pipe'.written = pipe.written ++ outbox.sealed ++
      frames suite outbox.sender (pieces outbox.pending) ++
      call.tail suite (outbox.sender.after suite (pieces outbox.pending).length) := by
  -- A closed outbox succeeds in being closed only, and has nothing to write.
  cases closed : outbox.closed with
  | true =>
    obtain ⟨none_pending, none_sealed⟩ := nothing closed
    cases call with
    | close =>
      simp only [write, closed, Prod.mk.injEq] at wrote
      obtain ⟨-, -, rfl⟩ := wrote
      simp [none_pending, none_sealed, pieces, frames, WriteCall.tail]
    | _ => simp [write, closed] at wrote
  | false =>
    cases call with
    | byte => exact absurd seals id
    | bytes => exact absurd seals id
    | object value =>
      simp only [write, closed] at wrote
      split_ifs at wrote
      · rw [written_of_flush wrote]
        simp [add, sealUp, WriteCall.tail]
      · simp at wrote
    | flush =>
      simp only [write, closed] at wrote
      rw [written_of_flush wrote]
      simp [sealUp, WriteCall.tail]
    | close =>
      simp only [write, closed] at wrote
      rcases flushed : (outbox.sealUp suite).flush pipe with ⟨_ | _, outbox'', pipe''⟩
      · rw [flushed] at wrote
        cases wrote
      rw [flushed] at wrote
      obtain ⟨-, rfl, rfl⟩ := Prod.mk.inj wrote
      have written := written_of_flush flushed
      simpa [sealUp, WriteCall.tail, Pipe.written, Pipe.finish] using written

end Outbox

namespace Connection

variable {suite : Suite} {start connection : Connection} {outbox : Outbox} {bytes : Bytes}

/-- What was buffered is pending, and nothing else has changed for the writer. -/
theorem outbox?_of_buffers (holds : start.outbox? = some outbox) (nothing : outbox.pending = [])
    (buffers : Buffers suite start bytes connection) :
    connection.outbox? = some { outbox with pending := bytes } ∧
      (outbox.closed = true → bytes = []) := by
  induction buffers with
  | start => exact ⟨by rw [holds, ← nothing], fun _ => rfl⟩
  | read buffers call stream ih =>
    obtain ⟨writes, -⟩ := @call_writesAlike suite _ _ call stream _ _ _ rfl
    exact ⟨writes.outbox?_eq.trans ih.1, ih.2⟩
  | write buffers call seals_not stream ih =>
    obtain ⟨ih, closed_nothing⟩ := ih
    rw [outcome_write ih]
    constructor
    · rw [outbox?_write ih, Outbox.write_of_not_seals seals_not]
    · intro closed
      rw [closed_nothing closed, List.nil_append]
      exact Outbox.buffered_of_closed closed

/-- Nothing is pending on a secure connection behind a call that seals. -/
theorem outbox?_of_settled {wire : Wire} {resolution : Resolution} {channel : Noise.Established}
    {remote : Endpoint}
    (settled : Settled suite (negotiated wire resolution (some channel) remote) connection) :
    ∃ outbox, connection.outbox? = some outbox ∧ outbox.pending = [] := by
  induction settled with
  | start => exact ⟨_, rfl, Buffer.toBytes_empty⟩
  | step settled buffers call seals stream ih =>
    obtain ⟨outbox, holds, nothing⟩ := ih
    obtain ⟨holds', closed_nothing⟩ := outbox?_of_buffers holds nothing buffers
    exact ⟨_, outbox?_write holds' call stream, Outbox.pending_write seals closed_nothing⟩

end Connection

/-- What is on a pipe once the octets `bytes` are sealed and written: behind what was `kept` back
and ahead of the `tail` are the frames of texts, as few of them as possible. -/
structure Packed (suite : Suite) (sender : Sealing) (kept bytes : Bytes) (tail : Sealing → Bytes)
    (pipe pipe' : Pipe) (texts : List Bytes) : Prop where
  /-- The texts are the octets. -/
  flatten_eq : texts.flatten = bytes
  /-- There is a frame for each full text, and one for what is left. -/
  length_eq : texts.length = bytes.length ⌈/⌉ 65517
  /-- All texts but the last one are as large as a frame allows. -/
  full : ∀ text ∈ texts.dropLast, text.length = 65517
  /-- Whoever puts these octets in frames needs at least as many. -/
  fewest : ∀ texts' : List Bytes, texts'.flatten = bytes →
    (∀ text ∈ texts', text.length ≤ 65517) → texts.length ≤ texts'.length
  /-- The frames are sealed one after the other by the half of the writer. -/
  written_eq : pipe'.written = pipe.written ++ kept ++ frames suite sender texts ++
    tail (sender.after suite texts.length)
  /-- The octets of the frames. -/
  length_frames : (frames suite sender texts).length =
    bytes.length + 18 * (bytes.length ⌈/⌉ 65517)

/-- Octets that were buffered on a secure connection since the last call that seals go out in as few
frames as possible with the next one that succeeds, and it makes no difference for the stream in
which pieces they were buffered. -/
theorem Settled.packed {suite : Suite} {wire : Wire} {resolution : Resolution}
    {channel : Noise.Established} {remote : Endpoint} {start connection next : Connection}
    {bytes : Bytes} {call : WriteCall} {stream rest : Stream}
    (settled : Settled suite (.negotiated wire resolution (some channel) remote) start)
    (buffers : Buffers suite start bytes connection) (seals : call.Seals)
    (written : connection.write suite call stream = (.ok (), next, rest)) :
    (∃ layer texts, start.channel = .secure layer ∧
      Packed suite layer.sender (unwritten start.wire) bytes (fun half => call.tail suite half)
        stream.outbound rest.outbound texts) ∧
    ∀ connection' stream', Buffers suite start bytes connection' →
      stream'.outbound = stream.outbound →
      (connection'.write suite call stream').1 = .ok () ∧
        (connection'.write suite call stream').2.2.outbound = rest.outbound := by
  obtain ⟨outbox, holds, nothing⟩ := Connection.outbox?_of_settled settled
  obtain ⟨pending, closed_nothing⟩ := Connection.outbox?_of_buffers holds nothing buffers
  have outcome : (connection.write suite call stream).1 = _ :=
    Connection.outcome_write pending call stream
  have pipe : (connection.write suite call stream).2.2.outbound = _ :=
    Connection.outbound_write pending call stream
  rw [written] at outcome pipe
  have wrote : Outbox.write suite call { outbox with pending := bytes } stream.outbound =
      (.ok (), _, rest.outbound) := Prod.ext outcome.symm (Prod.ext rfl pipe.symm)
  have none_sealed := Connection.sealed_of_closed holds
  -- What goes out is decided by the outbox alone, however its octets came to be pending.
  constructor
  · obtain ⟨layer, secure, rfl⟩ := Connection.exists_layer holds
    refine ⟨layer, pieces bytes, secure, flatten_pieces bytes, length_pieces bytes,
      fun text => length_of_mem_dropLast, ?_, ?_, ?_⟩
    · rintro texts rfl fit
      exact length_pieces_le fit
    · exact Outbox.written_of_write seals wrote
        fun closed => ⟨closed_nothing closed, none_sealed closed⟩
    · rw [length_frames, flatten_pieces, length_pieces]
      rfl
  · intro connection' stream' buffers' same
    obtain ⟨pending', -⟩ := Connection.outbox?_of_buffers holds nothing buffers'
    rw [Connection.outcome_write pending', Connection.outbound_write pending', same, wrote]
    exact ⟨rfl, rfl⟩

/-- A connection of the standard suite over a wire that nobody has used. -/
def Connection.sealing : Connection :=
  .negotiated .new (.resolved [.secureChannel])
    (some ⟨.start (List.replicate 32 9), .start (List.replicate 32 7), .filled 5⟩)
    ⟨.v4 ⟨127, 0, 0, 1⟩, 4000⟩

/-- A flush succeeds on an open connection if the stream refuses nothing. -/
theorem Connection.outcome_flush {suite : Suite} {connection : Connection} {stream : Stream}
    (opened : connection.isClosed = false) (accepts : stream.outbound.refuses = false) :
    (connection.write suite .flush stream).1 = .ok () := by
  have told : (connection.write suite .flush stream).1 =
      ((connection.standing stream).write .flush).1 :=
    congrArg (·.1) (connection.write_standing suite .flush stream).symm
  have accepted : (connection.standing stream).refused = false := accepts
  rw [told, Standing.write, if_neg (by simp [Connection.standing, opened]),
    Standing.flush_of_accepts accepted]

/-- An octet and then many of them, which need two frames. -/
theorem Settled.packed_of_two_calls : ∃ connection next rest,
    Settled .standard .sealing .sealing ∧
      Buffers .standard .sealing ([1] ++ List.replicate 70000 2) connection ∧
      connection.write .standard .flush ⟨.new, .new⟩ = (.ok (), next, rest) ∧
      ∃ layer texts, Connection.sealing.channel = .secure layer ∧
        Packed .standard layer.sender [] ([1] ++ List.replicate 70000 2) (fun _ => []) .new
          rest.outbound texts := by
  obtain ⟨connection, buffers, accepts⟩ : ∃ connection,
      Buffers .standard .sealing ([1] ++ List.replicate 70000 2) connection ∧
        (connection.write .standard .flush ⟨.new, .new⟩).1 = .ok () := by
    refine ⟨_, (Buffers.start.write (.byte 1) id ⟨.new, .new⟩).write
      (.bytes (List.replicate 70000 2)) id ⟨.new, .new⟩, ?_⟩
    exact Connection.outcome_flush rfl rfl
  rcases written : connection.write .standard .flush ⟨.new, .new⟩ with ⟨outcome, next, rest⟩
  rw [written] at accepts
  obtain rfl := accepts
  have seals : WriteCall.flush.Seals := trivial
  exact ⟨connection, next, rest, .start, buffers, written,
    (Settled.packed .start buffers seals written).1⟩

end PeerLink
