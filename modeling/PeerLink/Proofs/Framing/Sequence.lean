import PeerLink.Connection
import PeerLink.Proofs.Framing.Sealed
import PeerLink.Proofs.Noise.Sealing

/-!
# Sequences of sealed frames

The frames of messages that are sealed one after the other, each with the next key of its half.
`sealFrames_spec` says that octets are sealed as the frames of pieces of them. A reader in step with
the half reads the first of the frames once it has arrived (`readFrame_whole`), waits before that
(`readFrame_part`), and finds the end of the stream behind the last one (`readFrame_stop`).
-/

namespace PeerLink

namespace SealedFrames

variable (suite : Suite)

/-- The frames of messages that are sealed one after the other. -/
def frames : Sealing → List Bytes → Bytes
  | _, [] => []
  | half, message :: messages =>
    frame suite half message ++ frames (half.advance suite) messages

/-- The frames of some messages and then of some more. -/
theorem frames_append (half : Sealing) (messages messages' : List Bytes) :
    frames suite half (messages ++ messages') =
      frames suite half messages ++ frames suite (half.after suite messages.length) messages' := by
  induction messages generalizing half with
  | nil => rfl
  | cons message messages ih =>
    rw [List.cons_append, frames, frames, ih, List.append_assoc]
    rfl

/-- There are octets in the frame of any message. -/
theorem frame_ne_nil (half : Sealing) (message : Bytes) : frame suite half message ≠ [] := by
  intro nothing
  have length := congrArg List.length nothing
  simp [frame, headSize] at length

variable {suite}

/-- The message of a frame that has arrived is read, and no octet more. -/
theorem readFrame_whole (opens : suite.Opens) {state : State} {wire : Wire} {stream : Stream}
    (valid : Valid state) {message rest : Bytes} (acceptable : message.length ≤ maxPayload)
    (octets : head state ++ wire.ahead stream = frame suite state.receiver message ++ rest) :
    ∃ wire' stream', wire.readFrame (framing suite) state stream =
        (.done (some message), ⟨state.receiver.advance suite, none⟩, wire', stream') ∧
      wire'.ahead stream' = rest ∧ wire.Advanced stream wire' stream' := by
  have cut := cutBytes_frame opens state.receiver acceptable rest
  rw [← octets, cutBytes_none_head suite valid] at cut
  exact Wire.readFrame_of_cutBytes (incremental suite) cut

/-- A reader waits for a frame that has not arrived, and no octet is lost. -/
theorem readFrame_part (opens : suite.Opens) {state : State} {wire : Wire} {stream : Stream}
    (valid : Valid state) {message missing : Bytes} (acceptable : message.length ≤ maxPayload)
    (octets : head state ++ wire.ahead stream ++ missing = frame suite state.receiver message)
    (some_missing : missing ≠ []) (behind : stream.inbound.verge = .wait) :
    ∃ state' wire' stream', wire.readFrame (framing suite) state stream =
        (.waiting, state', wire', stream') ∧ Valid state' ∧ state'.receiver = state.receiver ∧
      head state' ++ wire'.ahead stream' = head state ++ wire.ahead stream ∧
      wire.Advanced stream wire' stream' := by
  obtain ⟨state', rest, cut⟩ :=
    cutBytes_part opens state.receiver acceptable octets some_missing
  obtain ⟨valid', receiver, octets'⟩ := head_append_of_cutBytes suite cut
  rw [cutBytes_none_head suite valid] at cut
  have concluded : (framing suite).conclude stream.inbound.verge
      ((framing suite).cutBytes state (wire.ahead stream)) = (.waiting, state', rest) := by
    rw [cut, behind]
    rfl
  obtain ⟨wire', stream', read, rfl, advanced⟩ := Wire.readFrame_eq (incremental suite) concluded
  exact ⟨state', wire', stream', read, valid', receiver, octets', advanced⟩

/-- Behind the last frame a reader finds the end of the stream. -/
theorem readFrame_stop {state : State} {wire : Wire} {stream : Stream}
    (octets : head state ++ wire.ahead stream = []) (behind : stream.inbound.verge = .stop) :
    ∃ wire' stream', wire.readFrame (framing suite) state stream =
        (.done none, state, wire', stream') ∧ wire'.ahead stream' = [] ∧
      wire.Advanced stream wire' stream' := by
  obtain ⟨nothing_taken, nothing_ahead⟩ := List.append_eq_nil_iff.1 octets
  obtain ⟨receiver, expected⟩ := state
  cases expected with
  | some n => exact absurd nothing_taken (head_ne_nil rfl)
  | none =>
    refine Wire.readFrame_eq (incremental suite) ?_
    rw [nothing_ahead, behind]
    rfl

/-- Octets cut in pieces that fit a frame, as few as possible. -/
def pieces : Bytes → List Bytes
  | [] => []
  | b :: rest => (b :: rest).take maxPayload :: pieces ((b :: rest).drop maxPayload)
termination_by bytes => bytes.length
decreasing_by
  simp only [List.length_drop, List.length_cons, maxPayload, maxSize, headSize, Suite.tagSize]
  omega

/-- The pieces of octets are the octets. -/
theorem flatten_pieces (bytes : Bytes) : (pieces bytes).flatten = bytes := by
  fun_induction pieces bytes with
  | case1 => rfl
  | case2 b rest ih => rw [List.flatten_cons, ih, List.take_append_drop]

/-- No piece is empty, and each of them fits a frame. -/
theorem fits_of_mem_pieces {bytes piece : Bytes} (mem : piece ∈ pieces bytes) :
    piece ≠ [] ∧ piece.length ≤ maxPayload := by
  fun_induction pieces bytes with
  | case1 => simp at mem
  | case2 b rest ih =>
    rcases List.mem_cons.1 mem with rfl | mem
    · have positive : maxPayload ≠ 0 := by decide
      refine ⟨by simp [positive], ?_⟩
      rw [List.length_take]
      exact Nat.min_le_left _ _
    · exact ih mem

/-- Octets that fit a frame are one piece. -/
theorem pieces_of_fits {bytes : Bytes} (some_octets : bytes ≠ [])
    (fits : bytes.length ≤ maxPayload) : pieces bytes = [bytes] := by
  cases bytes with
  | nil => exact absurd rfl some_octets
  | cons b rest => rw [pieces, List.take_of_length_le fits, List.drop_eq_nil_of_le fits, pieces]

end SealedFrames

/-- Octets are sealed in the frames of their pieces, behind the octets that were sealed before. -/
theorem sealFrames_pieces (suite : Suite) (half : Sealing) (sealed : Buffer) (bytes : Bytes) :
    (sealFrames suite half sealed bytes).1.toBytes =
        sealed.toBytes ++ SealedFrames.frames suite half (SealedFrames.pieces bytes) ∧
      (sealFrames suite half sealed bytes).2 =
        half.after suite (SealedFrames.pieces bytes).length := by
  have fits (bytes : Bytes) : (bytes.take SealedFrames.maxPayload).length ≤
      SealedFrames.maxPayload := by
    rw [List.length_take]
    exact Nat.min_le_left _ _
  fun_induction sealFrames suite half sealed bytes with
  | case1 half sealed =>
    rw [SealedFrames.pieces]
    exact ⟨(List.append_nil _).symm, rfl⟩
  | case2 half sealed b rest too_large =>
    -- A piece always fits a frame.
    rw [SealedFrames.encode?_eq, if_pos (fits _)] at too_large
    simp at too_large
  | case3 half sealed b rest frame half' encoded ih =>
    rw [SealedFrames.encode?_eq, if_pos (fits _)] at encoded
    obtain ⟨rfl, rfl⟩ := Prod.mk.inj (Option.some.inj encoded)
    obtain ⟨octets, half_eq⟩ := ih
    rw [SealedFrames.pieces]
    refine ⟨?_, half_eq⟩
    rw [octets, Buffer.toBytes_append, List.append_assoc]
    rfl

/-- Octets are sealed in the frames of their pieces, none of which is empty, behind the octets that
were sealed before. -/
theorem sealFrames_spec (suite : Suite) (half : Sealing) (sealed : Buffer) (bytes : Bytes) :
    ∃ pieces : List Bytes, pieces.flatten = bytes ∧
      (∀ piece ∈ pieces, piece ≠ [] ∧ piece.length ≤ SealedFrames.maxPayload) ∧
      (sealFrames suite half sealed bytes).1.toBytes =
        sealed.toBytes ++ SealedFrames.frames suite half pieces ∧
      (sealFrames suite half sealed bytes).2 = half.after suite pieces.length :=
  ⟨SealedFrames.pieces bytes, SealedFrames.flatten_pieces bytes,
    fun _ => SealedFrames.fits_of_mem_pieces, sealFrames_pieces suite half sealed bytes⟩

end PeerLink
