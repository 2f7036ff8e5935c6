import PeerLink.Connection
import PeerLink.Proofs.Crypto.Standard
import PeerLink.Proofs.Framing.LengthPrefixed
import PeerLink.Proofs.Framing.Sealed

/-!
# The end of a stream of frames

A stream ends behind its last frame or within one, a `Part` of which is all that has come. What a
reader has before it, with the octets that its state has taken, stays this part however often it
reads (`readFrame_part_ended`), so that all reads behind the frames come to the same. A reader of
sealed frames tells every cut from a clean end. One of length-prefixed frames takes a cut between a
length and its octets for a clean end, and no other one.
-/

namespace PeerLink

/-- What so many reads of frames come to, one after the other. -/
def Wire.readFrames {σ ε : Type} (framing : Framing σ ε) :
    Nat → σ → Wire → Stream → List (Outcome ε (Option Bytes))
  | 0, _, _, _ => []
  | n + 1, state, wire, stream =>
    let (outcome, state, wire, stream) := wire.readFrame framing state stream
    outcome :: readFrames framing n state wire stream

/-- What the first of some reads comes to, and the others behind it. -/
theorem Wire.readFrames_succ {σ ε : Type} {framing : Framing σ ε} {state state' : σ}
    {wire wire' : Wire} {stream stream' : Stream} {outcome : Outcome ε (Option Bytes)}
    (read : wire.readFrame framing state stream = (outcome, state', wire', stream')) (n : Nat) :
    Wire.readFrames framing (n + 1) state wire stream =
      outcome :: Wire.readFrames framing n state' wire' stream' := by
  rw [Wire.readFrames, read]

/-- What so many reads come to when messages are read first and every later read ends alike. -/
def outcomes {ε : Type} (n : Nat) (messages : List Bytes) (ending : Outcome ε (Option Bytes)) :
    List (Outcome ε (Option Bytes)) :=
  (messages.map (Outcome.done ∘ some) ++ List.replicate n ending).take n

/-- The first of the messages, and what is behind it. -/
theorem outcomes_cons {ε : Type} (n : Nat) (message : Bytes) (messages : List Bytes)
    (ending : Outcome ε (Option Bytes)) :
    outcomes (n + 1) (message :: messages) ending =
      .done (some message) :: outcomes n messages ending := by
  have enough : n ≤ (messages.map (Outcome.done ∘ some) ++ List.replicate n ending).length := by
    rw [List.length_append, List.length_replicate]
    exact Nat.le_add_left _ _
  rw [outcomes, outcomes, List.map_cons, List.cons_append, List.take_succ_cons,
    List.replicate_succ', ← List.append_assoc, List.take_append_of_le_length enough]
  rfl

/-- Behind the messages every read ends alike. -/
theorem outcomes_nil {ε : Type} (n : Nat) (ending : Outcome ε (Option Bytes)) :
    outcomes (n + 1) [] ending = ending :: outcomes n [] ending := by
  simp [outcomes, List.replicate_succ]

namespace LengthPrefixed

variable {ε : Type} (ofIo : IoError → ε)

/-- A proper part of the encoding of an acceptable frame, its front; it may be empty. -/
def Part (part : Bytes) : Prop :=
  ∃ frame missing, frame.length ≤ maxSize ∧ missing ≠ [] ∧ part ++ missing = encode frame

/-- What a reader finds at the end of a stream behind a part of a frame. -/
def ending (part : Bytes) : Outcome ε (Option Bytes) :=
  if part = [] ∨ part.length = headSize then .done none
  else .failed (ofIo (.unexpectedEof "stream closed in the middle of a frame"))

/-- Behind a length of which not all octets are there, the last cut finds nothing. -/
theorem cutLast_some {n : Nat} (some_missing : 0 < n) :
    (framing ofIo).cutLast (some n) .empty = (.ok none, some n, .empty) := by
  obtain ⟨n, rfl⟩ := Nat.exists_eq_succ_of_ne_zero (Nat.ne_of_gt some_missing)
  rfl

/-- The cut of a part of a frame takes its length, if this is there. -/
theorem cutBytes_of_part {part : Bytes} (h : Part part) :
    (part.length < headSize ∧ (framing ofIo).cutBytes none part = (.ok none, none, part)) ∨
      ∃ n rest, rest.length < n ∧ n ≤ maxSize ∧ part = Bytes.ofNatBE headSize n ++ rest ∧
        (framing ofIo).cutBytes none part = (.ok none, some n, rest) := by
  obtain ⟨frame, missing, acceptable, some_missing, whole⟩ := h
  obtain ⟨state, rest, cut⟩ := cutBytes_part ofIo acceptable whole some_missing
  obtain ⟨valid, octets⟩ := head_append_of_cutBytes ofIo cut
  have resumed := (incremental ofIo).resumable cut []
  rw [List.append_nil, List.append_nil, cut] at resumed
  cases state with
  | none =>
    obtain rfl : rest = part := octets
    refine .inl ⟨?_, cut⟩
    rw [cutBytes_none] at cut
    split_ifs at cut with short large
    · exact short
    · simp at cut
    · rw [cutBytes_some] at cut
      split_ifs at cut <;> simp at cut
  | some n =>
    refine .inr ⟨n, rest, ?_, valid n rfl, octets.symm, cut⟩
    rw [cutBytes_some] at resumed
    split_ifs at resumed with short
    · exact short
    · simp at resumed

/-- What is concluded from a part of a frame at the end of the stream. -/
theorem conclude_part {part : Bytes} (h : Part part) :
    ∃ state rest, Valid state ∧ head state ++ rest = part ∧
      (framing ofIo).conclude .stop ((framing ofIo).cutBytes none part) =
        (ending ofIo part, state, rest) := by
  -- Either the length is not complete, or the frame behind it is not.
  rcases cutBytes_of_part ofIo h with ⟨short, cut⟩ | ⟨n, rest, missing, acceptable, rfl, cut⟩
  · refine ⟨none, part, valid_none, rfl, ?_⟩
    rw [cut]
    cases part with
    | nil => rfl
    | cons b part =>
      have within : ¬ (b :: part = [] ∨ (b :: part).length = headSize) := by
        rintro (⟨⟨⟩⟩ | same)
        exact absurd same (Nat.ne_of_lt short)
      rw [ending, if_neg within]
      rfl
  · have length : (Bytes.ofNatBE headSize n).length = headSize := Bytes.length_ofNatBE _ _
    refine ⟨some n, rest, ?_, rfl, ?_⟩
    · rintro m ⟨⟩
      exact acceptable
    · rw [cut]
      cases rest with
      | nil =>
        have last := cutLast_some ofIo (Nat.lt_of_le_of_lt (Nat.zero_le _) missing)
        rw [List.append_nil, ending, if_pos (.inr length)]
        simp [Framing.conclude, Framing.view, last, Outcome.ofExcept]
      | cons b rest =>
        have more : headSize < (Bytes.ofNatBE headSize n ++ b :: rest).length := by
          rw [List.length_append, length, List.length_cons]
          omega
        have within : ¬ (Bytes.ofNatBE headSize n ++ b :: rest = [] ∨
            (Bytes.ofNatBE headSize n ++ b :: rest).length = headSize) := by
          rintro (nothing | same)
          · simp at nothing
          · omega
        rw [ending, if_neg within]
        rfl

/-- A read at the end of the stream behind a part of a frame leaves the part as it is. -/
theorem readFrame_part_ended {state : State} {wire : Wire} {stream : Stream} (valid : Valid state)
    {part : Bytes} (h : Part part) (octets : head state ++ wire.ahead stream = part)
    (ended : stream.inbound.verge = .stop) :
    ∃ state' wire' stream', wire.readFrame (framing ofIo) state stream =
        (ending ofIo part, state', wire', stream') ∧ Valid state' ∧
      head state' ++ wire'.ahead stream' = part ∧ stream'.inbound.verge = .stop := by
  obtain ⟨state', rest, valid', octets', concluded⟩ := conclude_part ofIo h
  rw [← octets, cutBytes_none_head ofIo valid, ← ended, octets] at concluded
  obtain ⟨wire', stream', read, rfl, advanced⟩ := Wire.readFrame_eq (incremental ofIo) concluded
  exact ⟨state', wire', stream', read, valid', octets', advanced.verge.trans ended⟩

/-- The complete frames are read, and behind them every read finds the same end. -/
theorem readFrames_ended {state : State} {wire : Wire} {stream : Stream} (valid : Valid state)
    {frames : List Bytes} (acceptable : ∀ frame ∈ frames, frame.length ≤ maxSize) {part : Bytes}
    (h : Part part) (octets : head state ++ wire.ahead stream = frames.flatMap encode ++ part)
    (ended : stream.inbound.verge = .stop) (n : Nat) :
    Wire.readFrames (framing ofIo) n state wire stream = outcomes n frames (ending ofIo part) := by
  induction n generalizing frames state wire stream with
  | zero => rfl
  | succ n ih =>
    cases frames with
    | nil =>
      obtain ⟨state', wire', stream', read, valid', octets', ended'⟩ :=
        readFrame_part_ended ofIo valid h octets ended
      rw [Wire.readFrames_succ read, outcomes_nil, ih valid' acceptable octets' ended']
    | cons frame frames =>
      rw [List.flatMap_cons, List.append_assoc] at octets
      obtain ⟨fits, acceptable'⟩ := List.forall_mem_cons.1 acceptable
      obtain ⟨wire', stream', read, octets', advanced⟩ := readFrame_whole ofIo valid fits octets
      rw [Wire.readFrames_succ read, outcomes_cons, ih valid_none acceptable' octets'
        (advanced.verge.trans ended)]

end LengthPrefixed

namespace SealedFrames

/-- A proper part of the frame of an acceptable ciphertext, its front; it may be empty. -/
def Part (part : Bytes) : Prop :=
  ∃ ciphertext missing, Acceptable ciphertext ∧ missing ≠ [] ∧ part ++ missing = frameOf ciphertext

variable (suite : Suite)

/-- Octets that are the frames of ciphertexts which open to messages one after the other. -/
inductive Open : Sealing → List Bytes → Bytes → Prop
  /-- No frame. -/
  | nil {half : Sealing} : Open half [] []
  /-- The frame of a message, and more frames for the next place. -/
  | cons {half : Sealing} {ciphertext message : Bytes} {messages : List Bytes} {octets : Bytes}
      (acceptable : Acceptable ciphertext)
      (opened : suite.decrypt? half.key half.counter [] ciphertext = some message)
      (later : Open (half.advance suite) messages octets) :
      Open half (message :: messages) (frameOf ciphertext ++ octets)

/-- What a reader finds at the end of a stream behind a part of a frame. -/
def ending (part : Bytes) : Outcome Error (Option Bytes) :=
  if part = [] then .done none
  else
    .failed (.io (.unexpectedEof
      (if part.length = headSize then "stream closed in the middle of a sealed frame"
      else "stream closed in the middle of a frame")))

/-- The cut of a part of a frame takes its length, if this is there. -/
theorem cutBytes_of_part (half : Sealing) {part : Bytes} (h : Part part) :
    (part.length < headSize ∧
        (framing suite).cutBytes ⟨half, none⟩ part = (.ok none, ⟨half, none⟩, part)) ∨
      ∃ n rest, rest.length < n ∧ (minSize ≤ n ∧ n ≤ maxSize) ∧
        part = Bytes.ofNatBE headSize n ++ rest ∧
        (framing suite).cutBytes ⟨half, none⟩ part = (.ok none, ⟨half, some n⟩, rest) := by
  obtain ⟨ciphertext, missing, acceptable, some_missing, whole⟩ := h
  by_cases short : part.length < headSize
  · exact .inl ⟨short, by rw [cutBytes_none, if_pos short]⟩
  · -- The length is there, and what is missing are octets of the ciphertext.
    have length : (Bytes.ofNatBE headSize ciphertext.length).length = headSize :=
      Bytes.length_ofNatBE _ _
    have front : part.take headSize = Bytes.ofNatBE headSize ciphertext.length := by
      have taken := congrArg (List.take headSize) whole
      rwa [List.take_append_of_le_length (by omega), frameOf, List.take_left' length] at taken
    have behind : part.drop headSize ++ missing = ciphertext := by
      have dropped := congrArg (List.drop headSize) whole
      rwa [List.drop_append_of_le_length (by omega), frameOf, List.drop_left' length] at dropped
    have less : (part.drop headSize).length < ciphertext.length := by
      have positive := List.length_pos_iff.2 some_missing
      rw [← behind, List.length_append]
      omega
    refine .inr ⟨ciphertext.length, part.drop headSize, less, acceptable, ?_, ?_⟩
    · rw [← front, List.take_append_drop]
    · rw [cutBytes_none, if_neg short, front, toNatBE_headSize acceptable.2,
        if_pos ⟨acceptable.1, acceptable.2⟩, cutBytes_some, if_pos less]

/-- What is concluded from a part of a frame at the end of the stream. -/
theorem conclude_part (half : Sealing) {part : Bytes} (h : Part part) :
    ∃ state rest, Valid state ∧ head state ++ rest = part ∧
      (framing suite).conclude .stop ((framing suite).cutBytes ⟨half, none⟩ part) =
        (ending part, state, rest) := by
  -- Either the length is not complete, or the message behind it is not.
  rcases cutBytes_of_part suite half h with ⟨short, cut⟩ | ⟨n, rest, missing, acceptable, rfl, cut⟩
  · refine ⟨⟨half, none⟩, part, by rintro n ⟨⟩, rfl, ?_⟩
    rw [cut]
    cases part with
    | nil => rfl
    | cons b part =>
      rw [ending, if_neg (List.cons_ne_nil b part), if_neg (Nat.ne_of_lt short)]
      rfl
  · have length : (Bytes.ofNatBE headSize n).length = headSize := Bytes.length_ofNatBE _ _
    have some_taken : head ⟨half, some n⟩ ≠ [] := head_ne_nil rfl
    have some_octets : Bytes.ofNatBE headSize n ++ rest ≠ [] :=
      List.append_ne_nil_of_left_ne_nil some_taken rest
    refine ⟨⟨half, some n⟩, rest, ?_, rfl, ?_⟩
    · rintro m ⟨⟩
      exact acceptable
    · rw [cut, ending, if_neg some_octets]
      cases rest with
      | nil =>
        have last := cutLast_some suite half acceptable.1
        rw [List.append_nil, if_pos length]
        simp [Framing.conclude, Framing.view, framing, last, Outcome.ofExcept]
      | cons b rest =>
        have more : (Bytes.ofNatBE headSize n ++ b :: rest).length ≠ headSize := by
          rw [List.length_append, length, List.length_cons]
          omega
        rw [if_neg more]
        rfl

/-- A read at the end of the stream behind a part of a frame leaves the part as it is. -/
theorem readFrame_part_ended {state : State} {wire : Wire} {stream : Stream} (valid : Valid state)
    {part : Bytes} (h : Part part) (octets : head state ++ wire.ahead stream = part)
    (ended : stream.inbound.verge = .stop) :
    ∃ state' wire' stream', wire.readFrame (framing suite) state stream =
        (ending part, state', wire', stream') ∧ Valid state' ∧
      head state' ++ wire'.ahead stream' = part ∧ stream'.inbound.verge = .stop := by
  obtain ⟨state', rest, valid', octets', concluded⟩ := conclude_part suite state.receiver h
  rw [← octets, cutBytes_none_head suite valid, ← ended, octets] at concluded
  obtain ⟨wire', stream', read, rfl, advanced⟩ := Wire.readFrame_eq (incremental suite) concluded
  exact ⟨state', wire', stream', read, valid', octets', advanced.verge.trans ended⟩

/-- The messages of the complete frames are read, and behind them every read finds the same end. -/
theorem readFrames_ended {state : State} {wire : Wire} {stream : Stream} (valid : Valid state)
    {messages : List Bytes} {frames part : Bytes}
    (opened : Open suite state.receiver messages frames)
    (h : Part part) (octets : head state ++ wire.ahead stream = frames ++ part)
    (ended : stream.inbound.verge = .stop) (n : Nat) :
    Wire.readFrames (framing suite) n state wire stream = outcomes n messages (ending part) := by
  induction n generalizing messages frames state wire stream with
  | zero => rfl
  | succ n ih =>
    cases opened with
    | nil =>
      obtain ⟨state', wire', stream', read, valid', octets', ended'⟩ :=
        readFrame_part_ended suite valid h octets ended
      rw [Wire.readFrames_succ read, outcomes_nil, ih valid' .nil octets' ended']
    | @cons _ ciphertext message messages frames acceptable opened later =>
      have cut := cutBytes_frameOf suite acceptable opened (frames ++ part)
      rw [← List.append_assoc, ← octets, cutBytes_none_head suite valid] at cut
      have concluded : (framing suite).conclude stream.inbound.verge
          ((framing suite).cutBytes state (wire.ahead stream)) =
            (.done (some message), ⟨state.receiver.advance suite, none⟩, frames ++ part) := by
        rw [cut]
        rfl
      obtain ⟨wire', stream', read, octets', advanced⟩ :=
        Wire.readFrame_eq (incremental suite) concluded
      have valid' : Valid ⟨state.receiver.advance suite, none⟩ := by rintro n ⟨⟩
      rw [Wire.readFrames_succ read, outcomes_cons, ih valid' later octets'
        (advanced.verge.trans ended)]

end SealedFrames

namespace Wire

/-- However the octets of a stream come, the reads of a stream that ends give the complete frames
and then, every time, the end that is found behind them. A clean end is found by a reader of sealed
frames exactly if the stream ends behind its last frame. A reader of length-prefixed frames finds it
also where the stream is cut between a length and the octets that the length announces, and there
only. -/
theorem frames_then_end (suite : Suite) :
    (∀ {ε : Type} (ofIo : IoError → ε) (state : LengthPrefixed.State) (wire : Wire)
        (stream : Stream) (frames : List Bytes) (part : Bytes), LengthPrefixed.Valid state →
      (∀ frame ∈ frames, frame.length ≤ LengthPrefixed.maxSize) → LengthPrefixed.Part part →
      LengthPrefixed.head state ++ wire.ahead stream =
        frames.flatMap LengthPrefixed.encode ++ part →
      stream.inbound.verge = .stop →
      ∀ n, readFrames (LengthPrefixed.framing ofIo) n state wire stream =
        outcomes n frames
          (if part = [] ∨ part.length = LengthPrefixed.headSize then .done none
          else .failed (ofIo (.unexpectedEof "stream closed in the middle of a frame")))) ∧
      ∀ (state : SealedFrames.State) (wire : Wire) (stream : Stream) (messages : List Bytes)
        (frames part : Bytes), SealedFrames.Valid state →
      SealedFrames.Open suite state.receiver messages frames → SealedFrames.Part part →
      SealedFrames.head state ++ wire.ahead stream = frames ++ part →
      stream.inbound.verge = .stop →
      ∀ n, readFrames (SealedFrames.framing suite) n state wire stream =
        outcomes n messages
          (if part = [] then .done none
          else .failed (.io (.unexpectedEof
            (if part.length = SealedFrames.headSize then
              "stream closed in the middle of a sealed frame"
            else "stream closed in the middle of a frame")))) := by
  refine ⟨fun ofIo state wire stream frames part valid acceptable cut octets ended n => ?_,
    fun state wire stream messages frames part valid opened cut octets ended n => ?_⟩
  · exact LengthPrefixed.readFrames_ended ofIo valid acceptable cut octets ended n
  · exact SealedFrames.readFrames_ended suite valid opened cut octets ended n

/-- A stream that gives octets one by one and ends behind them. -/
def trickling (octets : Bytes) : Stream :=
  ⟨{ Pipe.new with queue := .ofBytes octets, ended := true, pace := fun _ => some 1 }, .new⟩

/-- All octets of the stream can be read. -/
theorem ahead_trickling (octets : Bytes) : new.ahead (trickling octets) = octets := by
  rw [ahead, Pipe.arrived_of_gate_eq_none rfl]
  exact Buffer.toBytes_ofBytes octets

/-- The end is behind them. -/
theorem verge_trickling (octets : Bytes) : (trickling octets).inbound.verge = .stop := by
  have arrived : (trickling octets).inbound.arrived = octets := ahead_trickling octets
  have size : (trickling octets).inbound.queue.size = octets.length := rfl
  rw [Pipe.verge, arrived, size, if_neg (Nat.lt_irrefl _)]
  rfl

/-- A frame and the length of another one, length-prefixed and sealed: the end is told behind the
sealed ones only. -/
theorem frames_then_end_of_lengths :
    LengthPrefixed.Part [0, 0, 0, 5] ∧ SealedFrames.Part [0, 21] ∧
      readFrames (LengthPrefixed.framing ConnectionError.io) 3 none .new
          (trickling ([0, 0, 0, 1, 55] ++ [0, 0, 0, 5])) =
        [.done (some [55]), .done none, .done none] ∧
      readFrames (SealedFrames.framing .standard) 2 ⟨.start [], none⟩ .new
          (trickling (SealedFrames.frameOf ((Sealing.start []).sealMessage .standard [55]).1 ++
            [0, 21])) =
        [.done (some [55]),
          .failed (.io (.unexpectedEof "stream closed in the middle of a sealed frame"))] := by
  have opens := Suite.opens_standard
  have lengthOnly : LengthPrefixed.Part [0, 0, 0, 5] :=
    ⟨[1, 2, 3, 4, 5], [1, 2, 3, 4, 5], by decide, by decide, rfl⟩
  have sealedLengthOnly : SealedFrames.Part [0, 21] :=
    ⟨List.replicate 21 0, List.replicate 21 0, ⟨by decide, by decide⟩, by decide, rfl⟩
  have acceptable : SealedFrames.Acceptable ((Sealing.start []).sealMessage .standard [55]).1 := by
    rw [SealedFrames.Acceptable, SealedFrames.length_sealMessage]
    decide
  have opened : SealedFrames.Open .standard (.start []) [[55]]
      (SealedFrames.frameOf ((Sealing.start []).sealMessage .standard [55]).1) := by
    have frames := SealedFrames.Open.cons acceptable (opens _ _ _ _) .nil
    rwa [List.append_nil] at frames
  obtain ⟨plain, confidential⟩ := frames_then_end .standard
  refine ⟨lengthOnly, sealedLengthOnly, ?_, ?_⟩
  · exact plain ConnectionError.io none .new _ [[55]] [0, 0, 0, 5] LengthPrefixed.valid_none
      (by decide) lengthOnly (ahead_trickling _) (verge_trickling _) 3
  · exact confidential ⟨.start [], none⟩ .new _ [[55]] _ [0, 21] (by rintro n ⟨⟩) opened
      sealedLengthOnly (ahead_trickling _) (verge_trickling _) 2

/-- Not every end within a frame is told from a clean one: behind the length of a frame a reader of
length-prefixed frames is told that the stream has ended between two frames. -/
theorem truncation_is_not_always_told :
    ¬ ∀ (stream : Stream) (part : Bytes), LengthPrefixed.Part part → part ≠ [] →
      new.ahead stream = part → stream.inbound.verge = .stop →
      ∃ detail, readFrames (LengthPrefixed.framing ConnectionError.io) 1 none .new stream =
        [.failed (.io (.unexpectedEof detail))] := by
  intro told
  have lengthOnly : LengthPrefixed.Part [0, 0, 0, 5] :=
    ⟨[1, 2, 3, 4, 5], [1, 2, 3, 4, 5], by decide, by decide, rfl⟩
  obtain ⟨detail, failed⟩ := told (trickling [0, 0, 0, 5]) [0, 0, 0, 5] lengthOnly (by decide)
    (ahead_trickling _) (verge_trickling _)
  have octets : LengthPrefixed.head none ++ new.ahead (trickling [0, 0, 0, 5]) = [0, 0, 0, 5] :=
    ahead_trickling _
  obtain ⟨_, _, _, read, -⟩ := LengthPrefixed.readFrame_part_ended ConnectionError.io
    LengthPrefixed.valid_none lengthOnly octets (verge_trickling _)
  have clean : LengthPrefixed.ending ConnectionError.io [0, 0, 0, 5] = .done none := rfl
  rw [readFrames_succ read, clean] at failed
  simp at failed

end Wire

end PeerLink
