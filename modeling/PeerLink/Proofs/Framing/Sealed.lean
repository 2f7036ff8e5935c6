import PeerLink.Framing.Sealed
import PeerLink.Proofs.Bytes
import PeerLink.Proofs.Framing.Reading

/-!
# Sealed frames are read as they are sealed

As for length-prefixed frames, `head state` gives back the octets that a state has taken of the
frame that is to come. `cutBytes_frame` says that the frame of a message is read as the message by
the half in step with the one that sealed it. `sealed_of_cutBytes` says what is behind a message
that is read, whoever wrote the octets: a ciphertext of an acceptable length that opens with the key
and the counter of the receiving half.
-/

namespace PeerLink.SealedFrames

variable (suite : Suite)

/-- The octets that a state has taken of the frame that is to come. -/
def head (state : State) : Bytes :=
  match state.expected with
  | none => []
  | some n => Bytes.ofNatBE headSize n

/-- A remembered length is the one of an acceptable frame. -/
def Valid (state : State) : Prop :=
  ∀ n, state.expected = some n → minSize ≤ n ∧ n ≤ maxSize

/-- The frame of a message, sealed by a half. -/
def frame (half : Sealing) (message : Bytes) : Bytes :=
  Bytes.ofNatBE headSize (message.length + Suite.tagSize) ++ (half.sealMessage suite message).1

/-- What unsealing a message comes to. -/
def unsealed (receiver : Sealing) (message : Bytes) : Except Error (Option Bytes) × State :=
  match receiver.unsealMessage suite message with
  | (.error e, receiver) => (.error (.sealing e), ⟨receiver, some message.length⟩)
  | (.ok text, receiver) => (.ok (some text), ⟨receiver, none⟩)

/-- A message fits a frame exactly if it is not longer than the largest payload. -/
theorem encode?_eq (half : Sealing) (message : Bytes) :
    encode? suite half message =
      if message.length ≤ maxPayload then some (frame suite half message, half.advance suite)
      else none := rfl

/-- Unsealing gives a message or a fault. -/
theorem unsealed_ne_none (receiver : Sealing) (message : Bytes) :
    (unsealed suite receiver message).1 ≠ .ok none := by
  rw [unsealed]
  split <;> simp

/-- A fault of unsealing is one of the seal, and not one of the stream. -/
theorem sealing_of_unsealed {receiver : Sealing} {message : Bytes} {e : Error}
    (h : (unsealed suite receiver message).1 = .error e) : ∃ cause, e = .sealing cause := by
  rw [unsealed] at h
  split at h
  · exact ⟨_, (Except.error.inj h).symm⟩
  · simp at h

/-- The cut behind a length, on the octets of the buffer. -/
theorem view_cut_some (receiver : Sealing) (n : Nat) (buffer : Buffer) :
    Framing.view ((framing suite).cut ⟨receiver, some n⟩ buffer) =
      if buffer.toBytes.length < n then (.ok none, ⟨receiver, some n⟩, buffer.toBytes)
      else
        ((unsealed suite receiver (buffer.toBytes.take n)).1,
          (unsealed suite receiver (buffer.toBytes.take n)).2, buffer.toBytes.drop n) := by
  simp only [Framing.view, framing, cut, cutBody, Buffer.size_eq_length, Buffer.take_eq]
  split
  · rfl
  · rename_i enough
    have length : (buffer.toBytes.take n).length = n := by
      rw [List.length_take]
      omega
    rw [unsealed, length]
    rcases receiver.unsealMessage suite (buffer.toBytes.take n) with ⟨_ | _, receiver'⟩
    · simp
    · simp

/-- The cut from the beginning of a frame, on the octets of the buffer. -/
theorem view_cut_none (receiver : Sealing) (buffer : Buffer) :
    Framing.view ((framing suite).cut ⟨receiver, none⟩ buffer) =
      if buffer.toBytes.length < headSize then (.ok none, ⟨receiver, none⟩, buffer.toBytes)
      else if minSize ≤ Bytes.toNatBE (buffer.toBytes.take headSize) ∧
          Bytes.toNatBE (buffer.toBytes.take headSize) ≤ maxSize then
        Framing.view ((framing suite).cut
          ⟨receiver, some (Bytes.toNatBE (buffer.toBytes.take headSize))⟩ (buffer.drop headSize))
      else
        (.error (.sealing (.invalidLength (Bytes.toNatBE (buffer.toBytes.take headSize)))),
          ⟨receiver, none⟩, buffer.toBytes.drop headSize) := by
  simp only [Framing.view, framing, cut, Buffer.size_eq_length, Buffer.take_eq]
  split
  · rfl
  · split
    · rfl
    · simp

/-- The cut of the octets behind a length. -/
theorem cutBytes_some (receiver : Sealing) (n : Nat) (bytes : Bytes) :
    (framing suite).cutBytes ⟨receiver, some n⟩ bytes =
      if bytes.length < n then (.ok none, ⟨receiver, some n⟩, bytes)
      else
        ((unsealed suite receiver (bytes.take n)).1, (unsealed suite receiver (bytes.take n)).2,
          bytes.drop n) := by
  rw [Framing.cutBytes, view_cut_some, Buffer.toBytes_ofBytes]

/-- The cut of the octets from the beginning of a frame. -/
theorem cutBytes_none (receiver : Sealing) (bytes : Bytes) :
    (framing suite).cutBytes ⟨receiver, none⟩ bytes =
      if bytes.length < headSize then (.ok none, ⟨receiver, none⟩, bytes)
      else if minSize ≤ Bytes.toNatBE (bytes.take headSize) ∧
          Bytes.toNatBE (bytes.take headSize) ≤ maxSize then
        (framing suite).cutBytes ⟨receiver, some (Bytes.toNatBE (bytes.take headSize))⟩
          (bytes.drop headSize)
      else
        (.error (.sealing (.invalidLength (Bytes.toNatBE (bytes.take headSize)))),
          ⟨receiver, none⟩, bytes.drop headSize) := by
  rw [Framing.cutBytes, view_cut_none, view_cut_some, cutBytes_some, Buffer.toBytes_drop,
    Buffer.toBytes_ofBytes]

/-- More octets behind a length leave the length as it is. -/
theorem cutBytes_none_append (receiver : Sealing) {bytes : Bytes}
    (long : ¬ bytes.length < headSize) (more : Bytes) :
    (framing suite).cutBytes ⟨receiver, none⟩ (bytes ++ more) =
      if minSize ≤ Bytes.toNatBE (bytes.take headSize) ∧
          Bytes.toNatBE (bytes.take headSize) ≤ maxSize then
        (framing suite).cutBytes ⟨receiver, some (Bytes.toNatBE (bytes.take headSize))⟩
          (bytes.drop headSize ++ more)
      else
        (.error (.sealing (.invalidLength (Bytes.toNatBE (bytes.take headSize)))),
          ⟨receiver, none⟩, bytes.drop headSize ++ more) := by
  rw [cutBytes_none, if_neg (by rw [List.length_append]; omega),
    List.take_append_of_le_length (by omega), List.drop_append_of_le_length (by omega)]

/-- The framing makes the same of octets in pieces as of all of them at once. -/
theorem incremental : (framing suite).Incremental where
  view_cut := by
    rintro ⟨receiver, expected⟩ buffer
    cases expected with
    | none => rw [cutBytes_none, view_cut_none, view_cut_some, cutBytes_some, Buffer.toBytes_drop]
    | some n => rw [cutBytes_some, view_cut_some]
  stable := by
    -- Behind a length the message is unsealed once its octets are there.
    have body {receiver : Sealing} {n : Nat} {bytes : Bytes} {result state' rest}
        (h : (framing suite).cutBytes ⟨receiver, some n⟩ bytes = (result, state', rest))
        (complete : result ≠ .ok none) (more : Bytes) :
        (framing suite).cutBytes ⟨receiver, some n⟩ (bytes ++ more) =
          (result, state', rest ++ more) := by
      rw [cutBytes_some] at h ⊢
      split_ifs at h with short
      · exact absurd (congrArg Prod.fst h).symm complete
      · simp only [Prod.mk.injEq] at h
        obtain ⟨rfl, rfl, rfl⟩ := h
        rw [if_neg (by rw [List.length_append]; omega), List.take_append_of_le_length (by omega),
          List.drop_append_of_le_length (by omega)]
    -- A length that is there stays the same when more octets come.
    rintro ⟨receiver, expected⟩ bytes result state' rest h complete more
    cases expected with
    | some n => exact body h complete more
    | none =>
      rw [cutBytes_none] at h
      split_ifs at h with short acceptable
      · exact absurd (congrArg Prod.fst h).symm complete
      · rw [cutBytes_none_append suite receiver short, if_pos acceptable]
        exact body h complete more
      · simp only [Prod.mk.injEq] at h
        obtain ⟨rfl, rfl, rfl⟩ := h
        rw [cutBytes_none_append suite receiver short, if_neg acceptable]
  resumable := by
    -- A cut that waits behind a length takes nothing, so that it can be tried again.
    have body {receiver : Sealing} {n : Nat} {bytes : Bytes} {state' rest}
        (h : (framing suite).cutBytes ⟨receiver, some n⟩ bytes = (.ok none, state', rest)) :
        state' = ⟨receiver, some n⟩ ∧ rest = bytes := by
      rw [cutBytes_some] at h
      split_ifs at h with short
      · simp only [Prod.mk.injEq] at h
        exact ⟨h.2.1.symm, h.2.2.symm⟩
      · exact absurd (congrArg Prod.fst h) (unsealed_ne_none suite _ _)
    rintro ⟨receiver, expected⟩ bytes state' rest h more
    cases expected with
    | some n =>
      obtain ⟨rfl, rfl⟩ := body h
      rfl
    | none =>
      rw [cutBytes_none] at h
      split_ifs at h with short acceptable
      · simp only [Prod.mk.injEq] at h
        obtain ⟨-, rfl, rfl⟩ := h
        rfl
      · obtain ⟨rfl, rfl⟩ := body h
        rw [cutBytes_none_append suite receiver short, if_pos acceptable]
      · simp at h

/-- An acceptable length is read back from its octets. -/
theorem toNatBE_headSize {n : Nat} (h : n ≤ maxSize) :
    Bytes.toNatBE (Bytes.ofNatBE headSize n) = n := by
  have width : maxSize < Nat.pow 256 headSize := by decide
  exact Bytes.toNatBE_ofNatBE_of_lt (Nat.lt_of_le_of_lt h width)

/-- A remembered length stands for its octets. -/
theorem cutBytes_none_head {state : State} (valid : Valid state) (bytes : Bytes) :
    (framing suite).cutBytes ⟨state.receiver, none⟩ (head state ++ bytes) =
      (framing suite).cutBytes state bytes := by
  obtain ⟨receiver, expected⟩ := state
  cases expected with
  | none => rfl
  | some n =>
    have length : (Bytes.ofNatBE headSize n).length = headSize := Bytes.length_ofNatBE _ _
    obtain ⟨least, le⟩ := valid n rfl
    rw [head, cutBytes_none, List.take_left' length, List.drop_left' length, toNatBE_headSize le,
      if_neg (by rw [List.length_append, length]; omega), if_pos ⟨least, le⟩]

/-- When nothing is cut yet no octet is lost, and the receiving half is as it was. -/
theorem head_append_of_cutBytes {receiver : Sealing} {bytes : Bytes} {state : State} {rest : Bytes}
    (h : (framing suite).cutBytes ⟨receiver, none⟩ bytes = (.ok none, state, rest)) :
    Valid state ∧ state.receiver = receiver ∧ head state ++ rest = bytes := by
  rw [cutBytes_none] at h
  split_ifs at h with short acceptable
  · simp only [Prod.mk.injEq] at h
    obtain ⟨-, rfl, rfl⟩ := h
    exact ⟨by rintro n ⟨⟩, rfl, rfl⟩
  · rw [cutBytes_some] at h
    split_ifs at h with incomplete
    · simp only [Prod.mk.injEq] at h
      obtain ⟨-, rfl, rfl⟩ := h
      refine ⟨?_, rfl, ?_⟩
      · rintro n ⟨⟩
        exact acceptable
      · have width : (bytes.take headSize).length = headSize := by
          rw [List.length_take]
          omega
        simp only [head]
        rw [Bytes.ofNatBE_toNatBE width, List.take_append_drop]
    · exact absurd (congrArg Prod.fst h) (unsealed_ne_none suite _ _)
  · simp at h

/-- What is behind a message that is read: a ciphertext that opens with the key and the counter of
the receiving half, which takes a step. -/
theorem sealed_of_cutBytes {receiver : Sealing} {bytes message : Bytes} {state : State}
    {rest : Bytes}
    (h : (framing suite).cutBytes ⟨receiver, none⟩ bytes = (.ok (some message), state, rest)) :
    ∃ ciphertext, suite.decrypt? receiver.key receiver.counter [] ciphertext = some message ∧
      minSize ≤ ciphertext.length ∧ ciphertext.length ≤ maxSize ∧
      state = ⟨receiver.advance suite, none⟩ ∧
      bytes = Bytes.ofNatBE headSize ciphertext.length ++ ciphertext ++ rest := by
  rw [cutBytes_none] at h
  split_ifs at h with short acceptable
  · simp at h
  · rw [cutBytes_some] at h
    split_ifs at h with incomplete
    · simp at h
    · -- The length in front of the ciphertext is the one that it has.
      set size := Bytes.toNatBE (bytes.take headSize) with size_eq
      have width : (bytes.take headSize).length = headSize := by
        rw [List.length_take]
        omega
      have length : ((bytes.drop headSize).take size).length = size := by
        rw [List.length_take]
        omega
      rw [unsealed, Sealing.unsealMessage] at h
      cases opened : suite.decrypt? receiver.key receiver.counter []
          ((bytes.drop headSize).take size) with
      | none => simp [opened] at h
      | some text =>
        simp only [opened, Prod.mk.injEq, Except.ok.injEq, Option.some.injEq] at h
        obtain ⟨rfl, rfl, rfl⟩ := h
        refine ⟨_, opened, by omega, by omega, rfl, ?_⟩
        rw [length, size_eq, Bytes.ofNatBE_toNatBE width, List.append_assoc,
          List.take_append_drop, List.take_append_drop]
  · simp at h

/-- A fault of a sealed frame is one of its seal, and not one of the stream. -/
theorem sealing_of_cutBytes {state : State} {bytes : Bytes} {e : Error} {state' : State}
    {rest : Bytes} (h : (framing suite).cutBytes state bytes = (.error e, state', rest)) :
    ∃ cause, e = .sealing cause := by
  have body {receiver : Sealing} {n : Nat} {bytes : Bytes}
      (h : (framing suite).cutBytes ⟨receiver, some n⟩ bytes = (.error e, state', rest)) :
      ∃ cause, e = .sealing cause := by
    rw [cutBytes_some] at h
    split_ifs at h with short
    · simp at h
    · exact sealing_of_unsealed suite (congrArg Prod.fst h)
  obtain ⟨receiver, expected⟩ := state
  cases expected with
  | some n => exact body h
  | none =>
    rw [cutBytes_none] at h
    split_ifs at h with short acceptable
    · simp at h
    · exact body h
    · simp only [Prod.mk.injEq, Except.error.injEq] at h
      exact ⟨_, h.1.symm⟩

/-- The frame of a ciphertext. -/
def frameOf (ciphertext : Bytes) : Bytes :=
  Bytes.ofNatBE headSize ciphertext.length ++ ciphertext

/-- A ciphertext has the length of one that fits a frame. -/
def Acceptable (ciphertext : Bytes) : Prop :=
  minSize ≤ ciphertext.length ∧ ciphertext.length ≤ maxSize

/-- Octets begin with at most one frame. -/
theorem frameOf_append_inj {ciphertext ciphertext' rest rest' : Bytes}
    (acceptable : Acceptable ciphertext) (acceptable' : Acceptable ciphertext')
    (same : frameOf ciphertext ++ rest = frameOf ciphertext' ++ rest') :
    ciphertext = ciphertext' ∧ rest = rest' := by
  rw [frameOf, frameOf, List.append_assoc, List.append_assoc] at same
  obtain ⟨heads, tails⟩ := List.append_inj same (by simp)
  have length : ciphertext.length = ciphertext'.length := by
    rw [← toNatBE_headSize acceptable.2, heads, toNatBE_headSize acceptable'.2]
  exact List.append_inj tails length

/-- A ciphertext that opens is read as its message, whatever follows its frame. -/
theorem cutBytes_frameOf {half : Sealing} {ciphertext message : Bytes}
    (acceptable : Acceptable ciphertext)
    (opened : suite.decrypt? half.key half.counter [] ciphertext = some message) (rest : Bytes) :
    (framing suite).cutBytes ⟨half, none⟩ (frameOf ciphertext ++ rest) =
      (.ok (some message), ⟨half.advance suite, none⟩, rest) := by
  have valid : Valid ⟨half, some ciphertext.length⟩ := by
    rintro n ⟨⟩
    exact acceptable
  rw [frameOf, List.append_assoc]
  show (framing suite).cutBytes ⟨half, none⟩
    (head ⟨half, some ciphertext.length⟩ ++ (ciphertext ++ rest)) = _
  rw [cutBytes_none_head suite valid, cutBytes_some, if_neg (by rw [List.length_append]; omega),
    List.take_left, List.drop_left, unsealed, Sealing.unsealMessage, opened]

/-- The size of a sealed message. -/
theorem length_sealMessage (half : Sealing) (message : Bytes) :
    (half.sealMessage suite message).1.length = message.length + Suite.tagSize :=
  suite.length_encrypt _ _ _ _

variable {suite}

/-- The frame of a message is read by the half in step with the one that sealed it, whatever
follows. -/
theorem cutBytes_frame (opens : suite.Opens) (half : Sealing) {message : Bytes}
    (h : message.length ≤ maxPayload) (rest : Bytes) :
    (framing suite).cutBytes ⟨half, none⟩ (frame suite half message ++ rest) =
      (.ok (some message), ⟨half.advance suite, none⟩, rest) := by
  have payload : maxPayload + Suite.tagSize = maxSize := rfl
  have least : minSize = Suite.tagSize := rfl
  have length := length_sealMessage suite half message
  have acceptable : Acceptable (half.sealMessage suite message).1 := by
    rw [Acceptable, length]
    omega
  have cut := cutBytes_frameOf suite acceptable (opens _ _ _ _) rest
  rwa [frameOf, length] at cut

/-- Of a part of a frame nothing is cut yet. -/
theorem cutBytes_part (opens : suite.Opens) (half : Sealing) {message bytes missing : Bytes}
    (h : message.length ≤ maxPayload) (whole : bytes ++ missing = frame suite half message)
    (some_missing : missing ≠ []) :
    ∃ state rest, (framing suite).cutBytes ⟨half, none⟩ bytes = (.ok none, state, rest) := by
  have framed := cutBytes_frame opens half h []
  rw [List.append_nil, ← whole] at framed
  exact (incremental suite).cutBytes_part framed some_missing

/-! ## Reading -/

variable (suite)

/-- What reading a frame comes to when `octets` are what the reader has before it from the beginning
of a frame on, and `verge` is behind them: the outcome, the state, and the octets that are left. -/
inductive Reading (half : Sealing) (octets : Bytes) (verge : ReadResult) :
    Outcome Error (Option Bytes) → State → Bytes → Prop
  /-- A ciphertext that opens. -/
  | message {ciphertext message rest : Bytes}
      (opened : suite.decrypt? half.key half.counter [] ciphertext = some message)
      (octets_eq : octets = frameOf ciphertext ++ rest) (acceptable : Acceptable ciphertext) :
      Reading half octets verge (.done (some message)) ⟨half.advance suite, none⟩ rest
  /-- A part of a frame, of which more may come. -/
  | waiting {state : State} {rest : Bytes} (valid : Valid state) (receiver : state.receiver = half)
      (octets_eq : head state ++ rest = octets) (behind : verge = .wait) :
      Reading half octets verge .waiting state rest
  /-- The end of the stream between two frames. -/
  | clean {state : State} {rest : Bytes} (valid : Valid state) (receiver : state.receiver = half)
      (octets_eq : head state ++ rest = octets) (nothing : octets = []) (behind : verge = .stop) :
      Reading half octets verge (.done none) state rest
  /-- The end of the stream within a frame. -/
  | truncated {state : State} {rest : Bytes} (detail : String) (part : octets ≠ [])
      (behind : verge = .stop) :
      Reading half octets verge (.failed (.io (.unexpectedEof detail))) state rest
  /-- A stream that fails. -/
  | broken {state : State} {rest : Bytes} {e : IoError} (behind : verge = .failed e) :
      Reading half octets verge (.failed (.io e)) state rest
  /-- A length that no frame has, or a ciphertext that does not open. -/
  | forged {state : State} {rest : Bytes} (cause : SealingError) :
      Reading half octets verge (.failed (.sealing cause)) state rest

/-- A state that has taken octets of a frame has taken some. -/
theorem head_ne_nil {state : State} {n : Nat} (h : state.expected = some n) : head state ≠ [] := by
  intro nothing
  have length := congrArg List.length nothing
  simp [head, h, headSize] at length

/-- The stream does not end cleanly behind a length. -/
theorem cutLast_some (receiver : Sealing) {n : Nat} (least : minSize ≤ n) :
    cutLast suite ⟨receiver, some n⟩ .empty =
      (.error (.io (.unexpectedEof "stream closed in the middle of a sealed frame")),
        ⟨receiver, some n⟩, .empty) := by
  have short : Buffer.empty.size < n := Nat.lt_of_lt_of_le (by decide) least
  simp [cutLast, cut, cutBody, short]

/-- A message that is read is cut from the octets that have arrived, and no octet more. -/
theorem cutBytes_of_readFrame {state state' : State} {wire wire' : Wire} {stream stream' : Stream}
    {message : Bytes} (read : wire.readFrame (framing suite) state stream =
      (.done (some message), state', wire', stream')) :
    (framing suite).cutBytes state (wire.ahead stream) =
      (.ok (some message), state', wire'.ahead stream') := by
  refine Wire.cutBytes_of_readFrame (incremental suite) (fun state nothing last => ?_) read
  change (cut suite state .empty).1 = .ok none at nothing
  change (cutLast suite state .empty).1 = .ok (some message) at last
  rw [cutLast] at last
  rcases cut_eq : cut suite state .empty with ⟨result, state'', buffer⟩
  rw [cut_eq] at nothing last
  obtain rfl : result = .ok none := nothing
  -- The end of the stream is clean or not, but there is no message.
  dsimp only at last
  split_ifs at last
  simp at last

/-- What the cut of everything that has arrived comes to. -/
theorem reading_conclude {state : State} (valid : Valid state) (ahead : Bytes) {verge : ReadResult}
    (no_data : ∀ bytes, verge ≠ .data bytes) :
    ∃ outcome state' rest, (framing suite).conclude verge ((framing suite).cutBytes state ahead) =
        (outcome, state', rest) ∧
      Reading suite state.receiver (head state ++ ahead) verge outcome state' rest := by
  -- A cut from a state is one of the octets that the state stands for, and nothing is remembered.
  have whole := cutBytes_none_head suite valid ahead
  rcases cut : (framing suite).cutBytes state ahead with ⟨result, state', rest⟩
  rw [cut] at whole
  rcases result with e | _ | message
  · obtain ⟨cause, rfl⟩ := sealing_of_cutBytes suite cut
    exact ⟨_, _, _, rfl, .forged cause⟩
  · obtain ⟨valid', receiver, octets_eq⟩ := head_append_of_cutBytes suite whole
    cases verge with
    | data bytes => exact absurd rfl (no_data bytes)
    | wait => exact ⟨_, _, _, rfl, .waiting valid' receiver octets_eq rfl⟩
    | failed e => exact ⟨_, _, _, rfl, .broken rfl⟩
    | stop =>
      cases rest with
      | cons b rest =>
        refine ⟨_, _, _, rfl, .truncated _ ?_ rfl⟩
        rw [← octets_eq]
        simp
      | nil =>
        obtain ⟨receiver', expected⟩ := state'
        cases expected with
        | none => exact ⟨_, _, _, rfl, .clean valid' receiver octets_eq octets_eq.symm rfl⟩
        | some n =>
          have last := cutLast_some suite receiver' (valid' n rfl).1
          refine ⟨.failed (.io (.unexpectedEof "stream closed in the middle of a sealed frame")),
            ⟨receiver', some n⟩, [], ?_, .truncated _ ?_ rfl⟩
          · simp [Framing.conclude, Framing.view, framing, last, Outcome.ofExcept]
          · rw [← octets_eq, List.append_nil]
            exact head_ne_nil rfl
  · obtain ⟨ciphertext, opened, least, le, rfl, octets_eq⟩ := sealed_of_cutBytes suite whole
    exact ⟨_, _, _, rfl, .message opened octets_eq ⟨least, le⟩⟩

/-- What reading a frame comes to. -/
theorem reading_readFrame {state : State} (valid : Valid state) (wire : Wire) (stream : Stream) :
    ∃ outcome state' wire' stream',
      wire.readFrame (framing suite) state stream = (outcome, state', wire', stream') ∧
      wire.Advanced stream wire' stream' ∧
      Reading suite state.receiver (head state ++ wire.ahead stream) stream.inbound.verge outcome
        state' (wire'.ahead stream') := by
  obtain ⟨outcome, state', rest, concluded, reading⟩ :=
    reading_conclude suite valid (wire.ahead stream) stream.inbound.verge_ne_data
  obtain ⟨wire', stream', read, rfl, advanced⟩ := Wire.readFrame_eq (incremental suite) concluded
  exact ⟨outcome, state', wire', stream', read, advanced, reading⟩

/-! ## What is remembered -/

variable {suite}

/-- A cut remembers no other lengths than ones of frames. -/
theorem valid_of_cutBytes {state state' : State} (valid : Valid state) {bytes rest : Bytes}
    {result : Except Error (Option Bytes)}
    (cut : (framing suite).cutBytes state bytes = (result, state', rest)) : Valid state' := by
  -- Behind a length it is this one that is remembered, or none.
  have body {receiver : Sealing} {n : Nat} (acceptable : minSize ≤ n ∧ n ≤ maxSize) {bytes : Bytes}
      (cut : (framing suite).cutBytes ⟨receiver, some n⟩ bytes = (result, state', rest)) :
      Valid state' := by
    rw [cutBytes_some] at cut
    split_ifs at cut with short
    · obtain ⟨-, rfl, -⟩ := cut
      rintro _ ⟨⟩
      exact acceptable
    · have length : (bytes.take n).length = n := by
        rw [List.length_take]
        omega
      rw [unsealed, length] at cut
      rcases opened : receiver.unsealMessage suite (bytes.take n) with ⟨_ | _, _⟩
      · simp only [opened, Prod.mk.injEq] at cut
        obtain ⟨-, rfl, -⟩ := cut
        rintro _ ⟨⟩
        exact acceptable
      · simp only [opened, Prod.mk.injEq] at cut
        obtain ⟨-, rfl, -⟩ := cut
        rintro _ ⟨⟩
  obtain ⟨receiver, expected⟩ := state
  cases expected with
  | some n => exact body (valid n rfl) cut
  | none =>
    rw [cutBytes_none] at cut
    split_ifs at cut with short acceptable
    · obtain ⟨-, rfl, -⟩ := cut
      exact valid
    · exact body acceptable cut
    · obtain ⟨-, rfl, -⟩ := cut
      exact valid

/-- The last cut leaves the state of any other cut. -/
theorem state_cutLast (state : State) (buffer : Buffer) :
    (cutLast suite state buffer).2.1 = (cut suite state buffer).2.1 := by
  rw [cutLast]
  rcases cut suite state buffer with ⟨_ | _ | _, state', rest⟩
  · rfl
  · dsimp only
    split_ifs <;> rfl
  · rfl

/-- A reader remembers no other lengths than ones of frames. -/
theorem valid_of_readFrame {state state' : State} (valid : Valid state) {wire wire' : Wire}
    {stream stream' : Stream} {outcome : Outcome Error (Option Bytes)}
    (read : wire.readFrame (framing suite) state stream = (outcome, state', wire', stream')) :
    Valid state' := by
  have concluded := (Wire.readView_readFrame (incremental suite) state wire stream).1
  rcases cut_eq : (framing suite).cutBytes state (wire.ahead stream) with ⟨result, state'', rest⟩
  have valid' := valid_of_cutBytes valid cut_eq
  have state_eq := congrArg (·.2.1) concluded
  rw [read, cut_eq] at state_eq
  change state' = _ at state_eq
  rw [state_eq]
  rcases result with e | _ | frame
  · exact valid'
  · cases stream.inbound.verge with
    | stop =>
      rw [Framing.conclude]
      by_cases nothing : rest.isEmpty = true
      · -- What is remembered at the end of the stream is what one more cut leaves.
        have again := congrArg (·.2.1) ((incremental suite).view_cut state'' .empty)
        rw [if_pos nothing]
        change Valid (cutLast suite state'' .empty).2.1
        rw [state_cutLast]
        exact valid_of_cutBytes valid' (Prod.ext rfl (Prod.ext again.symm rfl))
      · rw [if_neg nothing]
        exact valid'
    | data bytes => exact valid'
    | wait => exact valid'
    | failed e => exact valid'
  · exact valid'

end PeerLink.SealedFrames
