import PeerLink.Framing.LengthPrefixed
import PeerLink.Proofs.Bytes
import PeerLink.Proofs.Framing.Reading

/-!
# Length-prefixed frames are read as they are written

The state of the framing stands for octets that were taken from the buffer and belong to the frame
still: `head state` gives them back. With them in front, what a reader has before it is what its
peer wrote from the beginning of a frame. `cutBytes_encode` is the whole frame, `cutBytes_part` a
part of one, and `eq_encode_of_cutBytes` says that nothing but the encoding of a frame is read as
that frame.
-/

namespace PeerLink.LengthPrefixed

variable {ε : Type} (ofIo : IoError → ε)

/-- The octets that a state has taken of the frame that is to come. -/
def head : State → Bytes
  | none => []
  | some n => Bytes.ofNatBE headSize n

/-- A remembered length is the one of an acceptable frame. -/
def Valid (state : State) : Prop :=
  ∀ n, state = some n → n ≤ maxSize

/-- No length is known at the beginning. -/
theorem valid_none : Valid none := by
  rintro n ⟨⟩

/-- A state that has taken no octets knows no length. -/
theorem eq_none_of_head {state : State} (h : head state = []) : state = none := by
  cases state with
  | none => rfl
  | some n =>
    have length := congrArg List.length h
    simp [head, headSize] at length

/-- There are octets in the encoding of any frame. -/
theorem encode_ne_nil (frame : Bytes) : encode frame ≠ [] := by
  intro nothing
  have length := congrArg List.length nothing
  simp [encode, headSize] at length

/-- The cut behind a length, on the octets of the buffer. -/
theorem view_cut_some (n : Nat) (buffer : Buffer) :
    Framing.view ((framing ofIo).cut (some n) buffer) =
      if buffer.toBytes.length < n then (.ok none, some n, buffer.toBytes)
      else (.ok (some (buffer.toBytes.take n)), none, buffer.toBytes.drop n) := by
  simp only [Framing.view, framing, cut, cutBody, Buffer.size_eq_length]
  split <;> simp [Except.mapError]

/-- The cut from the beginning of a frame, on the octets of the buffer. -/
theorem view_cut_none (buffer : Buffer) :
    Framing.view ((framing ofIo).cut none buffer) =
      if buffer.toBytes.length < headSize then (.ok none, none, buffer.toBytes)
      else if maxSize < Bytes.toNatBE (buffer.toBytes.take headSize) then
        (.error (ofIo (.invalidData "frame size too big")), none, buffer.toBytes)
      else
        Framing.view ((framing ofIo).cut (some (Bytes.toNatBE (buffer.toBytes.take headSize)))
          (buffer.drop headSize)) := by
  simp only [Framing.view, framing, cut, Buffer.size_eq_length, Buffer.take_eq]
  split
  · rfl
  · split <;> rfl

/-- The cut of the octets behind a length. -/
theorem cutBytes_some (n : Nat) (bytes : Bytes) :
    (framing ofIo).cutBytes (some n) bytes =
      if bytes.length < n then (.ok none, some n, bytes)
      else (.ok (some (bytes.take n)), none, bytes.drop n) := by
  rw [Framing.cutBytes, view_cut_some, Buffer.toBytes_ofBytes]

/-- The cut of the octets from the beginning of a frame. -/
theorem cutBytes_none (bytes : Bytes) :
    (framing ofIo).cutBytes none bytes =
      if bytes.length < headSize then (.ok none, none, bytes)
      else if maxSize < Bytes.toNatBE (bytes.take headSize) then
        (.error (ofIo (.invalidData "frame size too big")), none, bytes)
      else
        (framing ofIo).cutBytes (some (Bytes.toNatBE (bytes.take headSize)))
          (bytes.drop headSize) := by
  rw [Framing.cutBytes, view_cut_none, view_cut_some, cutBytes_some, Buffer.toBytes_drop,
    Buffer.toBytes_ofBytes]

/-- More octets behind a length leave the length as it is. -/
theorem cutBytes_none_append {bytes : Bytes} (long : ¬ bytes.length < headSize) (more : Bytes) :
    (framing ofIo).cutBytes none (bytes ++ more) =
      if maxSize < Bytes.toNatBE (bytes.take headSize) then
        (.error (ofIo (.invalidData "frame size too big")), none, bytes ++ more)
      else
        (framing ofIo).cutBytes (some (Bytes.toNatBE (bytes.take headSize)))
          (bytes.drop headSize ++ more) := by
  rw [cutBytes_none, if_neg (by rw [List.length_append]; omega),
    List.take_append_of_le_length (by omega), List.drop_append_of_le_length (by omega)]

/-- The framing makes the same of octets in pieces as of all of them at once. -/
theorem incremental : (framing ofIo).Incremental where
  view_cut := by
    intro state buffer
    cases state with
    | none => rw [cutBytes_none, view_cut_none, view_cut_some, cutBytes_some, Buffer.toBytes_drop]
    | some n => rw [cutBytes_some, view_cut_some]
  stable := by
    -- Behind a length the frame is cut once its octets are there, and more of them do not matter.
    have body {n : Nat} {bytes : Bytes} {result state' rest}
        (h : (framing ofIo).cutBytes (some n) bytes = (result, state', rest))
        (complete : result ≠ .ok none) (more : Bytes) :
        (framing ofIo).cutBytes (some n) (bytes ++ more) = (result, state', rest ++ more) := by
      rw [cutBytes_some] at h ⊢
      split_ifs at h with short
      · exact absurd (congrArg Prod.fst h).symm complete
      · simp only [Prod.mk.injEq] at h
        obtain ⟨rfl, rfl, rfl⟩ := h
        rw [if_neg (by rw [List.length_append]; omega), List.take_append_of_le_length (by omega),
          List.drop_append_of_le_length (by omega)]
    intro state bytes result state' rest h complete more
    cases state with
    | some n => exact body h complete more
    | none =>
      rw [cutBytes_none] at h
      split_ifs at h with short large
      · exact absurd (congrArg Prod.fst h).symm complete
      · simp only [Prod.mk.injEq] at h
        obtain ⟨rfl, rfl, rfl⟩ := h
        rw [cutBytes_none_append ofIo short, if_pos large]
      · rw [cutBytes_none_append ofIo short, if_neg large]
        exact body h complete more
  resumable := by
    -- A cut that waits behind a length takes nothing, so that it can be tried again.
    have body {n : Nat} {bytes : Bytes} {state' rest}
        (h : (framing ofIo).cutBytes (some n) bytes = (.ok none, state', rest)) :
        state' = some n ∧ rest = bytes := by
      rw [cutBytes_some] at h
      split_ifs at h with short
      · simp only [Prod.mk.injEq] at h
        exact ⟨h.2.1.symm, h.2.2.symm⟩
      · simp at h
    intro state bytes state' rest h more
    cases state with
    | some n =>
      obtain ⟨rfl, rfl⟩ := body h
      rfl
    | none =>
      rw [cutBytes_none] at h
      split_ifs at h with short large
      · simp only [Prod.mk.injEq] at h
        obtain ⟨-, rfl, rfl⟩ := h
        rfl
      · simp at h
      · obtain ⟨rfl, rfl⟩ := body h
        rw [cutBytes_none_append ofIo short, if_neg large]

/-- An acceptable length is read back from its octets. -/
theorem toNatBE_headSize {n : Nat} (h : n ≤ maxSize) :
    Bytes.toNatBE (Bytes.ofNatBE headSize n) = n := by
  have width : maxSize < Nat.pow 256 headSize := by decide
  exact Bytes.toNatBE_ofNatBE_of_lt (Nat.lt_of_le_of_lt h width)

/-- A remembered length stands for its octets. -/
theorem cutBytes_none_head {state : State} (valid : Valid state) (bytes : Bytes) :
    (framing ofIo).cutBytes none (head state ++ bytes) = (framing ofIo).cutBytes state bytes := by
  cases state with
  | none => rfl
  | some n =>
    have length : (Bytes.ofNatBE headSize n).length = headSize := Bytes.length_ofNatBE _ _
    have le : n ≤ maxSize := valid n rfl
    rw [head, cutBytes_none, List.take_left' length, List.drop_left' length, toNatBE_headSize le,
      if_neg (by rw [List.length_append, length]; omega), if_neg (by omega)]

/-- A whole frame is cut, whatever follows it. -/
theorem cutBytes_encode {frame : Bytes} (h : frame.length ≤ maxSize) (rest : Bytes) :
    (framing ofIo).cutBytes none (encode frame ++ rest) = (.ok (some frame), none, rest) := by
  have valid : Valid (some frame.length) := by
    rintro n ⟨⟩
    exact h
  rw [encode, List.append_assoc]
  show (framing ofIo).cutBytes none (head (some frame.length) ++ (frame ++ rest)) = _
  rw [cutBytes_none_head ofIo valid, cutBytes_some,
    if_neg (by rw [List.length_append]; omega), List.take_left, List.drop_left]

/-- Of a part of a frame nothing is cut yet. -/
theorem cutBytes_part {frame bytes missing : Bytes} (h : frame.length ≤ maxSize)
    (whole : bytes ++ missing = encode frame) (some_missing : missing ≠ []) :
    ∃ state rest, (framing ofIo).cutBytes none bytes = (.ok none, state, rest) := by
  have encoded := cutBytes_encode ofIo h []
  rw [List.append_nil, ← whole] at encoded
  exact (incremental ofIo).cutBytes_part encoded some_missing

/-- When nothing is cut yet no octet is lost. -/
theorem head_append_of_cutBytes {bytes : Bytes} {state : State} {rest : Bytes}
    (h : (framing ofIo).cutBytes none bytes = (.ok none, state, rest)) :
    Valid state ∧ head state ++ rest = bytes := by
  rw [cutBytes_none] at h
  split_ifs at h with short large
  · simp only [Prod.mk.injEq] at h
    obtain ⟨-, rfl, rfl⟩ := h
    exact ⟨by rintro n ⟨⟩, rfl⟩
  · simp at h
  · rw [cutBytes_some] at h
    split_ifs at h with incomplete
    · simp only [Prod.mk.injEq] at h
      obtain ⟨-, rfl, rfl⟩ := h
      refine ⟨?_, ?_⟩
      · rintro n ⟨⟩
        omega
      · have width : (bytes.take headSize).length = headSize := by
          rw [List.length_take]
          omega
        rw [head, Bytes.ofNatBE_toNatBE width, List.take_append_drop]
    · simp at h

/-- Only the encoding of a frame is read as that frame. -/
theorem eq_encode_of_cutBytes {bytes frame : Bytes} {state : State} {rest : Bytes}
    (h : (framing ofIo).cutBytes none bytes = (.ok (some frame), state, rest)) :
    state = none ∧ bytes = encode frame ++ rest ∧ frame.length ≤ maxSize := by
  rw [cutBytes_none] at h
  split_ifs at h with short large
  · simp at h
  · simp at h
  · rw [cutBytes_some] at h
    split_ifs at h with incomplete
    · simp at h
    · simp only [Prod.mk.injEq, Except.ok.injEq, Option.some.injEq] at h
      obtain ⟨rfl, rfl, rfl⟩ := h
      have width : (bytes.take headSize).length = headSize := by
        rw [List.length_take]
        omega
      have length : ((bytes.drop headSize).take (Bytes.toNatBE (bytes.take headSize))).length =
          Bytes.toNatBE (bytes.take headSize) := by
        rw [List.length_take]
        omega
      refine ⟨rfl, ?_, by omega⟩
      rw [encode, length, Bytes.ofNatBE_toNatBE width, List.append_assoc, List.take_append_drop,
        List.take_append_drop]

/-! ## Reading -/

/-- A frame that has arrived is read, and no octet more. -/
theorem readFrame_whole {state : State} {wire : Wire} {stream : Stream} (valid : Valid state)
    {frame rest : Bytes} (acceptable : frame.length ≤ maxSize)
    (octets : head state ++ wire.ahead stream = encode frame ++ rest) :
    ∃ wire' stream', wire.readFrame (framing ofIo) state stream =
        (.done (some frame), none, wire', stream') ∧
      wire'.ahead stream' = rest ∧ wire.Advanced stream wire' stream' := by
  have cut := cutBytes_encode ofIo acceptable rest
  rw [← octets, cutBytes_none_head ofIo valid] at cut
  exact Wire.readFrame_of_cutBytes (incremental ofIo) cut

/-- A reader waits for a frame that has not arrived, and no octet is lost. -/
theorem readFrame_part {state : State} {wire : Wire} {stream : Stream} (valid : Valid state)
    {frame missing : Bytes} (acceptable : frame.length ≤ maxSize)
    (octets : head state ++ wire.ahead stream ++ missing = encode frame)
    (some_missing : missing ≠ []) (behind : stream.inbound.verge = .wait) :
    ∃ state' wire' stream', wire.readFrame (framing ofIo) state stream =
        (.waiting, state', wire', stream') ∧ Valid state' ∧
      head state' ++ wire'.ahead stream' = head state ++ wire.ahead stream ∧
      wire.Advanced stream wire' stream' := by
  obtain ⟨state', rest, cut⟩ := cutBytes_part ofIo acceptable octets some_missing
  obtain ⟨valid', octets'⟩ := head_append_of_cutBytes ofIo cut
  rw [cutBytes_none_head ofIo valid] at cut
  obtain ⟨wire', stream', read, rfl, advanced⟩ := Wire.readFrame_eq (incremental ofIo)
    (show (framing ofIo).conclude stream.inbound.verge
      ((framing ofIo).cutBytes state (wire.ahead stream)) = (.waiting, state', rest) by
        rw [cut, behind]
        rfl)
  exact ⟨state', wire', stream', read, valid', octets', advanced⟩

/-- Behind the last frame a reader finds the end of the stream. -/
theorem readFrame_stop {state : State} {wire : Wire} {stream : Stream}
    (octets : head state ++ wire.ahead stream = []) (behind : stream.inbound.verge = .stop) :
    ∃ wire' stream', wire.readFrame (framing ofIo) state stream =
        (.done none, state, wire', stream') ∧ wire'.ahead stream' = [] ∧
      wire.Advanced stream wire' stream' := by
  obtain ⟨nothing_taken, nothing_ahead⟩ := List.append_eq_nil_iff.1 octets
  obtain rfl := eq_none_of_head nothing_taken
  refine Wire.readFrame_eq (incremental ofIo) ?_
  rw [nothing_ahead, behind]
  rfl

/-- At the end of the stream there is no frame with octets in it. -/
theorem eq_nil_of_cutLast {state state' : State} {frame : Bytes} {buffer : Buffer}
    (h : (framing ofIo).cutLast state .empty = (.ok (some frame), state', buffer)) :
    frame = [] := by
  cases state with
  | none =>
    have nothing : (framing ofIo).cutLast none .empty = (.ok none, none, .empty) := rfl
    rw [nothing] at h
    simp at h
  | some n =>
    cases n with
    | zero =>
      have empty : (framing ofIo).cutLast (some 0) .empty =
          (.ok (some []), none, Buffer.empty.drop 0) := rfl
      rw [empty] at h
      simpa using (Prod.mk.inj h).1.symm
    | succ n =>
      have nothing : (framing ofIo).cutLast (some (n + 1)) .empty =
          (.ok none, some (n + 1), .empty) := rfl
      rw [nothing] at h
      simp at h

/-- A frame that is read is acceptable, and whoever waits for one remembers an acceptable length. -/
theorem acceptable_readFrame {state state' : State} {wire wire' : Wire} {stream stream' : Stream}
    {outcome : Outcome ε (Option Bytes)} (valid : Valid state)
    (read : wire.readFrame (framing ofIo) state stream = (outcome, state', wire', stream')) :
    (∀ frame, outcome = .done (some frame) → frame.length ≤ maxSize) ∧
      (outcome = .waiting → Valid state') := by
  have view := (Wire.readView_readFrame (incremental ofIo) state wire stream).1
  have whole := cutBytes_none_head ofIo valid (wire.ahead stream)
  rcases cut : (framing ofIo).cutBytes state (wire.ahead stream) with ⟨result, state'', rest⟩
  rw [cut] at whole
  rw [read, cut] at view
  simp only [Wire.readView] at view
  rcases result with e | _ | frame
  · simp_all [Framing.conclude]
  · obtain ⟨valid', -⟩ := head_append_of_cutBytes ofIo whole
    cases verge : stream.inbound.verge with
    | data bytes => exact absurd verge (stream.inbound.verge_ne_data bytes)
    | wait => simp_all [Framing.conclude]
    | failed e => simp_all [Framing.conclude]
    | stop =>
      -- The rest is empty or in the way of a frame.
      rcases last : (framing ofIo).cutLast state'' .empty with ⟨result, state''', buffer⟩
      rw [verge] at view
      simp only [Framing.conclude, last, Framing.view] at view
      split at view
      · obtain ⟨rfl, -⟩ := Prod.mk.inj view
        refine ⟨fun frame done => ?_, fun waits => ?_⟩
        · cases result with
          | error e => simp [Outcome.ofExcept] at done
          | ok found =>
            obtain rfl : found = some frame := by simpa [Outcome.ofExcept] using done
            rw [eq_nil_of_cutLast ofIo last]
            exact Nat.zero_le _
        · cases result <;> simp [Outcome.ofExcept] at waits
      · simp_all
  · obtain ⟨-, -, acceptable⟩ := eq_encode_of_cutBytes ofIo whole
    simp_all [Framing.conclude]

end PeerLink.LengthPrefixed
