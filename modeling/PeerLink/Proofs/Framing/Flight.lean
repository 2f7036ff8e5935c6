import PeerLink.Proofs.Framing.LengthPrefixed
import PeerLink.Proofs.Stream.Writing

/-!
# Messages in flight

While two sides take turns, what is in flight from one to the other is a message, a part of which
the receiver may have taken already. `Wire.Awaits` says where its octets are. A receiver either gets
the whole message, and then nothing is in flight any more, or it waits and nothing is lost;
`LengthPrefixed.readFrame_flight` and `Wire.readExactly_flight` say so for the two ways to receive
one, and `Wire.Awaits.gained` is the sender's part.
-/

namespace PeerLink

namespace Wire

/-- `flight` is in flight to the reader of a pipe: it has taken the first octets of it and read more
ahead, and the rest is queued. The reader has nothing to write. If the network is `free` it holds
nothing back. -/
structure Awaits (free : Bool) (taken : Bytes) (wire : Wire) (pipe : Pipe) (flight : Bytes) :
    Prop where
  /-- There is nothing to write. -/
  unwritten : wire.unwritten = .empty
  /-- The octets that are taken, read ahead and queued. -/
  octets : taken ++ wire.readAhead.toBytes ++ pipe.queue.toBytes = flight
  /-- The pipe delivers what is written. -/
  opened : pipe.Open
  /-- A free network holds nothing back. -/
  ungated : free = true → pipe.gate = none

variable {free : Bool} {taken flight : Bytes} {wire wire' : Wire} {stream stream' : Stream}

/-- What can be read of a message in flight, and what the network holds back of it. -/
theorem Awaits.ahead_append_late (h : Awaits free taken wire stream.inbound flight) :
    taken ++ wire.ahead stream ++ stream.inbound.late = flight := by
  rw [List.append_assoc, Wire.ahead_append_late, ← List.append_assoc, h.octets]

/-- A free network does not hold anything of a message back. -/
theorem Awaits.late_of_free (h : Awaits free taken wire stream.inbound flight)
    (is_free : free = true) : stream.inbound.late = [] :=
  Pipe.late_of_gate_eq_none (h.ungated is_free)

/-- What is still in flight after a read. -/
theorem Awaits.advanced (h : Awaits free taken wire stream.inbound flight)
    (advanced : Advanced wire stream wire' stream') {taken' flight' : Bytes}
    (octets : taken' ++ wire'.ahead stream' ++ stream.inbound.late = flight') :
    Awaits free taken' wire' stream'.inbound flight' where
  unwritten := advanced.unwritten.trans h.unwritten
  octets := by
    rw [List.append_assoc, ← Wire.ahead_append_late, advanced.late, ← List.append_assoc, octets]
  opened := by
    obtain ⟨n, read⟩ := advanced.stream
    exact h.opened.advanced read.inbound
  ungated is_free := advanced.gate_eq_none (h.ungated is_free)

/-- What is written to the pipe follows what is in flight already. -/
theorem Awaits.gained {pipe pipe' : Pipe} (h : Awaits free taken wire pipe flight) {bytes : Bytes}
    (gained : pipe.Gained bytes pipe') : Awaits free taken wire pipe' (flight ++ bytes) where
  unwritten := h.unwritten
  octets := by rw [gained.queue, ← List.append_assoc, h.octets]
  opened := gained.opened
  ungated is_free := gained.gate.trans (h.ungated is_free)

/-- The network may hold octets back, or let all of them through. -/
theorem Awaits.gated {pipe : Pipe} (h : Awaits free taken wire pipe flight) {gate : Option Nat}
    {free' : Bool} (ungated : free' = true → gate = none) :
    Awaits free' taken wire { pipe with gate } flight :=
  ⟨h.unwritten, h.octets, h.opened.gated gate, ungated⟩

/-- A message of a fixed size is received as a whole, or its receiver waits for the rest of it. -/
theorem readExactly_flight {n : Nat} {received : Buffer} {message missing : Bytes}
    (h : Awaits free received.toBytes wire stream.inbound flight) (length : message.length = n)
    (part : flight ++ missing = message) :
    (missing = [] ∧ ∃ received' wire' stream',
      wire.readExactly n received stream = (.done message, received', wire', stream') ∧
        Awaits free [] wire' stream'.inbound [] ∧ stream'.outbound = stream.outbound) ∨
    ((free = true → missing ≠ []) ∧ ∃ received' wire' stream',
      wire.readExactly n received stream = (.waiting, received', wire', stream') ∧
        Awaits free received'.toBytes wire' stream'.inbound flight ∧
        stream'.outbound = stream.outbound) := by
  have octets := h.ahead_append_late
  have size := received.size_eq_length
  have sizes := congrArg List.length part
  rw [← octets] at sizes
  simp only [List.length_append] at sizes
  by_cases whole : stream.inbound.late ++ missing = []
  · -- Every octet of the message is there.
    obtain ⟨nothing_late, rfl⟩ := List.append_eq_nil_iff.1 whole
    rw [nothing_late, List.append_nil] at octets
    rw [List.append_nil] at part
    rw [nothing_late] at sizes
    simp only [List.length_nil] at sizes
    have enough : received.size ≤ n ∧ n ≤ received.size + (wire.ahead stream).length := by omega
    obtain ⟨received', wire', stream', read, left, advanced⟩ := readExactly_done enough.1 enough.2
    rw [octets, part, List.take_of_length_le (Nat.le_of_eq length)] at read
    rw [octets, part, List.drop_of_length_le (Nat.le_of_eq length)] at left
    refine .inl ⟨rfl, received', wire', stream', read, h.advanced advanced ?_, advanced.outbound⟩
    rw [left, nothing_late]
    rfl
  · have short : received.size + (wire.ahead stream).length < n := by
      have some_missing := List.length_pos_iff.2 whole
      rw [List.length_append] at some_missing
      omega
    obtain ⟨received', wire', stream', read, received_eq, left, advanced⟩ := readExactly_short short
    rw [h.opened.verge] at read
    refine .inr ⟨?_, received', wire', stream', read, h.advanced advanced ?_, advanced.outbound⟩
    · intro is_free nothing_missing
      exact whole (by rw [h.late_of_free is_free, nothing_missing]; rfl)
    · rw [left, received_eq, List.append_nil, octets]

end Wire

/-- A frame is received as a whole, or its receiver waits for the rest of it. -/
theorem LengthPrefixed.readFrame_flight {ε : Type} (ofIo : IoError → ε) {free : Bool}
    {state : State} {wire : Wire} {stream : Stream} {flight frame missing : Bytes}
    (h : wire.Awaits free (head state) stream.inbound flight) (valid : Valid state)
    (acceptable : frame.length ≤ maxSize) (part : flight ++ missing = encode frame) :
    (missing = [] ∧ ∃ wire' stream',
      wire.readFrame (framing ofIo) state stream = (.done (some frame), none, wire', stream') ∧
        wire'.Awaits free [] stream'.inbound [] ∧ stream'.outbound = stream.outbound) ∨
    ((free = true → missing ≠ []) ∧ ∃ state' wire' stream',
      wire.readFrame (framing ofIo) state stream = (.waiting, state', wire', stream') ∧
        Valid state' ∧ wire'.Awaits free (head state') stream'.inbound flight ∧
        stream'.outbound = stream.outbound) := by
  have octets := h.ahead_append_late
  by_cases whole : stream.inbound.late ++ missing = []
  · -- Every octet of the frame is there.
    obtain ⟨nothing_late, rfl⟩ := List.append_eq_nil_iff.1 whole
    rw [nothing_late, List.append_nil] at octets
    rw [List.append_nil, ← octets, ← List.append_nil (encode frame)] at part
    obtain ⟨wire', stream', read, left, advanced⟩ := readFrame_whole ofIo valid acceptable part
    refine .inl ⟨rfl, wire', stream', read, h.advanced advanced ?_, advanced.outbound⟩
    rw [left, nothing_late]
    rfl
  · have missing_eq : head state ++ wire.ahead stream ++ (stream.inbound.late ++ missing) =
        encode frame := by
      rw [← List.append_assoc, octets, part]
    obtain ⟨state', wire', stream', read, valid', left, advanced⟩ :=
      readFrame_part ofIo valid acceptable missing_eq whole h.opened.verge
    refine .inr ⟨?_, state', wire', stream', read, valid', h.advanced advanced ?_,
      advanced.outbound⟩
    · intro is_free nothing_missing
      exact whole (by rw [h.late_of_free is_free, nothing_missing]; rfl)
    · rw [left, octets]

end PeerLink
