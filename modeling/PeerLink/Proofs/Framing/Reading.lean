import PeerLink.Framing.Basic
import PeerLink.Proofs.Stream.Reading

/-!
# Reading frames, however the octets arrive

A framing is *incremental* if it makes the same of octets that come in pieces as of all of them at
once: what it has cut does not change when more octets follow, and a cut that had to stop goes on
from where it stopped. `Wire.readFrame_eq` shows for such a framing that reading a frame is one cut
of everything that has arrived, whatever the pace of the stream and whatever was read ahead; only
when the cut wants more octets does it matter what is behind them.
-/

namespace PeerLink

namespace Framing

variable {σ ε : Type}

/-- What a cut leaves, with the octets of the buffer as they are. -/
def view (result : Except ε (Option Bytes) × σ × Buffer) : Except ε (Option Bytes) × σ × Bytes :=
  (result.1, result.2.1, result.2.2.toBytes)

/-- The cut of a byte string. -/
def cutBytes (framing : Framing σ ε) (state : σ) (bytes : Bytes) :
    Except ε (Option Bytes) × σ × Bytes :=
  view (framing.cut state (.ofBytes bytes))

/-- A framing that makes the same of octets in pieces as of all of them at once. -/
structure Incremental (framing : Framing σ ε) : Prop where
  /-- A cut depends on the octets of the buffer only. -/
  view_cut : ∀ state buffer,
    view (framing.cut state buffer) = framing.cutBytes state buffer.toBytes
  /-- A frame or a fault stays what it is when more octets follow. -/
  stable : ∀ {state bytes result state' rest},
    framing.cutBytes state bytes = (result, state', rest) → result ≠ .ok none →
      ∀ more, framing.cutBytes state (bytes ++ more) = (result, state', rest ++ more)
  /-- A cut that wants more octets goes on from where it stopped. -/
  resumable : ∀ {state bytes state' rest},
    framing.cutBytes state bytes = (.ok none, state', rest) →
      ∀ more, framing.cutBytes state (bytes ++ more) = framing.cutBytes state' (rest ++ more)

namespace Incremental

variable {framing : Framing σ ε} {state state' : σ} {buffer rest : Buffer}

/-- A complete cut of a buffer is the one of its octets and of more octets behind them. -/
theorem cutBytes_of_complete (h : framing.Incremental) {result : Except ε (Option Bytes)}
    (cut : framing.cut state buffer = (result, state', rest)) (complete : result ≠ .ok none)
    (more : Bytes) :
    framing.cutBytes state (buffer.toBytes ++ more) = (result, state', rest.toBytes ++ more) := by
  have view := h.view_cut state buffer
  rw [cut] at view
  exact h.stable view.symm complete more

/-- A cut of a buffer that wants more octets goes on from where it stopped. -/
theorem cutBytes_of_incomplete (h : framing.Incremental)
    (cut : framing.cut state buffer = (.ok none, state', rest)) (more : Bytes) :
    framing.cutBytes state (buffer.toBytes ++ more) =
      framing.cutBytes state' (rest.toBytes ++ more) := by
  have view := h.view_cut state buffer
  rw [cut] at view
  exact h.resumable view.symm more

/-- Of a part of a frame nothing is cut yet. -/
theorem cutBytes_part (h : framing.Incremental) {bytes missing frame : Bytes}
    (whole : framing.cutBytes state (bytes ++ missing) = (.ok (some frame), state', []))
    (some_missing : missing ≠ []) :
    ∃ state'' rest, framing.cutBytes state bytes = (.ok none, state'', rest) := by
  rcases cut : framing.cutBytes state bytes with ⟨result, state'', rest⟩
  by_cases complete : result = .ok none
  · exact ⟨state'', rest, by rw [complete]⟩
  · -- What is missing would be left behind the frame.
    have stable := h.stable cut complete missing
    rw [whole] at stable
    simp only [Prod.mk.injEq] at stable
    have none_missing := (List.append_eq_nil_iff.1 stable.2.2.symm).2
    exact absurd none_missing some_missing

end Incremental

/-- What reading a frame comes to, from the cut of everything that has arrived and from what is
behind it. -/
def conclude (framing : Framing σ ε) (verge : ReadResult) :
    Except ε (Option Bytes) × σ × Bytes → Outcome ε (Option Bytes) × σ × Bytes
  | (.error e, state, rest) => (.failed e, state, rest)
  | (.ok (some frame), state, rest) => (.done (some frame), state, rest)
  | (.ok none, state, rest) =>
    match verge with
    | .data _ => (.waiting, state, rest)
    | .wait => (.waiting, state, rest)
    | .failed e => (.failed (framing.ofIo e), state, rest)
    | .stop =>
      if rest.isEmpty then
        let (result, state, rest) := view (framing.cutLast state .empty)
        (.ofExcept result, state, rest)
      else
        (.failed (framing.ofIo (.unexpectedEof "stream closed in the middle of a frame")), state,
          rest)

end Framing

namespace Wire

variable {σ ε : Type}

/-- Everything that can be read: the octets read ahead and the ones that have arrived. -/
def ahead (wire : Wire) (stream : Stream) : Bytes :=
  wire.readAhead.toBytes ++ stream.inbound.arrived

/-- Only reading leads from one wire over a stream to another one. -/
structure Advanced (wire : Wire) (stream : Stream) (wire' : Wire) (stream' : Stream) : Prop where
  /-- What is to be written is the same. -/
  unwritten : wire'.unwritten = wire.unwritten
  /-- Octets that have arrived were read. -/
  stream : ∃ n, Stream.Advanced n stream stream'

/-- Reading may read nothing. -/
theorem Advanced.refl (wire : Wire) (stream : Stream) : Advanced wire stream wire stream :=
  ⟨rfl, 0, Stream.Advanced.refl stream⟩

/-- Reading goes on. -/
theorem Advanced.trans {wire wire' wire'' : Wire} {stream stream' stream'' : Stream}
    (h : Advanced wire stream wire' stream') (h' : Advanced wire' stream' wire'' stream'') :
    Advanced wire stream wire'' stream'' := by
  obtain ⟨m, hm⟩ := h.stream
  obtain ⟨n, hn⟩ := h'.stream
  exact ⟨h'.unwritten.trans h.unwritten, m + n, hm.trans hn⟩

/-- Reading does not change what is behind the octets that have arrived. -/
theorem Advanced.verge {wire wire' : Wire} {stream stream' : Stream}
    (h : Advanced wire stream wire' stream') : stream'.inbound.verge = stream.inbound.verge := by
  obtain ⟨n, hn⟩ := h.stream
  exact hn.inbound.verge

/-- Reading writes nothing. -/
theorem Advanced.outbound {wire wire' : Wire} {stream stream' : Stream}
    (h : Advanced wire stream wire' stream') : stream'.outbound = stream.outbound := by
  obtain ⟨n, hn⟩ := h.stream
  exact hn.outbound

/-- What the network holds back stays there. -/
theorem Advanced.late {wire wire' : Wire} {stream stream' : Stream}
    (h : Advanced wire stream wire' stream') : stream'.inbound.late = stream.inbound.late := by
  obtain ⟨n, hn⟩ := h.stream
  exact hn.inbound.late

/-- Without a gate there is none after reading. -/
theorem Advanced.gate_eq_none {wire wire' : Wire} {stream stream' : Stream}
    (h : Advanced wire stream wire' stream') (none_before : stream.inbound.gate = none) :
    stream'.inbound.gate = none := by
  obtain ⟨n, hn⟩ := h.stream
  rw [hn.inbound.gate, none_before]
  rfl

/-- The octets read ahead and the ones that are queued can be read or are held back. -/
theorem ahead_append_late (wire : Wire) (stream : Stream) :
    wire.ahead stream ++ stream.inbound.late =
      wire.readAhead.toBytes ++ stream.inbound.queue.toBytes := by
  rw [ahead, List.append_assoc, Pipe.arrived_append_late]

/-- What reading leaves of the octets of a wire and of its stream are the ones that it does not
take. -/
theorem Advanced.size_add {wire wire' : Wire} {stream stream' : Stream}
    (h : Advanced wire stream wire' stream') :
    wire'.readAhead.size + stream'.available + (wire.ahead stream).length =
      wire.readAhead.size + stream.available + (wire'.ahead stream').length := by
  obtain ⟨n, advanced⟩ := h.stream
  have le := advanced.inbound.le
  have held := Pipe.atMost_le stream.inbound.gate stream.inbound.queue.size
  rw [← Pipe.length_arrived] at held
  have arrived := congrArg List.length advanced.inbound.arrived
  have queue := congrArg List.length advanced.inbound.queue
  simp only [List.length_drop, ← Buffer.size_eq_length] at arrived queue
  simp only [ahead, Stream.available, List.length_append, ← Buffer.size_eq_length, arrived, queue]
  omega

/-- Reading ahead when nothing has arrived. -/
theorem fill_of_not_arrived {wire : Wire} {stream : Stream} (h : stream.inbound.arrived = []) :
    wire.fill stream = (stream.inbound.verge, wire, stream) := by
  rw [fill, Stream.read_of_not_arrived h]
  cases hv : stream.inbound.verge with
  | data bytes =>
    simp only [Pipe.verge] at hv
    split_ifs at hv
  | stop => rfl
  | wait => rfl
  | failed e => rfl

/-- Reading ahead when something has arrived moves octets from the stream to the buffer. -/
theorem fill_of_arrived (wire : Wire) {stream : Stream} (h : stream.inbound.arrived ≠ []) :
    ∃ bytes wire' stream', wire.fill stream = (.data bytes, wire', stream') ∧
      Advanced wire stream wire' stream' ∧
      wire'.readAhead.toBytes = wire.readAhead.toBytes ++ bytes ∧
      stream.inbound.arrived = bytes ++ stream'.inbound.arrived := by
  have asked : 0 < max readChunk wire.readAhead.size := by
    have : readChunk = 8192 := rfl
    omega
  obtain ⟨k, stream', -, -, advanced, read_eq⟩ := Stream.read_of_arrived h asked
  refine ⟨stream.inbound.arrived.take k, { wire with
    readAhead := wire.readAhead.append (stream.inbound.arrived.take k) }, stream', ?_,
    ⟨rfl, k, advanced⟩, Buffer.toBytes_append _ _, ?_⟩
  · rw [fill, read_eq]
  · rw [advanced.inbound.arrived, List.take_append_drop]

/-- When reading ahead gives no octets nothing has arrived, and nothing changes. -/
theorem eq_verge_of_fill {wire wire' : Wire} {stream stream' : Stream} {result : ReadResult}
    (h : wire.fill stream = (result, wire', stream')) (no_data : ∀ bytes, result ≠ .data bytes) :
    stream.inbound.arrived = [] ∧ result = stream.inbound.verge ∧ wire' = wire ∧
      stream' = stream := by
  by_cases arrived : stream.inbound.arrived = []
  · rw [fill_of_not_arrived arrived] at h
    simp only [Prod.mk.injEq] at h
    exact ⟨arrived, h.1.symm, h.2.1.symm, h.2.2.symm⟩
  · obtain ⟨bytes, _, _, fill_eq, -⟩ := fill_of_arrived wire arrived
    rw [fill_eq] at h
    simp only [Prod.mk.injEq] at h
    exact absurd h.1.symm (no_data bytes)

/-- The view of what reading a frame leaves. -/
def readView (result : Outcome ε (Option Bytes) × σ × Wire × Stream) :
    Outcome ε (Option Bytes) × σ × Bytes :=
  (result.1, result.2.1, result.2.2.1.ahead result.2.2.2)

/-- Reading a frame from an incremental framing is one cut of everything that has arrived. -/
theorem readView_readFrame {framing : Framing σ ε} (incremental : framing.Incremental) (state : σ)
    (wire : Wire) (stream : Stream) :
    readView (readFrame framing state wire stream) =
        framing.conclude stream.inbound.verge (framing.cutBytes state (wire.ahead stream)) ∧
      Advanced wire stream (readFrame framing state wire stream).2.2.1
        (readFrame framing state wire stream).2.2.2 := by
  -- A cut that wants more octets is the last one if nothing more has arrived.
  have stopped {state : σ} {wire : Wire} {stream : Stream} {state' : σ} {readAhead : Buffer}
      (cut : framing.cut state wire.readAhead = (.ok none, state', readAhead))
      (arrived : stream.inbound.arrived = []) :
      framing.cutBytes state (wire.ahead stream) = (.ok none, state', readAhead.toBytes) := by
    have view := incremental.view_cut state wire.readAhead
    rw [cut] at view
    rw [ahead, arrived, List.append_nil, ← view]
    rfl
  fun_induction readFrame framing state wire stream with
  | case1 state wire stream e state' readAhead cut =>
    rw [ahead, incremental.cutBytes_of_complete cut (by simp)]
    exact ⟨rfl, rfl, 0, Stream.Advanced.refl stream⟩
  | case2 state wire stream frame state' readAhead cut =>
    rw [ahead, incremental.cutBytes_of_complete cut (by simp)]
    exact ⟨rfl, rfl, 0, Stream.Advanced.refl stream⟩
  | case3 state wire stream state' readAhead cut bytes wire' stream' fill _ ih =>
    -- Octets were read, and the cut goes on with them: this is the induction.
    have arrived : stream.inbound.arrived ≠ [] := by
      intro arrived
      rw [fill_of_not_arrived arrived] at fill
      simp only [Prod.mk.injEq] at fill
      exact stream.inbound.verge_ne_data bytes fill.1
    obtain ⟨_, _, _, fill_eq, advanced, moved, left⟩ :=
      fill_of_arrived { wire with readAhead } arrived
    rw [fill] at fill_eq
    simp only [Prod.mk.injEq, ReadResult.data.injEq] at fill_eq
    obtain ⟨rfl, rfl, rfl⟩ := fill_eq
    have ahead_eq : wire'.ahead stream' = readAhead.toBytes ++ stream.inbound.arrived := by
      rw [ahead, moved, left, List.append_assoc]
    rw [ahead, incremental.cutBytes_of_incomplete cut, ← ahead_eq, ← advanced.verge]
    have advanced : Advanced wire stream wire' stream' := ⟨advanced.unwritten, advanced.stream⟩
    exact ⟨ih.1, advanced.trans ih.2⟩
  | case4 state wire stream state' readAhead cut wire' stream' fill =>
    obtain ⟨arrived, verge, rfl, rfl⟩ := eq_verge_of_fill fill (by simp)
    rw [stopped cut arrived, ← verge]
    refine ⟨?_, rfl, 0, Stream.Advanced.refl stream'⟩
    simp [readView, Framing.conclude, ahead, arrived]
  | case5 state wire stream state' readAhead cut e wire' stream' fill =>
    obtain ⟨arrived, verge, rfl, rfl⟩ := eq_verge_of_fill fill (by simp)
    rw [stopped cut arrived, ← verge]
    refine ⟨?_, rfl, 0, Stream.Advanced.refl stream'⟩
    simp [readView, Framing.conclude, ahead, arrived]
  | case6 state wire stream state' readAhead cut wire' stream' fill empty e state'' last cutLast =>
    obtain ⟨arrived, verge, rfl, rfl⟩ := eq_verge_of_fill fill (by simp)
    rw [stopped cut arrived, ← verge]
    refine ⟨?_, rfl, 0, Stream.Advanced.refl stream'⟩
    obtain rfl := Buffer.eq_empty empty
    simp [readView, Framing.conclude, ahead, arrived, cutLast, Framing.view, Outcome.ofExcept]
  | case7 state wire stream state' readAhead cut wire' stream' fill empty frame state'' last
      cutLast =>
    obtain ⟨arrived, verge, rfl, rfl⟩ := eq_verge_of_fill fill (by simp)
    rw [stopped cut arrived, ← verge]
    refine ⟨?_, rfl, 0, Stream.Advanced.refl stream'⟩
    obtain rfl := Buffer.eq_empty empty
    simp [readView, Framing.conclude, ahead, arrived, cutLast, Framing.view, Outcome.ofExcept]
  | case8 state wire stream state' readAhead cut wire' stream' fill not_empty =>
    obtain ⟨arrived, verge, rfl, rfl⟩ := eq_verge_of_fill fill (by simp)
    rw [stopped cut arrived, ← verge]
    refine ⟨?_, rfl, 0, Stream.Advanced.refl stream'⟩
    have some_left : readAhead.toBytes ≠ [] := fun h => not_empty (Buffer.isEmpty_iff.2 h)
    simp [readView, Framing.conclude, ahead, arrived, some_left]

/-- What reading a frame comes to, as the cut of everything that has arrived gives it. -/
theorem readFrame_eq {framing : Framing σ ε} (incremental : framing.Incremental) {state : σ}
    {wire : Wire} {stream : Stream} {outcome : Outcome ε (Option Bytes)} {state' : σ} {rest : Bytes}
    (h : framing.conclude stream.inbound.verge (framing.cutBytes state (wire.ahead stream)) =
      (outcome, state', rest)) :
    ∃ wire' stream', readFrame framing state wire stream = (outcome, state', wire', stream') ∧
      wire'.ahead stream' = rest ∧ Advanced wire stream wire' stream' := by
  obtain ⟨view, advanced⟩ := readView_readFrame incremental state wire stream
  rw [h] at view
  simp only [readView, Prod.mk.injEq] at view
  obtain ⟨outcome_eq, state_eq, rest_eq⟩ := view
  refine ⟨_, _, ?_, rest_eq, advanced⟩
  rw [← outcome_eq, ← state_eq]

/-- A frame that is cut from the octets that have arrived is read, and no octet more. -/
theorem readFrame_of_cutBytes {framing : Framing σ ε} (incremental : framing.Incremental)
    {state state' : σ} {wire : Wire} {stream : Stream} {frame rest : Bytes}
    (cut : framing.cutBytes state (wire.ahead stream) = (.ok (some frame), state', rest)) :
    ∃ wire' stream', readFrame framing state wire stream =
        (.done (some frame), state', wire', stream') ∧
      wire'.ahead stream' = rest ∧ Advanced wire stream wire' stream' :=
  readFrame_eq incremental (by rw [cut, Framing.conclude])

/-- A frame that is read is cut from the octets that have arrived, and no octet more, unless it is
one that is cut at the end of the stream only. -/
theorem cutBytes_of_readFrame {framing : Framing σ ε} (incremental : framing.Incremental)
    {state state' : σ} {wire wire' : Wire} {stream stream' : Stream} {frame : Bytes}
    (not_last : ∀ state, (framing.cut state .empty).1 = .ok none →
      (framing.cutLast state .empty).1 ≠ .ok (some frame))
    (read : readFrame framing state wire stream = (.done (some frame), state', wire', stream')) :
    framing.cutBytes state (wire.ahead stream) =
      (.ok (some frame), state', wire'.ahead stream') := by
  obtain ⟨view, -⟩ := readView_readFrame incremental state wire stream
  rw [read] at view
  rcases cut : framing.cutBytes state (wire.ahead stream) with ⟨_ | _ | found, state'', rest⟩
  · simp [cut, readView, Framing.conclude] at view
  · -- Only at the end of the stream is anything read then, and only if nothing is left.
    rw [cut] at view
    cases verge : stream.inbound.verge with
    | stop =>
      rw [verge] at view
      cases rest with
      | cons octet rest => simp [readView, Framing.conclude] at view
      | nil =>
        have again := incremental.resumable cut []
        rw [List.append_nil, cut, List.append_nil, ← Buffer.toBytes_empty,
          ← incremental.view_cut] at again
        have nothing : (framing.cut state'' .empty).1 = .ok none := (congrArg (·.1) again).symm
        rcases last : framing.cutLast state'' .empty with ⟨_ | _ | found, state''', buffer⟩
        all_goals
          simp only [readView, Framing.conclude, last, Framing.view, List.isEmpty_nil,
            if_true] at view
          simp [Outcome.ofExcept] at view
        obtain ⟨rfl, -⟩ := view
        exact absurd (congrArg (·.1) last) (not_last state'' nothing)
    | _ =>
      rw [verge] at view
      simp [readView, Framing.conclude] at view
  · rw [cut] at view
    simp only [readView, Framing.conclude, Prod.mk.injEq, Outcome.done.injEq,
      Option.some.injEq] at view
    obtain ⟨rfl, rfl, rfl⟩ := view
    rfl

/-! ## Octets -/

/-- Octets that are there are read from the front, at least one of them. -/
theorem readSome_of_ahead {wire : Wire} {stream : Stream} (some_ahead : wire.ahead stream ≠ [])
    {n : Nat} (some_asked : n ≠ 0) :
    ∃ bytes wire' stream', wire.readSome n stream = (.done bytes, wire', stream') ∧ bytes ≠ [] ∧
      bytes.length ≤ n ∧ bytes ++ wire'.ahead stream' = wire.ahead stream ∧
      Advanced wire stream wire' stream' := by
  have positive : 0 < n := Nat.pos_of_ne_zero some_asked
  rw [readSome]
  by_cases empty : wire.readAhead.isEmpty = true
  · -- Nothing was read ahead, so that the octets have arrived.
    have nothing := Buffer.isEmpty_iff.1 empty
    have some_arrived : stream.inbound.arrived ≠ [] := by
      intro none_arrived
      exact some_ahead (by rw [ahead, nothing, none_arrived]; rfl)
    obtain ⟨k, stream', some_read, le, advanced, read⟩ :=
      Stream.read_of_arrived some_arrived positive
    have le_arrived := advanced.inbound.le
    refine ⟨stream.inbound.arrived.take k, wire, stream', ?_, ?_, ?_, ?_, rfl, k, advanced⟩
    · rw [if_pos empty, read]
    · rw [Ne, List.take_eq_nil_iff]
      simp only [some_arrived, or_false]
      omega
    · rw [List.length_take]
      omega
    · rw [ahead, ahead, nothing, List.nil_append, List.nil_append, advanced.inbound.arrived,
        List.take_append_drop]
  · have some_read_ahead : wire.readAhead.toBytes ≠ [] := fun h => empty (Buffer.isEmpty_iff.2 h)
    refine ⟨wire.readAhead.toBytes.take n, { wire with readAhead := wire.readAhead.drop n },
      stream, ?_, ?_, ?_, ?_, rfl, 0, Stream.Advanced.refl stream⟩
    · rw [if_neg empty, Buffer.take_eq]
    · rw [Ne, List.take_eq_nil_iff]
      simp only [some_read_ahead, or_false]
      exact some_asked
    · rw [List.length_take]
      exact Nat.min_le_left _ _
    · rw [ahead, ahead, Buffer.toBytes_drop, ← List.append_assoc, List.take_append_drop]

/-- What reading octets comes to when there are none, from what is behind. -/
def nothingRead : ReadResult → Outcome IoError Bytes
  | .data bytes => .done bytes
  | .stop => .done []
  | .wait => .waiting
  | .failed e => .failed e

/-- A reader of octets finds what is behind when there are none. -/
theorem readSome_of_nothing {wire : Wire} {stream : Stream} (nothing : wire.ahead stream = [])
    (n : Nat) :
    wire.readSome n stream = (nothingRead stream.inbound.verge, wire, stream) := by
  obtain ⟨none_ahead, none_arrived⟩ := List.append_eq_nil_iff.1 nothing
  rw [readSome, if_pos (Buffer.isEmpty_iff.2 none_ahead), Stream.read_of_not_arrived none_arrived]
  cases stream.inbound.verge <;> rfl

/-! ## Messages of a fixed size -/

/-- What receiving a message comes to when it is not complete, from what is behind the octets. -/
def unfinished : ReadResult → Outcome IoError Bytes
  | .data _ => .waiting
  | .wait => .waiting
  | .failed e => .failed e
  | .stop => .failed (.unexpectedEof "early eof")

/-- A buffer grows by the octets that are appended. -/
theorem size_append_take (buffer : Buffer) {bytes : Bytes} {k : Nat} (h : k ≤ bytes.length) :
    (buffer.append (bytes.take k)).size = buffer.size + k := by
  rw [Buffer.size_eq_length, Buffer.toBytes_append, List.length_append, List.length_take,
    ← Buffer.size_eq_length]
  omega

/-- A message is received from the stream once enough octets have arrived, and no octet more. -/
theorem fromStream_done {n : Nat} {received : Buffer} (wire : Wire) {stream : Stream}
    (size : received.size ≤ n) (enough : n ≤ received.size + stream.inbound.arrived.length) :
    ∃ received' stream', readExactly.fromStream n received wire stream =
        (.done (received.toBytes ++ stream.inbound.arrived.take (n - received.size)), received',
          wire, stream') ∧
      Stream.Advanced (n - received.size) stream stream' := by
  have fewer {received : Buffer} (missing : ¬ n ≤ received.size) : 0 < n - received.size := by
    omega
  have arrived {received : Buffer} {stream : Stream} (missing : ¬ n ≤ received.size)
      (enough : n ≤ received.size + stream.inbound.arrived.length) :
      stream.inbound.arrived ≠ [] := by
    intro nothing
    rw [nothing, List.length_nil] at enough
    omega
  fun_induction readExactly.fromStream n received wire stream with
  | case1 received stream complete =>
    have none_missing : n - received.size = 0 := by omega
    have whole : received.toBytes.take n = received.toBytes := by
      rw [List.take_of_length_le]
      rw [← Buffer.size_eq_length]
      exact size
    rw [Buffer.take_eq, whole, none_missing, List.take_zero, List.append_nil]
    exact ⟨received, stream, rfl, Stream.Advanced.refl stream⟩
  -- A read gives some of the missing octets, and the rest of them are received behind it.
  | case2 received stream missing bytes stream' read _ ih =>
    obtain ⟨k, positive, le, advanced, rfl⟩ := Stream.eq_of_read_data (fewer missing) read
    have le_arrived := advanced.inbound.le
    have grown := size_append_take received le_arrived
    have left := advanced.inbound.arrived
    rw [grown, left, Buffer.toBytes_append, List.length_drop] at ih
    obtain ⟨received', stream'', more, advanced'⟩ := ih (by omega) (by omega)
    refine ⟨received', stream'', ?_, ?_⟩
    · have split : n - received.size = k + (n - (received.size + k)) := by omega
      rw [more, split, List.take_add, List.append_assoc]
    · have sum := advanced.trans advanced'
      have split : k + (n - (received.size + k)) = n - received.size := by omega
      rw [split] at sum
      exact sum
  | case3 received stream missing stream' read =>
    obtain ⟨nothing, -, -⟩ := Stream.eq_verge_of_read (fewer missing) read (by simp)
    exact absurd nothing (arrived missing enough)
  | case4 received stream missing e stream' read =>
    obtain ⟨nothing, -, -⟩ := Stream.eq_verge_of_read (fewer missing) read (by simp)
    exact absurd nothing (arrived missing enough)
  | case5 received stream missing stream' read =>
    obtain ⟨nothing, -, -⟩ := Stream.eq_verge_of_read (fewer missing) read (by simp)
    exact absurd nothing (arrived missing enough)

/-- Everything that has arrived is received when it is not enough. -/
theorem fromStream_short {n : Nat} {received : Buffer} (wire : Wire) {stream : Stream}
    (short : received.size + stream.inbound.arrived.length < n) :
    ∃ received' stream', readExactly.fromStream n received wire stream =
        (unfinished stream.inbound.verge, received', wire, stream') ∧
      received'.toBytes = received.toBytes ++ stream.inbound.arrived ∧
      Stream.Advanced stream.inbound.arrived.length stream stream' := by
  have fewer {received : Buffer} (missing : ¬ n ≤ received.size) : 0 < n - received.size := by
    omega
  fun_induction readExactly.fromStream n received wire stream with
  | case1 received stream complete => omega
  | case2 received stream missing bytes stream' read _ ih =>
    -- What a read takes from the front is received, and still not enough.
    obtain ⟨k, positive, le, advanced, rfl⟩ := Stream.eq_of_read_data (fewer missing) read
    have le_arrived := advanced.inbound.le
    have grown := size_append_take received le_arrived
    have left := advanced.inbound.arrived
    rw [grown, left, Buffer.toBytes_append, List.length_drop, advanced.inbound.verge] at ih
    obtain ⟨received', stream'', more, received_eq, advanced'⟩ := ih (by omega)
    refine ⟨received', stream'', more, ?_, ?_⟩
    · rw [received_eq, List.append_assoc, List.take_append_drop]
    · have sum := advanced.trans advanced'
      have split : k + (stream.inbound.arrived.length - k) = stream.inbound.arrived.length := by
        omega
      rw [split] at sum
      exact sum
  | case3 received stream missing stream' read =>
    obtain ⟨nothing, verge, rfl⟩ := Stream.eq_verge_of_read (fewer missing) read (by simp)
    rw [← verge, nothing, List.append_nil, List.length_nil]
    exact ⟨received, stream', rfl, rfl, Stream.Advanced.refl stream'⟩
  | case4 received stream missing e stream' read =>
    obtain ⟨nothing, verge, rfl⟩ := Stream.eq_verge_of_read (fewer missing) read (by simp)
    rw [← verge, nothing, List.append_nil, List.length_nil]
    exact ⟨received, stream', rfl, rfl, Stream.Advanced.refl stream'⟩
  | case5 received stream missing stream' read =>
    obtain ⟨nothing, verge, rfl⟩ := Stream.eq_verge_of_read (fewer missing) read (by simp)
    rw [← verge, nothing, List.append_nil, List.length_nil]
    exact ⟨received, stream', rfl, rfl, Stream.Advanced.refl stream'⟩

/-- Octets that were read ahead are received first. -/
theorem readExactly_eq (n : Nat) (received : Buffer) (wire : Wire) (stream : Stream) :
    ∃ received' : Buffer, ∃ wire' : Wire,
      readExactly n received wire stream = readExactly.fromStream n received' wire' stream ∧
      received'.toBytes = received.toBytes ++ wire.readAhead.toBytes.take (n - received.size) ∧
      wire'.readAhead.toBytes = wire.readAhead.toBytes.drop (n - received.size) ∧
      wire'.unwritten = wire.unwritten := by
  refine ⟨received.append (wire.readAhead.take (n - received.size)),
    { wire with readAhead := wire.readAhead.drop (wire.readAhead.take (n - received.size)).length },
    rfl, ?_, ?_, rfl⟩
  · rw [Buffer.toBytes_append, Buffer.take_eq]
  · rw [Buffer.toBytes_drop, Buffer.take_eq, List.length_take]
    rcases Nat.le_total (n - received.size) wire.readAhead.toBytes.length with le | le
    · rw [Nat.min_eq_left le]
    · rw [Nat.min_eq_right le, List.drop_length, List.drop_of_length_le le]

/-- A message is received once enough octets are there, and no octet more. -/
theorem readExactly_done {n : Nat} {received : Buffer} {wire : Wire} {stream : Stream}
    (size : received.size ≤ n) (enough : n ≤ received.size + (wire.ahead stream).length) :
    ∃ received' wire' stream', readExactly n received wire stream =
        (.done ((received.toBytes ++ wire.ahead stream).take n), received', wire', stream') ∧
      wire'.ahead stream' = (received.toBytes ++ wire.ahead stream).drop n ∧
      Advanced wire stream wire' stream' := by
  obtain ⟨received', wire', first, received_eq, left, unwritten⟩ :=
    readExactly_eq n received wire stream
  have length := received.size_eq_length
  have size' : received'.size =
      received.size + min (n - received.size) wire.readAhead.toBytes.length := by
    rw [Buffer.size_eq_length, received_eq, List.length_append, List.length_take, ← length]
  rw [ahead, List.length_append] at enough
  -- What was read ahead is received first, and the rest comes from the stream.
  obtain ⟨received'', stream', read, advanced⟩ := fromStream_done wire'
    (show received'.size ≤ n by omega)
    (show n ≤ received'.size + stream.inbound.arrived.length by omega)
  have missing : n - received'.size = n - received.size - wire.readAhead.toBytes.length := by omega
  refine ⟨received'', wire', stream', ?_, ?_, unwritten, _, advanced⟩
  · rw [first, read, received_eq, missing, ahead, List.take_append, List.take_append, ← length,
      List.take_of_length_le (show received.toBytes.length ≤ n by omega), List.append_assoc]
  · rw [ahead, ahead, left, advanced.inbound.arrived, missing, List.drop_append, List.drop_append,
      ← length, List.drop_of_length_le (show received.toBytes.length ≤ n by omega), List.nil_append]

/-- Everything that is there is received when it is not enough. -/
theorem readExactly_short {n : Nat} {received : Buffer} {wire : Wire} {stream : Stream}
    (short : received.size + (wire.ahead stream).length < n) :
    ∃ received' wire' stream', readExactly n received wire stream =
        (unfinished stream.inbound.verge, received', wire', stream') ∧
      received'.toBytes = received.toBytes ++ wire.ahead stream ∧ wire'.ahead stream' = [] ∧
      Advanced wire stream wire' stream' := by
  obtain ⟨received', wire', first, received_eq, left, unwritten⟩ :=
    readExactly_eq n received wire stream
  have length := received.size_eq_length
  rw [ahead, List.length_append] at short
  rw [List.take_of_length_le (by omega)] at received_eq
  rw [List.drop_of_length_le (by omega)] at left
  have size' : received'.size = received.size + wire.readAhead.toBytes.length := by
    rw [Buffer.size_eq_length, received_eq, List.length_append, ← length]
  obtain ⟨received'', stream', read, received_eq', advanced⟩ := fromStream_short wire'
    (show received'.size + stream.inbound.arrived.length < n by omega)
  refine ⟨received'', wire', stream', first.trans read, ?_, ?_, unwritten, _, advanced⟩
  · rw [received_eq', received_eq, ahead, List.append_assoc]
  · rw [ahead, left, advanced.inbound.arrived, List.drop_length, List.append_nil]

end Wire

end PeerLink
