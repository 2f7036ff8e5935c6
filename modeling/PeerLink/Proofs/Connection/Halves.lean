import PeerLink.Proofs.Connection.Calls
import PeerLink.Proofs.Stream.Writing

/-!
# The two halves of a connection

A connection reads with what it has read ahead and unsealed, and writes with what is unwritten and
pending; the two have nothing but the wire in common. `Connection.ReadsAlike` and
`Connection.WritesAlike` compare two connections in one of the halves. A call of a reader comes to
the same on connections that read alike and leaves the other half as it is, and so does a call of a
writer.
-/

namespace PeerLink

/-- A read has no part in what the writer knows of a pipe. -/
theorem Pipe.intake_read (n : Nat) (pipe : Pipe) : (pipe.read n).2.intake = pipe.intake := by
  unfold read
  dsimp only
  split_ifs <;> rfl

namespace Wire

/-- What is to be written and what the other end reads have no part in reading ahead. -/
theorem fill_with (wire : Wire) (stream : Stream) (unwritten : Buffer) (outbound : Pipe) :
    fill { wire with unwritten } { stream with outbound } =
      ((fill wire stream).1, { (fill wire stream).2.1 with unwritten },
        { (fill wire stream).2.2 with outbound }) := by
  unfold fill Stream.read
  dsimp only
  rcases stream.inbound.read (max readChunk wire.readAhead.size) with ⟨_ | _ | _ | _, _⟩ <;> rfl

/-- What reading a frame comes to when a cut wants more octets and no more are there. -/
def stopped {σ ε : Type} (framing : Framing σ ε) (state : σ) (wire : Wire) (stream : Stream) :
    ReadResult → Outcome ε (Option Bytes) × σ × Wire × Stream
  | .data _ => readFrame framing state wire stream
  | .wait => (.waiting, state, wire, stream)
  | .failed e => (.failed (framing.ofIo e), state, wire, stream)
  | .stop =>
    if wire.readAhead.isEmpty then
      match framing.cutLast state wire.readAhead with
      | (.error e, state, readAhead) => (.failed e, state, { wire with readAhead }, stream)
      | (.ok frame, state, readAhead) => (.done frame, state, { wire with readAhead }, stream)
    else
      (.failed (framing.ofIo (.unexpectedEof "stream closed in the middle of a frame")), state,
        wire, stream)

/-- A cut that wants more octets is followed by what filling comes to. -/
theorem readFrame_of_fill {σ ε : Type} {framing : Framing σ ε} {state state' : σ}
    {wire wire' : Wire} {stream stream' : Stream} {readAhead : Buffer} {result : ReadResult}
    (cut : framing.cut state wire.readAhead = (.ok none, state', readAhead))
    (fill : fill { wire with readAhead } stream = (result, wire', stream')) :
    readFrame framing state wire stream = stopped framing state' wire' stream' result := by
  rw [readFrame]
  simp only [cut]
  split
  all_goals
    rename_i h
    obtain ⟨rfl, rfl, rfl⟩ := by simpa using h.symm.trans fill
    rfl

/-- What is to be written and what the other end reads have no part in reading a frame. -/
theorem readFrame_with {σ ε : Type} (framing : Framing σ ε) (state : σ) (wire : Wire)
    (stream : Stream) (unwritten : Buffer) (outbound : Pipe) :
    readFrame framing state { wire with unwritten } { stream with outbound } =
      ((readFrame framing state wire stream).1, (readFrame framing state wire stream).2.1,
        { (readFrame framing state wire stream).2.2.1 with unwritten },
        { (readFrame framing state wire stream).2.2.2 with outbound }) := by
  -- Both fill in the same way, and the induction goes on where octets are read.
  have filled {state state' : σ} {wire wire' : Wire} {stream stream' : Stream}
      {readAhead : Buffer} {result : ReadResult}
      (cut : framing.cut state wire.readAhead = (.ok none, state', readAhead))
      (fill : fill { wire with readAhead } stream = (result, wire', stream')) :
      readFrame framing state { wire with unwritten } { stream with outbound } =
        stopped framing state' { wire' with unwritten } { stream' with outbound } result := by
    refine readFrame_of_fill cut ((fill_with { wire with readAhead } stream _ _).trans ?_)
    rw [fill]
  fun_induction readFrame framing state wire stream with
  | case1 state wire stream e state' readAhead cut =>
    rw [readFrame]
    simp only [cut]
  | case2 state wire stream frame state' readAhead cut =>
    rw [readFrame]
    simp only [cut]
  | case3 state wire stream state' readAhead cut bytes wire' stream' fill _ ih =>
    rw [filled cut fill]
    exact ih
  | case4 state wire stream state' readAhead cut wire' stream' fill =>
    rw [filled cut fill]
    rfl
  | case5 state wire stream state' readAhead cut e wire' stream' fill =>
    rw [filled cut fill]
    rfl
  | case6 state wire stream state' readAhead cut wire' stream' fill empty e state'' last cutLast =>
    rw [filled cut fill]
    simp only [stopped, if_pos empty, cutLast]
  | case7 state wire stream state' readAhead cut wire' stream' fill empty frame state'' last
      cutLast =>
    rw [filled cut fill]
    simp only [stopped, if_pos empty, cutLast]
  | case8 state wire stream state' readAhead cut wire' stream' fill not_empty =>
    rw [filled cut fill]
    simp only [stopped, if_neg not_empty]

/-- Reading a frame writes nothing. -/
theorem readFrame_keeps {σ ε : Type} {framing : Framing σ ε} {state state' : σ}
    {wire wire' : Wire} {stream stream' : Stream} {outcome : Outcome ε (Option Bytes)}
    (read : readFrame framing state wire stream = (outcome, state', wire', stream')) :
    wire'.unwritten = wire.unwritten ∧ stream'.outbound = stream.outbound := by
  have same := readFrame_with framing state wire stream wire.unwritten stream.outbound
  rw [read] at same
  have same_wire := congrArg (·.2.2.1.unwritten) same
  have same_stream := congrArg (·.2.2.2.outbound) same
  exact ⟨same_wire, same_stream⟩

/-- Reading a frame has no part in what the other end knows of its pipe. -/
theorem intake_readFrame {σ ε : Type} (framing : Framing σ ε) (state : σ) (wire : Wire)
    (stream : Stream) : (readFrame framing state wire stream).2.2.2.inbound.intake =
      stream.inbound.intake := by
  have filled {wire wire' : Wire} {stream stream' : Stream} {result : ReadResult}
      (fill : fill wire stream = (result, wire', stream')) :
      stream'.inbound.intake = stream.inbound.intake := by
    have kept := stream.inbound.intake_read (max readChunk wire.readAhead.size)
    unfold Wire.fill Stream.read at fill
    dsimp only at fill
    rcases read : stream.inbound.read (max readChunk wire.readAhead.size) with ⟨_ | _ | _ | _, _⟩
    all_goals
      rw [read] at kept fill
      obtain ⟨-, -, rfl⟩ := fill
      exact kept
  fun_induction readFrame framing state wire stream with
  | case1 => rfl
  | case2 => rfl
  | case3 state wire stream state' readAhead cut bytes wire' stream' fill _ ih =>
    exact ih.trans (filled fill)
  | case4 state wire stream state' readAhead cut wire' stream' fill => exact filled fill
  | case5 state wire stream state' readAhead cut e wire' stream' fill => exact filled fill
  | case6 state wire stream state' readAhead cut wire' stream' fill => exact filled fill
  | case7 state wire stream state' readAhead cut wire' stream' fill => exact filled fill
  | case8 state wire stream state' readAhead cut wire' stream' fill => exact filled fill

/-- Reading octets has no part in what the other end knows of its pipe. -/
theorem intake_readSome (n : Nat) (wire : Wire) (stream : Stream) :
    (readSome n wire stream).2.2.inbound.intake = stream.inbound.intake := by
  have kept := stream.inbound.intake_read n
  unfold readSome Stream.read
  dsimp only
  split
  · rcases read : stream.inbound.read n with ⟨_ | _ | _ | _, _⟩
    all_goals
      rw [read] at kept
      exact kept
  · rfl

/-- What is to be written and what the other end reads have no part in reading octets. -/
theorem readSome_with (n : Nat) (wire : Wire) (stream : Stream) (unwritten : Buffer)
    (outbound : Pipe) :
    readSome n { wire with unwritten } { stream with outbound } =
      ((readSome n wire stream).1, { (readSome n wire stream).2.1 with unwritten },
        { (readSome n wire stream).2.2 with outbound }) := by
  unfold readSome Stream.read
  dsimp only
  split
  · rcases stream.inbound.read n with ⟨_ | _ | _ | _, _⟩ <;> rfl
  · rfl

/-- Reading octets writes nothing. -/
theorem readSome_keeps {n : Nat} {wire wire' : Wire} {stream stream' : Stream}
    {outcome : Outcome IoError Bytes} (read : readSome n wire stream = (outcome, wire', stream')) :
    wire'.unwritten = wire.unwritten ∧ stream'.outbound = stream.outbound := by
  have same := readSome_with n wire stream wire.unwritten stream.outbound
  rw [read] at same
  have same_wire := congrArg (·.2.1.unwritten) same
  have same_stream := congrArg (·.2.2.outbound) same
  exact ⟨same_wire, same_stream⟩

end Wire

/-- What is to be written and sealed has no part in unsealing, nor has the identity of the peer. -/
theorem SecureLayer.unsealSome_with (suite : Suite) (layer : SecureLayer) (wire : Wire)
    (stream : Stream) (sender : Sealing) (pending unwritten : Buffer) (remote : PublicKey)
    (outbound : Pipe) :
    unsealSome suite { layer with sender, pending, remote } { wire with unwritten }
        { stream with outbound } =
      ((unsealSome suite layer wire stream).1,
        { (unsealSome suite layer wire stream).2.1 with sender, pending, remote },
        { (unsealSome suite layer wire stream).2.2.1 with unwritten },
        { (unsealSome suite layer wire stream).2.2.2 with outbound }) := by
  have read {state : SealedFrames.State} {wire wire' : Wire} {stream stream' : Stream}
      {state' : SealedFrames.State} {outcome : Outcome SealedFrames.Error (Option Bytes)}
      (h : wire.readFrame (SealedFrames.framing suite) state stream =
        (outcome, state', wire', stream')) :
      Wire.readFrame (SealedFrames.framing suite) state { wire with unwritten }
        { stream with outbound } =
          (outcome, state', { wire' with unwritten }, { stream' with outbound }) := by
    rw [Wire.readFrame_with, h]
  fun_induction unsealSome suite layer wire stream with
  | case1 layer wire stream nothing e frames wire' stream' h =>
    rw [unsealSome, if_pos nothing, read h]
  | case2 layer wire stream nothing frames wire' stream' h =>
    rw [unsealSome, if_pos nothing, read h]
  | case3 layer wire stream nothing frames wire' stream' h =>
    rw [unsealSome, if_pos nothing, read h]
  | case4 layer wire stream nothing frame frames wire' stream' h layer' less ih =>
    rw [unsealSome, if_pos nothing, read h]
    exact (dif_pos less).trans ih
  | case5 layer wire stream nothing frame frames wire' stream' h layer' less =>
    rw [unsealSome, if_pos nothing, read h]
    exact dif_neg less
  | case6 layer wire stream something =>
    rw [unsealSome, if_neg something]

/-- Unsealing writes nothing, and only the reading half of the layer changes. -/
theorem SecureLayer.unsealSome_keeps {suite : Suite} {layer layer' : SecureLayer}
    {wire wire' : Wire} {stream stream' : Stream} {outcome : Outcome ConnectionError Bool}
    (unsealed : unsealSome suite layer wire stream = (outcome, layer', wire', stream')) :
    layer' = { layer with frames := layer'.frames, unsealed := layer'.unsealed } ∧
      wire'.unwritten = wire.unwritten ∧ stream'.outbound = stream.outbound := by
  have same := unsealSome_with suite layer wire stream layer.sender layer.pending wire.unwritten
    layer.remote stream.outbound
  rw [unsealed] at same
  have same_layer := congrArg (·.2.1) same
  have same_wire := congrArg (·.2.2.1.unwritten) same
  have same_stream := congrArg (·.2.2.2.outbound) same
  exact ⟨same_layer, same_wire, same_stream⟩

/-- Unsealing has no part in what the other end knows of its pipe. -/
theorem SecureLayer.intake_unsealSome (suite : Suite) (layer : SecureLayer) (wire : Wire)
    (stream : Stream) : (unsealSome suite layer wire stream).2.2.2.inbound.intake =
      stream.inbound.intake := by
  have kept {wire wire' : Wire} {stream stream' : Stream} {state state' : SealedFrames.State}
      {outcome : Outcome SealedFrames.Error (Option Bytes)}
      (read : wire.readFrame (SealedFrames.framing suite) state stream =
        (outcome, state', wire', stream')) : stream'.inbound.intake = stream.inbound.intake := by
    have intake := wire.intake_readFrame (SealedFrames.framing suite) state stream
    rw [read] at intake
    exact intake
  fun_induction unsealSome suite layer wire stream with
  | case1 layer wire stream nothing e frames wire' stream' read => exact kept read
  | case2 layer wire stream nothing frames wire' stream' read => exact kept read
  | case3 layer wire stream nothing frames wire' stream' read => exact kept read
  | case4 layer wire stream nothing frame frames wire' stream' read layer' less ih =>
    exact ih.trans (kept read)
  | case5 layer wire stream nothing frame frames wire' stream' read => exact kept read
  | case6 => rfl

/-- What was read ahead and what is read have no part in writing. -/
theorem Wire.flush_with (wire : Wire) (stream : Stream) (readAhead : Buffer) (inbound : Pipe) :
    flush { wire with readAhead } { stream with inbound } =
      ((flush wire stream).1, { (flush wire stream).2.1 with readAhead },
        { (flush wire stream).2.2 with inbound }) := by
  unfold flush Stream.write
  dsimp only
  split
  · rfl
  · rcases stream.outbound.write wire.unwritten.toBytes with ⟨_ | _, _⟩ <;> rfl

/-- Writing leaves what was read ahead as it is, and reads nothing. -/
theorem Wire.flush_keeps {wire wire' : Wire} {stream stream' : Stream}
    {outcome : Except IoError Unit} (flushed : wire.flush stream = (outcome, wire', stream')) :
    wire'.readAhead = wire.readAhead ∧ stream'.inbound = stream.inbound := by
  have same := Wire.flush_with wire stream wire.readAhead stream.inbound
  rw [flushed] at same
  have same_wire := congrArg (·.2.1.readAhead) same
  have same_stream := congrArg (·.2.2.inbound) same
  exact ⟨same_wire, same_stream⟩

/-- What was read ahead has no part in what is put on a wire. -/
theorem Wire.put_with (bytes : Bytes) (wire : Wire) (readAhead : Buffer) :
    put bytes { wire with readAhead } = { put bytes wire with readAhead } := rfl

/-- What was read ahead and unsealed has no part in sealing what is pending. -/
theorem SecureLayer.sealPending_with (suite : Suite) (wire : Wire) (layer : SecureLayer)
    (readAhead unsealed : Buffer) (frames : SealedFrames.State) :
    sealPending suite { wire with readAhead } { layer with frames, unsealed } =
      ({ (sealPending suite wire layer).1 with readAhead },
        { (sealPending suite wire layer).2 with frames, unsealed }) := rfl

namespace Connection

/-- Two connections whose reading halves are the same. -/
inductive ReadsAlike : Connection → Connection → Prop
  /-- Two bare connections. -/
  | bare (wire : Wire) (unwritten : Buffer) (frames : LengthPrefixed.State)
      (address : Option Endpoint) (resolution : Resolution) :
      ReadsAlike ⟨some wire, .bare frames, address, resolution⟩
        ⟨some { wire with unwritten }, .bare frames, address, resolution⟩
  /-- Two secure connections. -/
  | secure (wire : Wire) (unwritten : Buffer) (layer : SecureLayer) (sender : Sealing)
      (pending : Buffer) (remote : PublicKey) (address : Option Endpoint)
      (resolution : Resolution) :
      ReadsAlike ⟨some wire, .secure layer, address, resolution⟩
        ⟨some { wire with unwritten }, .secure { layer with sender, pending, remote }, address,
          resolution⟩
  /-- Two connections that are closed. -/
  | closed {connection connection' : Connection} (none_left : connection.wire = none)
      (none_left' : connection'.wire = none) : ReadsAlike connection connection'

/-- Two layers over a wire that seal alike, if they seal. -/
inductive SealsAlike : Channel → Channel → Prop
  /-- Nothing is sealed. -/
  | bare (frames frames' : LengthPrefixed.State) : SealsAlike (.bare frames) (.bare frames')
  /-- The same half seals, and the same octets are pending. -/
  | secure (layer : SecureLayer) (frames : SealedFrames.State) (unsealed : Buffer) :
      SealsAlike (.secure layer) (.secure { layer with frames, unsealed })

/-- Two connections whose writing halves are the same. -/
inductive WritesAlike : Connection → Connection → Prop
  /-- Two bare connections. -/
  | bare (wire : Wire) (readAhead : Buffer) (frames frames' : LengthPrefixed.State)
      (address : Option Endpoint) (resolution : Resolution) :
      WritesAlike ⟨some wire, .bare frames, address, resolution⟩
        ⟨some { wire with readAhead }, .bare frames', address, resolution⟩
  /-- Two secure connections. -/
  | secure (wire : Wire) (readAhead : Buffer) (layer : SecureLayer) (frames : SealedFrames.State)
      (unsealed : Buffer) (address : Option Endpoint) (resolution : Resolution) :
      WritesAlike ⟨some wire, .secure layer, address, resolution⟩
        ⟨some { wire with readAhead }, .secure { layer with frames, unsealed }, address, resolution⟩
  /-- Two connections that are closed. -/
  | closed {connection connection' : Connection} (none_left : connection.wire = none)
      (none_left' : connection'.wire = none)
      (channels : SealsAlike connection.channel connection'.channel) :
      WritesAlike connection connection'

variable {suite : Suite} {connection connection' : Connection}

/-- A connection reads like itself. -/
theorem ReadsAlike.refl (connection : Connection) : connection.ReadsAlike connection := by
  obtain ⟨_ | wire, _ | layer, address, resolution⟩ := connection
  · exact .closed rfl rfl
  · exact .closed rfl rfl
  · exact .bare wire wire.unwritten _ _ _
  · exact .secure wire wire.unwritten layer layer.sender layer.pending layer.remote _ _

/-- A layer over a wire seals like itself. -/
theorem SealsAlike.refl (channel : Channel) : SealsAlike channel channel := by
  obtain frames | layer := channel
  · exact .bare frames frames
  · exact .secure layer layer.frames layer.unsealed

/-- A connection writes like itself. -/
theorem WritesAlike.refl (connection : Connection) : connection.WritesAlike connection := by
  obtain ⟨_ | wire, _ | layer, address, resolution⟩ := connection
  · exact .closed rfl rfl (.refl _)
  · exact .closed rfl rfl (.refl _)
  · exact .bare wire wire.readAhead _ _ _ _
  · exact .secure wire wire.readAhead layer layer.frames layer.unsealed _ _

/-- Connections that read alike do so the other way round. -/
theorem ReadsAlike.symm (alike : connection.ReadsAlike connection') :
    connection'.ReadsAlike connection := by
  cases alike with
  | bare wire unwritten frames address resolution =>
    exact .bare { wire with unwritten } wire.unwritten frames address resolution
  | secure wire unwritten layer sender pending remote address resolution =>
    exact .secure { wire with unwritten } wire.unwritten { layer with sender, pending, remote }
      layer.sender layer.pending layer.remote address resolution
  | closed none_left none_left' => exact .closed none_left' none_left

/-- Connections that read like a third one read alike. -/
theorem ReadsAlike.trans {connection'' : Connection} (alike : connection.ReadsAlike connection')
    (alike' : connection'.ReadsAlike connection'') : connection.ReadsAlike connection'' := by
  cases alike with
  | bare wire unwritten frames address resolution =>
    cases alike' with
    | bare => exact .bare wire _ frames address resolution
    | closed none_left none_left' => simp at none_left
  | secure wire unwritten layer sender pending remote address resolution =>
    cases alike' with
    | secure => exact .secure wire _ layer _ _ _ address resolution
    | closed none_left none_left' => simp at none_left
  | closed none_left none_left' =>
    cases alike' with
    | closed _ none_left'' => exact .closed none_left none_left''
    | _ => simp at none_left'

/-- Layers over a wire that seal like a third one seal alike. -/
theorem SealsAlike.trans {channel channel' channel'' : Channel}
    (alike : SealsAlike channel channel') (alike' : SealsAlike channel' channel'') :
    SealsAlike channel channel'' := by
  cases alike with
  | bare frames frames' =>
    cases alike'
    exact .bare ..
  | secure layer frames unsealed =>
    cases alike'
    exact .secure layer _ _

/-- Connections that write like a third one write alike. -/
theorem WritesAlike.trans {connection'' : Connection} (alike : connection.WritesAlike connection')
    (alike' : connection'.WritesAlike connection'') : connection.WritesAlike connection'' := by
  cases alike with
  | bare wire readAhead frames frames' address resolution =>
    cases alike' with
    | bare => exact .bare wire _ frames _ address resolution
    | closed none_left none_left' => simp at none_left
  | secure wire readAhead layer frames unsealed address resolution =>
    cases alike' with
    | secure => exact .secure wire _ layer _ _ address resolution
    | closed none_left none_left' => simp at none_left
  | closed none_left none_left' channels =>
    cases alike' with
    | closed _ none_left'' channels' =>
      exact .closed none_left none_left'' (channels.trans channels')
    | _ => simp at none_left'

/-! ## Reading -/

/-- Octets are read from the reading half. -/
theorem ReadsAlike.readBytes (alike : connection.ReadsAlike connection') {n : Nat}
    {stream rest : Stream} {outcome : Outcome ConnectionError Bytes} {next : Connection}
    (read : connection.readBytes suite n stream = (outcome, next, rest)) (outbound : Pipe) :
    ∃ next', connection'.readBytes suite n { stream with outbound } =
        (outcome, next', { rest with outbound }) ∧ next.ReadsAlike next' := by
  cases alike with
  | closed none_left none_left' =>
    simp only [Connection.readBytes, none_left, none_left'] at read ⊢
    obtain ⟨rfl, rfl, rfl⟩ := read
    exact ⟨_, rfl, .closed none_left none_left'⟩
  | bare wire unwritten frames address resolution =>
    simp only [Connection.readBytes, Wire.readSome_with] at read ⊢
    split_ifs at read ⊢
    · obtain ⟨rfl, rfl, rfl⟩ := read
      exact ⟨_, rfl, .bare ..⟩
    · obtain ⟨rfl, rfl, rfl⟩ := read
      exact ⟨_, rfl, .bare ..⟩
  | secure wire unwritten layer sender pending remote address resolution =>
    simp only [Connection.readBytes, SecureLayer.unsealSome_with] at read ⊢
    split_ifs at read ⊢
    · obtain ⟨rfl, rfl, rfl⟩ := read
      exact ⟨_, rfl, .secure ..⟩
    · rcases unsealed : layer.unsealSome suite wire stream with ⟨_ | _ | _, layer', wire', stream'⟩
      all_goals
        simp only [unsealed] at read ⊢
        obtain ⟨rfl, rfl, rfl⟩ := read
        exact ⟨_, rfl, .secure ..⟩

/-- A frame is read from the reading half. -/
theorem ReadsAlike.readFrame (alike : connection.ReadsAlike connection') {stream rest : Stream}
    {outcome : Outcome ConnectionError (Option Bytes)} {next : Connection}
    (read : connection.readFrame suite stream = (outcome, next, rest)) (outbound : Pipe) :
    ∃ next', connection'.readFrame suite { stream with outbound } =
        (outcome, next', { rest with outbound }) ∧ next.ReadsAlike next' := by
  cases alike with
  | closed none_left none_left' =>
    simp only [Connection.readFrame, none_left, none_left'] at read ⊢
    obtain ⟨rfl, rfl, rfl⟩ := read
    exact ⟨_, rfl, .closed none_left none_left'⟩
  | bare wire unwritten frames address resolution =>
    simp only [Connection.readFrame, Wire.readFrame_with] at read ⊢
    obtain ⟨rfl, rfl, rfl⟩ := read
    exact ⟨_, rfl, .bare ..⟩
  | secure wire unwritten layer sender pending remote address resolution =>
    simp only [Connection.readFrame, Wire.readFrame_with] at read ⊢
    obtain ⟨rfl, rfl, rfl⟩ := read
    exact ⟨_, rfl, .secure ..⟩

/-- A call of a reader comes to the same on connections that read alike, whatever they write. -/
theorem ReadsAlike.call {α : Type} (alike : connection.ReadsAlike connection')
    {call : ReadCall α} {stream rest : Stream} {answer : ReadAnswer α} {next : Connection}
    (called : connection.call suite call stream = (answer, next, rest)) (outbound : Pipe) :
    ∃ next', connection'.call suite call { stream with outbound } =
        (answer, next', { rest with outbound }) ∧ next.ReadsAlike next' := by
  cases call with
  | byte =>
    rcases read : connection.readBytes suite 1 stream with ⟨outcome, next₁, rest₁⟩
    obtain ⟨next', read', alike'⟩ := alike.readBytes read outbound
    rw [call_byte, read] at called
    obtain ⟨rfl, rfl, rfl⟩ := called
    exact ⟨next', by rw [call_byte, read'], alike'⟩
  | bytes n =>
    rcases read : connection.readBytes suite n stream with ⟨outcome, next₁, rest₁⟩
    obtain ⟨next', read', alike'⟩ := alike.readBytes read outbound
    simp only [Connection.call, read] at called
    obtain ⟨rfl, rfl, rfl⟩ := called
    exact ⟨next', by simp only [Connection.call, read'], alike'⟩
  | object decoder =>
    rcases read : connection.readFrame suite stream with ⟨outcome, next₁, rest₁⟩
    obtain ⟨next', read', alike'⟩ := alike.readFrame read outbound
    simp only [Connection.call, Connection.readObject, read] at called ⊢
    simp only [read']
    rcases outcome with (_ | _) | _ | _
    all_goals
      obtain ⟨rfl, rfl, rfl⟩ := called
      exact ⟨next', rfl, alike'⟩

/-- A wire and a layer that only a reader has changed write alike. -/
theorem writesAlike_secure {wire wire' : Wire} {layer layer' : SecureLayer}
    (same_layer : layer' = { layer with frames := layer'.frames, unsealed := layer'.unsealed })
    (same_wire : wire'.unwritten = wire.unwritten) (address : Option Endpoint)
    (resolution : Resolution) :
    WritesAlike ⟨some wire, .secure layer, address, resolution⟩
      ⟨some wire', .secure layer', address, resolution⟩ := by
  have alike := WritesAlike.secure wire wire'.readAhead layer layer'.frames layer'.unsealed address
    resolution
  rw [← same_layer, ← same_wire] at alike
  exact alike

/-- A wire that only a reader has changed writes alike. -/
theorem writesAlike_bare {wire wire' : Wire} (same_wire : wire'.unwritten = wire.unwritten)
    (frames frames' : LengthPrefixed.State) (address : Option Endpoint) (resolution : Resolution) :
    WritesAlike ⟨some wire, .bare frames, address, resolution⟩
      ⟨some wire', .bare frames', address, resolution⟩ := by
  have alike := WritesAlike.bare wire wire'.readAhead frames frames' address resolution
  rw [← same_wire] at alike
  exact alike

/-- Reading octets leaves the writing half as it is, and writes nothing. -/
theorem readBytes_writesAlike {n : Nat} {stream rest : Stream}
    {outcome : Outcome ConnectionError Bytes} {next : Connection}
    (read : connection.readBytes suite n stream = (outcome, next, rest)) :
    connection.WritesAlike next ∧ rest.outbound = stream.outbound := by
  obtain ⟨_ | wire, frames | layer, address, resolution⟩ := connection
  · obtain ⟨rfl, rfl, rfl⟩ := read
    exact ⟨.closed rfl rfl (.refl _), rfl⟩
  · obtain ⟨rfl, rfl, rfl⟩ := read
    exact ⟨.closed rfl rfl (.refl _), rfl⟩
  · simp only [Connection.readBytes] at read
    split_ifs at read
    · obtain ⟨rfl, rfl, rfl⟩ := read
      exact ⟨.refl _, rfl⟩
    · rcases some_read : wire.readSome n stream with ⟨outcome', wire', stream'⟩
      obtain ⟨same_wire, same_stream⟩ := Wire.readSome_keeps some_read
      simp only [some_read] at read
      obtain ⟨rfl, rfl, rfl⟩ := read
      exact ⟨writesAlike_bare same_wire _ _ _ _, same_stream⟩
  · simp only [Connection.readBytes] at read
    split_ifs at read
    · obtain ⟨rfl, rfl, rfl⟩ := read
      exact ⟨.refl _, rfl⟩
    · -- Unsealing is the only thing here that changes the layer, and it keeps the writing half.
      rcases unsealed : layer.unsealSome suite wire stream with ⟨outcome', layer', wire', stream'⟩
      obtain ⟨same_layer, same_wire, same_stream⟩ := SecureLayer.unsealSome_keeps unsealed
      simp only [unsealed] at read
      rcases outcome' with _ | _ | _
      · obtain ⟨rfl, rfl, rfl⟩ := read
        refine ⟨writesAlike_secure ?_ same_wire _ _, same_stream⟩
        rw [same_layer]
      · obtain ⟨rfl, rfl, rfl⟩ := read
        exact ⟨writesAlike_secure same_layer same_wire _ _, same_stream⟩
      · obtain ⟨rfl, rfl, rfl⟩ := read
        exact ⟨writesAlike_secure same_layer same_wire _ _, same_stream⟩

/-- Reading a frame leaves the writing half as it is, and writes nothing. -/
theorem readFrame_writesAlike {stream rest : Stream}
    {outcome : Outcome ConnectionError (Option Bytes)} {next : Connection}
    (read : connection.readFrame suite stream = (outcome, next, rest)) :
    connection.WritesAlike next ∧ rest.outbound = stream.outbound := by
  obtain ⟨_ | wire, frames | layer, address, resolution⟩ := connection
  · obtain ⟨rfl, rfl, rfl⟩ := read
    exact ⟨.closed rfl rfl (.refl _), rfl⟩
  · obtain ⟨rfl, rfl, rfl⟩ := read
    exact ⟨.closed rfl rfl (.refl _), rfl⟩
  · rcases read_wire : wire.readFrame (LengthPrefixed.framing ConnectionError.io) frames stream with
      ⟨outcome', frames', wire', stream'⟩
    obtain ⟨same_wire, same_stream⟩ := Wire.readFrame_keeps read_wire
    simp only [Connection.readFrame, read_wire] at read
    obtain ⟨rfl, rfl, rfl⟩ := read
    exact ⟨writesAlike_bare same_wire _ _ _ _, same_stream⟩
  · rcases read_wire : wire.readFrame (SealedFrames.framing suite) layer.frames stream with
      ⟨outcome', frames', wire', stream'⟩
    obtain ⟨same_wire, same_stream⟩ := Wire.readFrame_keeps read_wire
    simp only [Connection.readFrame, read_wire] at read
    obtain ⟨rfl, rfl, rfl⟩ := read
    exact ⟨writesAlike_secure rfl same_wire _ _, same_stream⟩

/-- A call of a reader leaves the writing half as it is, and writes nothing. -/
theorem call_writesAlike {α : Type} {call : ReadCall α} {stream rest : Stream}
    {answer : ReadAnswer α} {next : Connection}
    (called : connection.call suite call stream = (answer, next, rest)) :
    connection.WritesAlike next ∧ rest.outbound = stream.outbound := by
  cases call with
  | byte =>
    rcases read : connection.readBytes suite 1 stream with ⟨outcome, next', rest'⟩
    rw [call_byte, read] at called
    obtain ⟨-, rfl, rfl⟩ := called
    exact readBytes_writesAlike read
  | bytes n =>
    rcases read : connection.readBytes suite n stream with ⟨outcome, next', rest'⟩
    simp only [Connection.call, read] at called
    obtain ⟨-, rfl, rfl⟩ := called
    exact readBytes_writesAlike read
  | object decoder =>
    rcases read : connection.readFrame suite stream with ⟨outcome, next', rest'⟩
    simp only [Connection.call, Connection.readObject, read] at called
    rcases outcome with (_ | _) | _ | _
    all_goals
      obtain ⟨-, rfl, rfl⟩ := called
      exact readFrame_writesAlike read

/-- Reading a frame has no part in what the other end knows of its pipe. -/
theorem intake_readFrame (suite : Suite) (connection : Connection) (stream : Stream) :
    (connection.readFrame suite stream).2.2.inbound.intake = stream.inbound.intake := by
  obtain ⟨_ | wire, frames | layer, address, resolution⟩ := connection
  · rfl
  · rfl
  · exact wire.intake_readFrame _ frames stream
  · exact wire.intake_readFrame _ layer.frames stream

/-- A call of a reader has no part in what the other end knows of its pipe. -/
theorem intake_call {α : Type} (suite : Suite) (call : ReadCall α) (connection : Connection)
    (stream : Stream) :
    (connection.call suite call stream).2.2.inbound.intake = stream.inbound.intake := by
  have octets (n : Nat) : (connection.readBytes suite n stream).2.2.inbound.intake =
      stream.inbound.intake := by
    obtain ⟨_ | wire, frames | layer, address, resolution⟩ := connection
    · rfl
    · rfl
    · simp only [Connection.readBytes]
      split
      · rfl
      · exact wire.intake_readSome n stream
    · have intake := layer.intake_unsealSome suite wire stream
      simp only [Connection.readBytes]
      split
      · rfl
      · rcases unsealed : layer.unsealSome suite wire stream with ⟨_ | _ | _, _, _, _⟩
        all_goals
          rw [unsealed] at intake
          exact intake
  cases call with
  | byte => exact octets 1
  | bytes n => exact octets n
  | object decoder =>
    have frame := connection.intake_readFrame suite stream
    simp only [Connection.call, Connection.readObject]
    rcases read : connection.readFrame suite stream with ⟨(_ | _) | _ | _, _, _⟩
    all_goals
      rw [read] at frame
      exact frame

/-! ## Writing -/

section Writes

variable {stream rest : Stream} {outcome : Except ConnectionError Unit} {next : Connection}
  {call : WriteCall}

/-- A call of a writer comes to the same on a bare connection that has read other octets ahead and
knows of another frame. -/
theorem write_bare {wire : Wire} {frames : LengthPrefixed.State} {address : Option Endpoint}
    {resolution : Resolution}
    (written : Connection.write suite call ⟨some wire, .bare frames, address, resolution⟩ stream =
      (outcome, next, rest)) (readAhead : Buffer) (frames' : LengthPrefixed.State)
    (inbound : Pipe) :
    ∃ next' rest', Connection.write suite call
        ⟨some { wire with readAhead }, .bare frames', address, resolution⟩
        { stream with inbound } = (outcome, next', rest') ∧
      rest'.outbound = rest.outbound ∧ next.WritesAlike next' := by
  cases call with
  | byte octet =>
    obtain ⟨rfl, rfl, rfl⟩ := written
    exact ⟨_, _, rfl, rfl, .bare ..⟩
  | bytes bytes =>
    obtain ⟨rfl, rfl, rfl⟩ := written
    exact ⟨_, _, rfl, rfl, .bare ..⟩
  | object object =>
    simp only [Connection.write, Connection.writeObject, Connection.flushWire, Wire.put_with,
      Wire.flush_with] at written ⊢
    split_ifs at written ⊢
    all_goals
      obtain ⟨rfl, rfl, rfl⟩ := written
      exact ⟨_, _, rfl, rfl, .bare ..⟩
  | flush =>
    simp only [Connection.write, Connection.flush, Connection.sealPending,
      Connection.flushWire, Wire.flush_with] at written ⊢
    obtain ⟨rfl, rfl, rfl⟩ := written
    exact ⟨_, _, rfl, rfl, .bare ..⟩
  | close =>
    -- The connection is closed whether the flush succeeds or not.
    simp only [Connection.write, Connection.close, Connection.sealPending, Wire.flush_with]
      at written ⊢
    rcases flushed : wire.flush stream with ⟨_ | _, wire', stream'⟩
    all_goals
      simp only [flushed, Stream.release_shutdown] at written ⊢
      obtain ⟨rfl, rfl, rfl⟩ := written
      exact ⟨_, _, rfl, rfl, .closed rfl rfl (.bare ..)⟩

/-- A call of a writer comes to the same on a secure connection that has read other octets ahead and
unsealed others. -/
theorem write_secure {wire : Wire} {layer : SecureLayer} {address : Option Endpoint}
    {resolution : Resolution}
    (written : Connection.write suite call ⟨some wire, .secure layer, address, resolution⟩ stream =
      (outcome, next, rest)) (readAhead : Buffer) (frames : SealedFrames.State)
    (unsealed : Buffer) (inbound : Pipe) :
    ∃ next' rest', Connection.write suite call ⟨some { wire with readAhead },
        .secure { layer with frames, unsealed }, address, resolution⟩ { stream with inbound } =
          (outcome, next', rest') ∧
      rest'.outbound = rest.outbound ∧ next.WritesAlike next' := by
  cases call with
  | byte octet =>
    obtain ⟨rfl, rfl, rfl⟩ := written
    exact ⟨_, _, rfl, rfl, .secure ..⟩
  | bytes bytes =>
    obtain ⟨rfl, rfl, rfl⟩ := written
    exact ⟨_, _, rfl, rfl, .secure ..⟩
  | object object =>
    simp only [Connection.write, Connection.writeObject, SecureLayer.sealPending_with]
      at written ⊢
    generalize layer.sealPending suite wire = sealed at written ⊢
    obtain ⟨wire', layer'⟩ := sealed
    rcases encoded : SealedFrames.encode? suite layer'.sender object.encode with
      _ | ⟨frame, sender⟩
    · -- What was pending stays sealed when the object is too large.
      simp only [encoded] at written ⊢
      obtain ⟨rfl, rfl, rfl⟩ := written
      exact ⟨_, _, rfl, rfl, .secure ..⟩
    · simp only [encoded, Connection.flushWire, Wire.put_with, Wire.flush_with] at written ⊢
      obtain ⟨rfl, rfl, rfl⟩ := written
      exact ⟨_, _, rfl, rfl, .secure _ _ { layer' with sender } _ _ _ _⟩
  | flush =>
    simp only [Connection.write, Connection.flush, Connection.sealPending,
      SecureLayer.sealPending_with, Connection.flushWire, Wire.flush_with] at written ⊢
    obtain ⟨rfl, rfl, rfl⟩ := written
    exact ⟨_, _, rfl, rfl, .secure ..⟩
  | close =>
    simp only [Connection.write, Connection.close, Connection.sealPending,
      SecureLayer.sealPending_with, Wire.flush_with] at written ⊢
    rcases flushed : (layer.sealPending suite wire).1.flush stream with ⟨_ | _, wire', stream'⟩
    all_goals
      simp only [flushed, Stream.release_shutdown] at written ⊢
      obtain ⟨rfl, rfl, rfl⟩ := written
      exact ⟨_, _, rfl, rfl, .closed rfl rfl (.secure ..)⟩

end Writes

/-- A call of a writer comes to the same on connections that write alike, whatever they read. -/
theorem WritesAlike.write (alike : connection.WritesAlike connection') {call : WriteCall}
    {stream rest : Stream} {outcome : Except ConnectionError Unit} {next : Connection}
    (written : connection.write suite call stream = (outcome, next, rest)) (inbound : Pipe) :
    ∃ next' rest', connection'.write suite call { stream with inbound } =
        (outcome, next', rest') ∧ rest'.outbound = rest.outbound ∧ next.WritesAlike next' := by
  cases alike with
  | bare wire readAhead frames frames' address resolution =>
    exact write_bare written readAhead frames' inbound
  | secure wire readAhead layer frames unsealed address resolution =>
    exact write_secure written readAhead frames unsealed inbound
  | closed none_left none_left' channels =>
    cases call
    all_goals
      simp only [Connection.write, Connection.writeByte, Connection.writeBytes,
        Connection.writeObject, Connection.flush, Connection.close, none_left, none_left']
        at written ⊢
      obtain ⟨rfl, rfl, rfl⟩ := written
      exact ⟨_, _, rfl, rfl, .closed none_left none_left' channels⟩

/-- A wire that only a writer has changed reads alike. -/
theorem readsAlike_bare {wire wire' : Wire} (same_wire : wire'.readAhead = wire.readAhead)
    (frames : LengthPrefixed.State) (address : Option Endpoint) (resolution : Resolution) :
    ReadsAlike ⟨some wire, .bare frames, address, resolution⟩
      ⟨some wire', .bare frames, address, resolution⟩ := by
  have alike := ReadsAlike.bare wire wire'.unwritten frames address resolution
  rw [← same_wire] at alike
  exact alike

/-- A wire and a layer that only a writer has changed read alike. -/
theorem readsAlike_secure {wire wire' : Wire} (layer : SecureLayer) (sender : Sealing)
    (pending : Buffer) (same_wire : wire'.readAhead = wire.readAhead)
    (address : Option Endpoint) (resolution : Resolution) :
    ReadsAlike ⟨some wire, .secure layer, address, resolution⟩
      ⟨some wire', .secure { layer with sender, pending }, address, resolution⟩ := by
  have alike := ReadsAlike.secure wire wire'.unwritten layer sender pending layer.remote address
    resolution
  rw [← same_wire] at alike
  exact alike

/-- Writes a text in one frame, behind everything that is buffered, whether it is one of an object
or not. -/
def writeText (suite : Suite) (text : Bytes) (connection : Connection) (stream : Stream) :
    Except ConnectionError Unit × Connection × Stream :=
  match connection.wire with
  | none => (.error .closed, connection, stream)
  | some wire =>
    match connection.channel with
    | .bare frames =>
      if LengthPrefixed.maxSize < text.length then
        (.error (.frameTooLarge text.length), connection, stream)
      else
        connection.flushWire (.bare frames) (wire.put (LengthPrefixed.encode text)) stream
    | .secure layer =>
      let (wire, layer) := layer.sealPending suite wire
      match SealedFrames.encode? suite layer.sender text with
      | none =>
        (.error (.frameTooLarge text.length),
          { connection with wire := some wire, channel := .secure layer }, stream)
      | some (frame, sender) =>
        connection.flushWire (.secure { layer with sender }) (wire.put frame) stream

/-- An object is written as its text. -/
theorem writeObject_eq (suite : Suite) (object : Json) (connection : Connection)
    (stream : Stream) :
    connection.writeObject suite object stream =
      connection.writeText suite object.encode stream := rfl

/-- Writing a text leaves the reading half as it is, and reads nothing. -/
theorem writeText_readsAlike {text : Bytes} {stream rest : Stream}
    {outcome : Except ConnectionError Unit} {next : Connection}
    (written : connection.writeText suite text stream = (outcome, next, rest)) :
    connection.ReadsAlike next ∧ rest.inbound = stream.inbound := by
  obtain ⟨_ | wire, frames | layer, address, resolution⟩ := connection
  · obtain ⟨rfl, rfl, rfl⟩ := written
    exact ⟨.refl _, rfl⟩
  · obtain ⟨rfl, rfl, rfl⟩ := written
    exact ⟨.refl _, rfl⟩
  · simp only [writeText, flushWire] at written
    split_ifs at written
    · obtain ⟨rfl, rfl, rfl⟩ := written
      exact ⟨.refl _, rfl⟩
    · rcases flushed : (wire.put (LengthPrefixed.encode text)).flush stream with
        ⟨outcome', wire', stream'⟩
      have kept := Wire.flush_keeps flushed
      have same_wire : wire'.readAhead = wire.readAhead := kept.1
      rw [flushed] at written
      obtain ⟨rfl, rfl, rfl⟩ := written
      exact ⟨readsAlike_bare same_wire _ _ _, kept.2⟩
  · simp only [writeText, flushWire] at written
    rcases encoded : SealedFrames.encode? suite (layer.sealPending suite wire).2.sender text with
      _ | ⟨frame, sender⟩
    · simp only [encoded] at written
      obtain ⟨rfl, rfl, rfl⟩ := written
      exact ⟨.secure .., rfl⟩
    · -- The frame is put behind what was sealed, and nothing of it is read.
      rcases flushed : ((layer.sealPending suite wire).1.put frame).flush stream with
        ⟨outcome', wire', stream'⟩
      have kept := Wire.flush_keeps flushed
      have same_wire : wire'.readAhead = wire.readAhead := kept.1
      simp only [encoded, flushed] at written
      obtain ⟨rfl, rfl, rfl⟩ := written
      exact ⟨readsAlike_secure layer _ _ same_wire _ _, kept.2⟩

/-- A call of a writer that does not close the connection leaves the reading half as it is, and
reads nothing. -/
theorem write_readsAlike {call : WriteCall} (no_close : call ≠ .close) {stream rest : Stream}
    {outcome : Except ConnectionError Unit} {next : Connection}
    (written : connection.write suite call stream = (outcome, next, rest)) :
    connection.ReadsAlike next ∧ rest.inbound = stream.inbound := by
  -- A closed connection stays as it is, and an open one reads what it would have read before.
  obtain ⟨_ | wire, frames | layer, address, resolution⟩ := connection
  · cases call with
    | close => exact absurd rfl no_close
    | _ =>
      obtain ⟨rfl, rfl, rfl⟩ := written
      exact ⟨.refl _, rfl⟩
  · cases call with
    | close => exact absurd rfl no_close
    | _ =>
      obtain ⟨rfl, rfl, rfl⟩ := written
      exact ⟨.refl _, rfl⟩
  · cases call with
    | close => exact absurd rfl no_close
    | byte octet =>
      obtain ⟨rfl, rfl, rfl⟩ := written
      exact ⟨.bare .., rfl⟩
    | bytes bytes =>
      obtain ⟨rfl, rfl, rfl⟩ := written
      exact ⟨.bare .., rfl⟩
    | object object =>
      rw [Connection.write, writeObject_eq] at written
      exact writeText_readsAlike written
    | flush =>
      simp only [Connection.write, Connection.flush, Connection.sealPending,
        Connection.flushWire] at written
      rcases flushed : wire.flush stream with ⟨outcome', wire', stream'⟩
      have kept := Wire.flush_keeps flushed
      have same_wire : wire'.readAhead = wire.readAhead := kept.1
      rw [flushed] at written
      obtain ⟨rfl, rfl, rfl⟩ := written
      exact ⟨readsAlike_bare same_wire _ _ _, kept.2⟩
  · cases call with
    | close => exact absurd rfl no_close
    | byte octet =>
      obtain ⟨rfl, rfl, rfl⟩ := written
      exact ⟨.secure .., rfl⟩
    | bytes bytes =>
      obtain ⟨rfl, rfl, rfl⟩ := written
      exact ⟨.secure .., rfl⟩
    | object object =>
      rw [Connection.write, writeObject_eq] at written
      exact writeText_readsAlike written
    | flush =>
      simp only [Connection.write, Connection.flush, Connection.sealPending,
        Connection.flushWire] at written
      rcases flushed : (layer.sealPending suite wire).1.flush stream with ⟨outcome', wire', stream'⟩
      have kept := Wire.flush_keeps flushed
      have same_wire : wire'.readAhead = wire.readAhead := kept.1
      simp only [flushed] at written
      obtain ⟨rfl, rfl, rfl⟩ := written
      exact ⟨readsAlike_secure layer _ _ same_wire _ _, kept.2⟩

/-- A connection that closes reads nothing any more. -/
theorem close_severs {stream rest : Stream} {outcome : Except ConnectionError Unit}
    {next : Connection} (opened : connection.wire ≠ none)
    (written : connection.write suite .close stream = (outcome, next, rest)) :
    next.wire = none ∧ rest.inbound = stream.inbound.sever := by
  obtain ⟨_ | wire, channel, address, resolution⟩ := connection
  · exact absurd rfl opened
  · simp only [Connection.write, Connection.close] at written
    rcases flushed : (Connection.sealPending suite wire channel).1.flush stream with
      ⟨_ | _, wire', stream'⟩
    all_goals
      obtain ⟨-, same_stream⟩ := Wire.flush_keeps flushed
      simp only [flushed, Stream.release_shutdown] at written
      obtain ⟨rfl, rfl, rfl⟩ := written
      exact ⟨rfl, congrArg Pipe.sever same_stream⟩

/-- Closing a closed connection does nothing. -/
theorem close_closed {stream rest : Stream} {outcome : Except ConnectionError Unit}
    {next : Connection} (closed : connection.wire = none)
    (written : connection.write suite .close stream = (outcome, next, rest)) :
    next = connection ∧ rest = stream := by
  obtain ⟨_, channel, address, resolution⟩ := connection
  obtain rfl := closed
  obtain ⟨-, rfl, rfl⟩ := written
  exact ⟨rfl, rfl⟩

/-- Connections that read alike do so behind the same call of a writer, whatever they write. -/
theorem ReadsAlike.write (alike : connection.ReadsAlike connection') {call : WriteCall}
    {stream stream' rest rest' : Stream} {outcome outcome' : Except ConnectionError Unit}
    {next next' : Connection}
    (written : connection.write suite call stream = (outcome, next, rest))
    (written' : connection'.write suite call stream' = (outcome', next', rest'))
    (same : stream.inbound = stream'.inbound) :
    next.ReadsAlike next' ∧ rest.inbound = rest'.inbound := by
  by_cases close : call = .close
  · subst close
    have both_closed : connection.wire = none ↔ connection'.wire = none := by
      cases alike with
      | closed none_left none_left' => exact ⟨fun _ => none_left', fun _ => none_left⟩
      | _ => simp
    by_cases closed : connection.wire = none
    · obtain ⟨rfl, rfl⟩ := close_closed closed written
      obtain ⟨rfl, rfl⟩ := close_closed (both_closed.1 closed) written'
      exact ⟨alike, same⟩
    · obtain ⟨none_left, severed⟩ := close_severs closed written
      obtain ⟨none_left', severed'⟩ := close_severs (mt both_closed.2 closed) written'
      exact ⟨.closed none_left none_left', by rw [severed, severed', same]⟩
  · obtain ⟨still, unread⟩ := write_readsAlike close written
    obtain ⟨still', unread'⟩ := write_readsAlike close written'
    exact ⟨(still.symm.trans alike).trans still', by rw [unread, unread', same]⟩

/-- Connections that write alike let go of what the other end writes behind the same calls. -/
theorem WritesAlike.severs (alike : connection.WritesAlike connection') {call : WriteCall}
    {stream stream' rest rest' : Stream} {outcome outcome' : Except ConnectionError Unit}
    {next next' : Connection}
    (written : connection.write suite call stream = (outcome, next, rest))
    (written' : connection'.write suite call stream' = (outcome', next', rest')) :
    (rest.inbound = stream.inbound ∧ rest'.inbound = stream'.inbound) ∨
      (rest.inbound = stream.inbound.sever ∧ rest'.inbound = stream'.inbound.sever) := by
  by_cases close : call = .close
  · subst close
    have both_closed : connection.wire = none ↔ connection'.wire = none := by
      cases alike with
      | closed none_left none_left' channels => exact ⟨fun _ => none_left', fun _ => none_left⟩
      | _ => simp
    by_cases closed : connection.wire = none
    · obtain ⟨-, rfl⟩ := close_closed closed written
      obtain ⟨-, rfl⟩ := close_closed (both_closed.1 closed) written'
      exact .inl ⟨rfl, rfl⟩
    · obtain ⟨-, severed⟩ := close_severs closed written
      obtain ⟨-, severed'⟩ := close_severs (mt both_closed.2 closed) written'
      exact .inr ⟨severed, severed'⟩
  · exact .inl ⟨(write_readsAlike close written).2, (write_readsAlike close written').2⟩

end Connection

end PeerLink
