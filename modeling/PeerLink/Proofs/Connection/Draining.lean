import PeerLink.Proofs.Connection.Secure
import PeerLink.Proofs.Connection.Unsealing
import PeerLink.Proofs.Framing.Ending
import PeerLink.Proofs.Patience.Later

/-!
# Reading a secure connection to its end

A peer may seal empty messages, as many as it likes, and they must not be taken for the end of the
stream. An `Inflow` is a connection that is read while octets arrive in any pieces, with the octets
that are still to come. As long as all of these are the frames of ciphertexts that open one after
the other, reading from it drains it (`Inflow.drains`): each call gives some of the octets that the
messages have, unless it waits for what has not arrived, until there are no more of them, and finds
the end from then on. The end is final: what has arrived as a whole is whole at every later call
(`Inflow.Brings.whole_run`), so that a call behind the end has nothing to wait for.

One frame is read by `readFrame_open`; the secure layer passes over the empty ones in an induction
on the messages (`SecureLayer.unsealSome_open`); what one call does to the inflow is
`Inflow.Brings.readBytes`, and a sequence of calls is an induction on these.
-/

namespace PeerLink

open SealedFrames

/-! ## Frames that open -/

/-- A stream that is read while octets are still to come: nothing that has arrived is held back,
and the end is behind everything else. -/
structure Stream.Fed (stream : Stream) (coming : Bytes) : Prop where
  /-- No octets are held back. -/
  free : stream.inbound.gate = none
  /-- The stream has not failed. -/
  sound : stream.inbound.reset = false
  /-- The end has not come before the last octet. -/
  last : stream.inbound.ended = true → coming = []

/-- Whether all octets and the end of a stream have arrived. -/
def Stream.whole (stream : Stream) (coming : Bytes) : Bool :=
  coming.isEmpty && stream.inbound.ended

namespace Wire.Advanced

variable {wire wire' : Wire} {stream stream' : Stream} {coming : Bytes}

/-- The end of a stream does not depend on what was read. -/
theorem ended (advanced : wire.Advanced stream wire' stream') :
    stream'.inbound.ended = stream.inbound.ended := by
  obtain ⟨n, read⟩ := advanced.stream
  rw [read.inbound.same]

/-- Whether everything has arrived does not depend on what was read. -/
theorem whole (advanced : wire.Advanced stream wire' stream') :
    stream'.whole coming = stream.whole coming := by
  rw [Stream.whole, Stream.whole, advanced.ended]

/-- What was read has no part in what is still to come. -/
theorem fed (advanced : wire.Advanced stream wire' stream') (fed : stream.Fed coming) :
    stream'.Fed coming where
  free := advanced.gate_eq_none fed.free
  sound := by
    obtain ⟨n, read⟩ := advanced.stream
    rw [read.inbound.same]
    exact fed.sound
  last ended := fed.last (advanced.ended ▸ ended)

end Wire.Advanced

/-- The end is found behind the octets that have arrived if there are no more of them and the end
has arrived; otherwise a reader waits. -/
theorem Stream.Fed.verge {stream : Stream} {coming : Bytes} (fed : stream.Fed coming) :
    stream.inbound.verge = if stream.whole coming then .stop else .wait := by
  rw [Pipe.verge_of_gate_eq_none fed.free, fed.sound, whole]
  cases ended : stream.inbound.ended with
  | true => simp [fed.last ended]
  | false => simp

namespace SealedFrames

variable {suite : Suite}

/-- What reading a frame gives when the messages are next, and the messages that are next then. -/
inductive Next (whole : Bool) : List Bytes → Outcome Error (Option Bytes) → List Bytes → Prop
  /-- The first message. -/
  | message {message : Bytes} {later : List Bytes} :
      Next whole (message :: later) (.done (some message)) later
  /-- Nothing, as not everything has arrived. -/
  | waits {messages : List Bytes} (missing : whole = false) : Next whole messages .waiting messages
  /-- The end of the stream. -/
  | ends (all : whole = true) : Next whole [] (.done none) []

/-- The frames that a half seals open one after the other. -/
theorem open_frames (opens : suite.Opens) (half : Sealing) {messages : List Bytes}
    (fit : ∀ message ∈ messages, message.length ≤ maxPayload) :
    Open suite half messages (frames suite half messages) := by
  induction messages generalizing half with
  | nil => exact .nil
  | cons message messages ih =>
    obtain ⟨small, fit'⟩ := List.forall_mem_cons.1 fit
    have length := length_sealMessage suite half message
    have payload : maxPayload + Suite.tagSize = maxSize := rfl
    have least : minSize = Suite.tagSize := rfl
    have acceptable : Acceptable (half.sealMessage suite message).1 := by
      rw [Acceptable, length]
      omega
    have framed : frame suite half message = frameOf (half.sealMessage suite message).1 := by
      rw [frameOf, length, frame]
    rw [frames, framed]
    exact .cons acceptable (opens _ _ _ _) (ih _ fit')

/-- Of a frame there may be nothing yet. -/
theorem part_nil : Part [] :=
  ⟨List.replicate minSize 0, frameOf (List.replicate minSize 0), ⟨by decide, by decide⟩, by decide,
    rfl⟩

/-- A reader that has a part of a frame before it waits, and no octet is lost. -/
theorem readFrame_part_waiting {state : State} {wire : Wire} {stream : Stream}
    (valid : Valid state) (part : Part (head state ++ wire.ahead stream))
    (behind : stream.inbound.verge = .wait) :
    ∃ state' wire' stream', wire.readFrame (framing suite) state stream =
        (.waiting, state', wire', stream') ∧ Valid state' ∧ state'.receiver = state.receiver ∧
      head state' ++ wire'.ahead stream' = head state ++ wire.ahead stream ∧
      wire.Advanced stream wire' stream' := by
  obtain ⟨state', rest, valid', receiver, octets, cut⟩ : ∃ state' rest, Valid state' ∧
      state'.receiver = state.receiver ∧ head state' ++ rest = head state ++ wire.ahead stream ∧
      (framing suite).cutBytes state (wire.ahead stream) = (.ok none, state', rest) := by
    rw [← cutBytes_none_head suite valid]
    rcases cutBytes_of_part suite state.receiver part with
      ⟨-, cut⟩ | ⟨n, rest, -, acceptable, octets, cut⟩
    · exact ⟨⟨state.receiver, none⟩, _, by rintro n ⟨⟩, rfl, rfl, cut⟩
    · refine ⟨⟨state.receiver, some n⟩, rest, ?_, rfl, octets.symm, cut⟩
      rintro m ⟨⟩
      exact acceptable
  have concluded : (framing suite).conclude stream.inbound.verge
      ((framing suite).cutBytes state (wire.ahead stream)) = (.waiting, state', rest) := by
    rw [cut, behind]
    rfl
  obtain ⟨wire', stream', read, rfl, advanced⟩ := Wire.readFrame_eq (incremental suite) concluded
  exact ⟨state', wire', stream', read, valid', receiver, octets, advanced⟩

/-- Of frames that open and whose last octets are still to come, the first one has arrived or is a
part, unless there is none. -/
theorem Open.cases_append {half : Sealing} {messages : List Bytes} {octets coming : Bytes}
    (opened : Open suite half messages (octets ++ coming)) :
    (∃ ciphertext message later rest, messages = message :: later ∧ Acceptable ciphertext ∧
        suite.decrypt? half.key half.counter [] ciphertext = some message ∧
        octets = frameOf ciphertext ++ rest ∧
        Open suite (half.advance suite) later (rest ++ coming)) ∨
      Part octets ∧ (coming = [] → messages = [] ∧ octets = []) := by
  generalize total : octets ++ coming = all at opened
  cases opened with
  | nil =>
    obtain ⟨rfl, rfl⟩ := List.append_eq_nil_iff.1 total
    exact .inr ⟨part_nil, fun _ => ⟨rfl, rfl⟩⟩
  | @cons _ ciphertext message later behind acceptable decrypted later_opened =>
    rcases List.append_eq_append_iff.1 total with ⟨missing, frame, rest⟩ | ⟨rest, here, rfl⟩
    · by_cases none_missing : missing = []
      · subst none_missing
        rw [List.append_nil] at frame
        refine .inl ⟨ciphertext, message, later, [], rfl, acceptable, decrypted, ?_, ?_⟩
        · rw [List.append_nil, frame]
        · rwa [rest]
      · refine .inr ⟨⟨ciphertext, missing, acceptable, none_missing, frame.symm⟩,
          fun none_coming => ?_⟩
        rw [none_coming] at rest
        exact absurd (List.append_eq_nil_iff.1 rest.symm).1 none_missing
    · exact .inl ⟨ciphertext, message, later, rest, rfl, acceptable, decrypted, here, later_opened⟩

/-- A frame is read if it has arrived; otherwise the reader waits, or finds the end. -/
theorem readFrame_open {state : State} {wire : Wire} {stream : Stream} {messages : List Bytes}
    {coming : Bytes} (valid : Valid state)
    (opened : Open suite state.receiver messages (head state ++ wire.ahead stream ++ coming))
    (fed : stream.Fed coming) :
    ∃ outcome state' wire' stream' messages',
      wire.readFrame (framing suite) state stream = (outcome, state', wire', stream') ∧
      Next (stream.whole coming) messages outcome messages' ∧ Valid state' ∧
      Open suite state'.receiver messages' (head state' ++ wire'.ahead stream' ++ coming) ∧
      wire.Advanced stream wire' stream' := by
  rcases opened.cases_append with
    ⟨ciphertext, message, later, rest, rfl, acceptable, decrypted, octets, later_opened⟩ |
      ⟨part, none_coming⟩
  · have cut := cutBytes_frameOf suite acceptable decrypted rest
    rw [← octets, cutBytes_none_head suite valid] at cut
    obtain ⟨wire', stream', read, rfl, advanced⟩ :=
      Wire.readFrame_of_cutBytes (incremental suite) cut
    exact ⟨_, _, wire', stream', later, read, .message, by rintro n ⟨⟩, later_opened, advanced⟩
  · -- A part of a frame is there: the reader waits for the rest, unless the end has come, which
    -- comes between two frames.
    cases whole : stream.whole coming with
    | false =>
      have behind : stream.inbound.verge = .wait := by rw [fed.verge, whole]; rfl
      obtain ⟨state', wire', stream', read, valid', receiver, octets, advanced⟩ :=
        @readFrame_part_waiting suite _ _ _ valid part behind
      refine ⟨_, state', wire', stream', messages, read, .waits rfl, valid', ?_, advanced⟩
      rwa [receiver, octets]
    | true =>
      have behind : stream.inbound.verge = .stop := by rw [fed.verge, whole]; rfl
      rw [Stream.whole, Bool.and_eq_true, List.isEmpty_iff] at whole
      obtain ⟨rfl, nothing⟩ := none_coming whole.1
      obtain ⟨wire', stream', read, nothing', advanced⟩ :=
        @readFrame_stop suite _ _ _ nothing behind
      refine ⟨_, state, wire', stream', [], read, .ends rfl, valid, ?_, advanced⟩
      rw [nothing', (List.append_eq_nil_iff.1 nothing).1, whole.1]
      exact .nil

end SealedFrames

/-! ## Unsealing -/

namespace SecureLayer

variable {suite : Suite} {layer : SecureLayer} {wire wire' : Wire} {stream stream' : Stream}

/-- An empty message is passed over. -/
theorem unsealSome_of_empty (valid : Valid layer.frames) (nothing : layer.unsealed.isEmpty = true)
    {frames : State} (read : wire.readFrame (framing suite) layer.frames stream =
      (.done (some []), frames, wire', stream')) :
    layer.unsealSome suite wire stream =
      unsealSome suite { layer with frames, unsealed := .empty } wire' stream' := by
  obtain ⟨outcome, frames', wire'', stream'', read', advanced, reading⟩ :=
    reading_readFrame suite valid wire stream
  obtain ⟨rfl, rfl, rfl, rfl⟩ := by simpa using read'.symm.trans read
  rw [unsealSome, if_pos nothing, read]
  exact dif_pos (size_lt_of_message reading advanced)

/-- What unsealing finds: octets to read, or the reason why there are none. -/
inductive Finds (whole : Bool) : Outcome ConnectionError Bool → Bytes → List Bytes → Prop
  /-- Octets to read. -/
  | octets {unsealed : Bytes} {messages : List Bytes} (some_octets : unsealed ≠ []) :
      Finds whole (.done true) unsealed messages
  /-- Nothing, as not everything has arrived. -/
  | waits {messages : List Bytes} (missing : whole = false) : Finds whole .waiting [] messages
  /-- The end of the stream. -/
  | ends (all : whole = true) : Finds whole (.done false) [] []

/-- The layer unseals messages until one is not empty. -/
theorem unsealSome_open {messages : List Bytes} {coming : Bytes} (valid : Valid layer.frames)
    (nothing : layer.unsealed.isEmpty = true)
    (opened : Open suite layer.frames.receiver messages
      (head layer.frames ++ wire.ahead stream ++ coming))
    (fed : stream.Fed coming) :
    ∃ outcome layer' wire' stream' messages',
      layer.unsealSome suite wire stream = (outcome, layer', wire', stream') ∧
      Finds (stream.whole coming) outcome layer'.unsealed.toBytes messages' ∧
      layer'.unsealed.toBytes ++ messages'.flatten = messages.flatten ∧ Valid layer'.frames ∧
      Open suite layer'.frames.receiver messages'
        (head layer'.frames ++ wire'.ahead stream' ++ coming) ∧
      wire.Advanced stream wire' stream' := by
  have none_unsealed := Buffer.toBytes_eq_nil nothing
  -- The induction is on the number of messages, of which an empty one is passed over.
  induction count : messages.length using Nat.strongRecOn
    generalizing messages layer wire stream with
  | _ count ih =>
    subst count
    obtain ⟨outcome, frames, wire', stream', later, read, next, valid', opened', advanced⟩ :=
      readFrame_open valid opened fed
    cases next with
    | waits missing =>
      refine ⟨_, _, _, _, messages, unsealSome_of_wait nothing read, ?_, ?_, valid', opened',
        advanced⟩
      · rw [none_unsealed]
        exact .waits missing
      · rw [none_unsealed]
        rfl
    | ends all =>
      refine ⟨_, _, _, _, [], unsealSome_of_stop nothing read, ?_, ?_, valid', opened', advanced⟩
      · rw [none_unsealed]
        exact .ends all
      · rw [none_unsealed]
        rfl
    | @message message =>
      by_cases empty : message = []
      · subst empty
        obtain ⟨outcome, layer', wire'', stream'', messages', unsealed, finds, octets, valid'',
          opened'', advanced'⟩ := @ih later.length (Nat.lt_succ_self _)
            { layer with frames, unsealed := .empty } wire' stream' later valid' rfl opened'
            (advanced.fed fed) rfl rfl
        rw [unsealSome_of_empty valid nothing read]
        rw [advanced.whole] at finds
        exact ⟨outcome, layer', wire'', stream'', messages', unsealed, finds, octets, valid'',
          opened'', advanced.trans advanced'⟩
      · refine ⟨_, _, _, _, later, unsealSome_of_message nothing read empty, ?_, ?_, valid',
          opened', advanced⟩
        · rw [Buffer.toBytes_ofBytes]
          exact .octets empty
        · rw [Buffer.toBytes_ofBytes]
          rfl

/-- What is unsealed already is found first. -/
theorem unsealSome_found {messages : List Bytes} {coming : Bytes} (valid : Valid layer.frames)
    (opened : Open suite layer.frames.receiver messages
      (head layer.frames ++ wire.ahead stream ++ coming))
    (fed : stream.Fed coming) :
    ∃ outcome layer' wire' stream' messages',
      layer.unsealSome suite wire stream = (outcome, layer', wire', stream') ∧
      Finds (stream.whole coming) outcome layer'.unsealed.toBytes messages' ∧
      layer'.unsealed.toBytes ++ messages'.flatten =
        layer.unsealed.toBytes ++ messages.flatten ∧ Valid layer'.frames ∧
      Open suite layer'.frames.receiver messages'
        (head layer'.frames ++ wire'.ahead stream' ++ coming) ∧
      wire.Advanced stream wire' stream' := by
  by_cases nothing : layer.unsealed.isEmpty = true
  · rw [Buffer.toBytes_eq_nil nothing]
    exact unsealSome_open valid nothing opened fed
  · exact ⟨_, layer, wire, stream, messages, unsealSome_of_unsealed nothing,
      .octets fun empty => nothing (Buffer.isEmpty_iff.2 empty), rfl, valid, opened, .refl ..⟩

end SecureLayer

/-! ## Draining -/

/-- A connection that is read, its stream, and the octets that have not arrived yet. -/
structure Inflow where
  /-- The connection. -/
  connection : Connection
  /-- The stream as far as it has arrived. -/
  stream : Stream
  /-- The octets that are still to come. -/
  coming : Bytes

/-- Something that happens to an inflow. -/
inductive Drawing where
  /-- So many more octets arrive. -/
  | arrives (count : Nat)
  /-- The end of the stream arrives, unless there are octets still to come. -/
  | ends
  /-- An octet is asked for. -/
  | byte
  /-- Octets are asked for, with room for at least one. -/
  | bytes (room : Nat) (some_room : room ≠ 0)

/-- What a call has drawn. Of a call for an octet these are the octets in its answer: one, or none
at the end of the stream. -/
structure Drawn where
  /-- The most octets that were asked for. -/
  room : Nat
  /-- What the call has come to. -/
  outcome : Outcome ConnectionError Bytes
  /-- Whether everything had arrived at that time. -/
  whole : Bool

namespace Inflow

/-- What is drawn when something happens, and what the inflow is then. -/
def step (suite : Suite) (inflow : Inflow) : Drawing → List Drawn × Inflow
  | .arrives count =>
    ([], { inflow with
      stream := inflow.stream.arrive (inflow.coming.take count)
      coming := inflow.coming.drop count })
  | .ends =>
    ([], if inflow.coming.isEmpty then { inflow with stream := inflow.stream.close .ended }
      else inflow)
  | .byte =>
    let (outcome, connection, stream) := inflow.connection.readByte suite inflow.stream
    ([⟨1, outcome.map Option.toList, inflow.stream.whole inflow.coming⟩],
      { inflow with connection, stream })
  | .bytes room _ =>
    let (outcome, connection, stream) := inflow.connection.readBytes suite room inflow.stream
    ([⟨room, outcome, inflow.stream.whole inflow.coming⟩], { inflow with connection, stream })

/-- What is drawn when one thing happens after the other. -/
def run (suite : Suite) : List Drawing → Inflow → List Drawn
  | [], _ => []
  | drawing :: drawings, inflow =>
    (inflow.step suite drawing).1 ++ run suite drawings (inflow.step suite drawing).2

/-- An inflow on an open secure connection that brings octets: the ones that are unsealed, and then
the ones of messages whose frames are in front of the reader or are still to come. -/
inductive Brings (suite : Suite) : Bytes → Inflow → Prop
  /-- The frames are the ones of ciphertexts that open one after the other. -/
  | intro {wire : Wire} {layer : SecureLayer} {address : Option Endpoint} {resolution : Resolution}
      {stream : Stream} {coming : Bytes} {messages : List Bytes} (valid : Valid layer.frames)
      (opened : Open suite layer.frames.receiver messages
        (head layer.frames ++ wire.ahead stream ++ coming))
      (fed : stream.Fed coming) :
      Brings suite (layer.unsealed.toBytes ++ messages.flatten)
        ⟨⟨some wire, .secure layer, address, resolution⟩, stream, coming⟩

end Inflow

/-- What a call draws from the octets that an inflow brings, and the ones that it brings then. -/
inductive Drawn.From : Drawn → Bytes → Bytes → Prop
  /-- Octets, no more than there is room for. -/
  | octets {room : Nat} {bytes later : Bytes} {whole : Bool} (some_octets : bytes ≠ [])
      (fit : bytes.length ≤ room) : From ⟨room, .done bytes, whole⟩ (bytes ++ later) later
  /-- The call waits, as not everything has arrived. -/
  | waits {room : Nat} {bytes : Bytes} : From ⟨room, .waiting, false⟩ bytes bytes
  /-- Nothing is left, and the end has arrived. -/
  | ends {room : Nat} : From ⟨room, .done [], true⟩ [] []

/-- At most one octet is in the answer to a call for one. -/
theorem Drawn.From.map_head? {outcome : Outcome ConnectionError Bytes} {whole : Bool}
    {bytes later : Bytes} (first : Drawn.From ⟨1, outcome, whole⟩ bytes later) :
    (outcome.map List.head?).map Option.toList = outcome := by
  cases first with
  | waits => rfl
  | ends => rfl
  | @octets _ drawn _ _ some_octets fit =>
    match drawn with
    | [octet] => rfl

/-- Calls that draw the octets of an inflow one after the other, and then find its end. -/
inductive Drains : Bytes → List Drawn → Prop
  /-- No call. -/
  | nil {bytes : Bytes} : Drains bytes []
  /-- A call, and then more of them. -/
  | cons {drawn : Drawn} {drawns : List Drawn} {bytes later : Bytes}
      (first : drawn.From bytes later) (others : Drains later drawns) :
      Drains bytes (drawn :: drawns)

namespace Inflow.Brings

variable {suite : Suite} {bytes : Bytes} {inflow : Inflow}

/-- A connection that was negotiated brings the messages whose frames are in front of it or are
still to come. -/
theorem negotiated {wire : Wire} {resolution : Resolution} {channel : Noise.Established}
    {remote : Endpoint} {stream : Stream} {coming : Bytes} {messages : List Bytes}
    (opened : Open suite channel.receiver messages (wire.ahead stream ++ coming))
    (fed : stream.Fed coming) :
    Brings suite messages.flatten
      ⟨.negotiated wire resolution (some channel) remote, stream, coming⟩ := by
  have valid : Valid ⟨channel.receiver, none⟩ := by rintro n ⟨⟩
  have brings := @intro suite wire (.new channel) (some remote) resolution stream coming messages
    valid opened fed
  rwa [SecureLayer.new, Buffer.toBytes_empty, List.nil_append] at brings

/-- More octets arrive. -/
theorem arrives (brings : inflow.Brings suite bytes) (count : Nat) :
    (inflow.step suite (.arrives count)).2.Brings suite bytes := by
  cases brings with
  | @intro wire layer address resolution stream coming messages valid opened fed =>
    refine .intro valid ?_ ⟨fed.free, fed.sound, fun ended => ?_⟩
    · rwa [Wire.ahead_arrive wire fed.free, List.append_assoc, List.append_assoc,
        List.take_append_drop, ← List.append_assoc]
    · rw [fed.last ended, List.drop_nil]

/-- The end arrives. -/
theorem ends (brings : inflow.Brings suite bytes) :
    (inflow.step suite .ends).2.Brings suite bytes := by
  cases brings with
  | @intro wire layer address resolution stream coming messages valid opened fed =>
    simp only [step]
    split_ifs with all_here
    · exact .intro valid opened ⟨fed.free, fed.sound, fun _ => List.isEmpty_iff.1 all_here⟩
    · exact .intro valid opened fed

/-- A call with room for octets draws from the ones that the inflow brings. -/
theorem readBytes (brings : inflow.Brings suite bytes) {room : Nat} (some_room : room ≠ 0) :
    ∃ outcome connection stream later,
      inflow.connection.readBytes suite room inflow.stream = (outcome, connection, stream) ∧
      Drawn.From ⟨room, outcome, inflow.stream.whole inflow.coming⟩ bytes later ∧
      Brings suite later ⟨connection, stream, inflow.coming⟩ ∧
      stream.whole inflow.coming = inflow.stream.whole inflow.coming := by
  cases brings with
  | @intro wire layer address resolution stream coming messages valid opened fed =>
    obtain ⟨outcome, layer', wire', stream', messages', unsealed, finds, octets, valid', opened',
      advanced⟩ := SecureLayer.unsealSome_found valid opened fed
    have fed' := advanced.fed fed
    rw [← octets]
    simp only [Connection.readBytes, if_neg some_room, unsealed]
    -- Whatever stays unsealed, the rest is still in the messages to come.
    have left (unsealed : Buffer) : Brings suite (unsealed.toBytes ++ messages'.flatten)
        ⟨⟨some wire', .secure { layer' with unsealed }, address, resolution⟩, stream', coming⟩ :=
      @intro suite wire' { layer' with unsealed } address resolution stream' coming messages' valid'
        opened' fed'
    generalize held : layer'.unsealed.toBytes = found at finds
    cases finds with
    | octets some_octets =>
      refine ⟨_, _, _, _, rfl, ?_, left (layer'.unsealed.drop room), advanced.whole⟩
      have drawn : found.take room ++
          ((layer'.unsealed.drop room).toBytes ++ messages'.flatten) =
            found ++ messages'.flatten := by
        rw [Buffer.toBytes_drop, ← List.append_assoc, held, List.take_append_drop]
      rw [← drawn, Buffer.take_eq, held]
      refine .octets ?_ (List.length_take_le ..)
      rw [Ne, List.take_eq_nil_iff, not_or]
      exact ⟨some_room, some_octets⟩
    | waits missing =>
      refine ⟨_, _, _, _, rfl, ?_, left layer'.unsealed, advanced.whole⟩
      rw [missing, held]
      exact .waits
    | ends all =>
      refine ⟨_, _, _, _, rfl, ?_, left (layer'.unsealed.drop room), advanced.whole⟩
      rw [all, Buffer.take_eq, Buffer.toBytes_drop, held, List.take_nil, List.drop_nil]
      exact .ends

/-- What happens draws from the octets that the inflow brings. -/
theorem step (brings : inflow.Brings suite bytes) (drawing : Drawing) :
    ∃ later, (inflow.step suite drawing).2.Brings suite later ∧
      ∀ drawns, Drains later drawns → Drains bytes ((inflow.step suite drawing).1 ++ drawns) := by
  cases drawing with
  | arrives count => exact ⟨bytes, brings.arrives count, fun _ => id⟩
  | ends => exact ⟨bytes, brings.ends, fun _ => id⟩
  | bytes room some_room =>
    obtain ⟨outcome, connection, stream, later, read, first, brings', -⟩ :=
      brings.readBytes some_room
    simp only [Inflow.step, read]
    exact ⟨later, brings', fun drawns others => .cons first others⟩
  | byte =>
    obtain ⟨outcome, connection, stream, later, read, first, brings', -⟩ :=
      brings.readBytes Nat.one_ne_zero
    simp only [Inflow.step, Connection.readByte, read, first.map_head?]
    exact ⟨later, brings', fun drawns others => .cons first others⟩

/-- A call notes whether everything has arrived, and what has arrived stays. -/
theorem whole_step (brings : inflow.Brings suite bytes) (drawing : Drawing) :
    (∀ drawn ∈ (inflow.step suite drawing).1,
        drawn.whole = inflow.stream.whole inflow.coming) ∧
      (inflow.stream.whole inflow.coming = true →
        (inflow.step suite drawing).2.stream.whole
          (inflow.step suite drawing).2.coming = true) := by
  cases drawing with
  | arrives count =>
    refine ⟨by rintro drawn ⟨⟩, fun all => ?_⟩
    obtain ⟨none_coming, ended⟩ := Bool.and_eq_true_iff.1 all
    rw [List.isEmpty_iff] at none_coming
    simp only [Inflow.step, none_coming, List.drop_nil]
    exact ended
  | ends =>
    refine ⟨by rintro drawn ⟨⟩, fun all => ?_⟩
    obtain ⟨none_coming, -⟩ := Bool.and_eq_true_iff.1 all
    rw [Inflow.step, if_pos none_coming]
    exact Bool.and_eq_true_iff.2 ⟨none_coming, rfl⟩
  | bytes room some_room =>
    obtain ⟨outcome, connection, stream, later, read, -, -, same⟩ := brings.readBytes some_room
    simp only [Inflow.step, read, same]
    exact ⟨List.forall_mem_singleton.2 rfl, id⟩
  | byte =>
    obtain ⟨outcome, connection, stream, later, read, -, -, same⟩ :=
      brings.readBytes Nat.one_ne_zero
    simp only [Inflow.step, Connection.readByte, read, same]
    exact ⟨List.forall_mem_singleton.2 rfl, id⟩

/-- When everything has arrived it has done so for every later call. -/
theorem whole_run (brings : inflow.Brings suite bytes)
    (all : inflow.stream.whole inflow.coming = true) (drawings : List Drawing) :
    ∀ drawn ∈ inflow.run suite drawings, drawn.whole = true := by
  induction drawings generalizing inflow bytes with
  | nil => rintro drawn ⟨⟩
  | cons drawing drawings ih =>
    obtain ⟨later, brings', -⟩ := brings.step drawing
    obtain ⟨noted, stays⟩ := brings.whole_step drawing
    exact List.forall_mem_append.2
      ⟨fun drawn mem => (noted drawn mem).trans all, ih brings' (stays all)⟩

/-- A call behind one for which everything had arrived has nothing more to wait for. -/
theorem pairwise_run (brings : inflow.Brings suite bytes) (drawings : List Drawing) :
    (inflow.run suite drawings).Pairwise fun earlier later =>
      earlier.whole = true → later.whole = true := by
  induction drawings generalizing inflow bytes with
  | nil => exact .nil
  | cons drawing drawings ih =>
    obtain ⟨later, brings', -⟩ := brings.step drawing
    obtain ⟨noted, stays⟩ := brings.whole_step drawing
    refine List.pairwise_append.2 ⟨?_, ih brings', fun drawn mem drawn' mem' all => ?_⟩
    · refine List.pairwise_of_forall_mem_list fun drawn mem drawn' mem' all => ?_
      rw [noted drawn' mem', ← noted drawn mem, all]
    · rw [noted drawn mem] at all
      exact brings'.whole_run (stays all) drawings drawn' mem'

end Inflow.Brings

/-- Calls that find nothing to draw when everything has arrived find the end. -/
theorem Drains.ends {drawns : List Drawn} (drains : Drains [] drawns)
    (all : ∀ drawn ∈ drawns, drawn.whole = true) : ∀ drawn ∈ drawns, drawn.outcome = .done [] := by
  generalize none_left : ([] : Bytes) = bytes at drains
  induction drains with
  | nil => rintro drawn ⟨⟩
  | cons first others ih =>
    obtain ⟨here, later⟩ := List.forall_mem_cons.1 all
    cases first with
    | octets some_octets fit =>
      exact absurd (List.append_eq_nil_iff.1 none_left.symm).1 some_octets
    | waits => cases here
    | ends => exact List.forall_mem_cons.2 ⟨rfl, ih later rfl⟩

/-- A call that finds the end is followed by no other ones than such. -/
theorem Drains.final {bytes : Bytes} {drawns : List Drawn} (drains : Drains bytes drawns)
    (stays : drawns.Pairwise fun earlier later => earlier.whole = true → later.whole = true) :
    drawns.Pairwise fun earlier later =>
      earlier.outcome = .done [] → later.outcome = .done [] := by
  induction drains with
  | nil => exact .nil
  | cons first others ih =>
    obtain ⟨behind, stays'⟩ := List.pairwise_cons.1 stays
    refine List.pairwise_cons.2 ⟨fun drawn mem found => ?_, ih stays'⟩
    cases first with
    | octets some_octets fit => exact absurd (Outcome.done.inj found) some_octets
    | waits => cases found
    | ends => exact others.ends (fun drawn mem => behind drawn mem rfl) drawn mem

/-- The octets that calls have drawn. -/
def drawnOctets : List Drawn → Bytes
  | [] => []
  | ⟨_, .done bytes, _⟩ :: drawns => bytes ++ drawnOctets drawns
  | _ :: drawns => drawnOctets drawns

/-- The number of calls that have not waited. -/
def answered : List Drawn → Nat
  | [] => 0
  | ⟨_, .waiting, _⟩ :: drawns => answered drawns
  | _ :: drawns => answered drawns + 1

/-- The octets that were drawn are the first ones, and every call that does not wait takes some of
them, unless one finds the end. -/
theorem Drains.exists_left {bytes : Bytes} {drawns : List Drawn} (drains : Drains bytes drawns) :
    ∃ left, bytes = drawnOctets drawns ++ left ∧
      (answered drawns + left.length ≤ bytes.length ∨
        left = [] ∧ ∃ drawn ∈ drawns, drawn.outcome = .done []) := by
  induction drains with
  | @nil bytes => exact ⟨bytes, rfl, .inl (Nat.le_of_eq (Nat.zero_add _))⟩
  | cons first others ih =>
    obtain ⟨left, octets, count⟩ := ih
    have behind {first : Drawn} {drawns : List Drawn} :
        (∃ drawn ∈ drawns, drawn.outcome = .done []) →
          ∃ drawn ∈ first :: drawns, drawn.outcome = .done [] :=
      fun ⟨drawn, mem, found⟩ => ⟨drawn, List.mem_cons_of_mem _ mem, found⟩
    cases first with
    | @octets _ bytes _ _ some_octets fit =>
      subst octets
      refine ⟨left, (List.append_assoc ..).symm, count.imp (fun le => ?_) (And.imp_right behind)⟩
      have positive := List.length_pos_iff.2 some_octets
      rw [answered, List.length_append]
      · omega
      · simp
    | waits => exact ⟨left, octets, count.imp id (And.imp_right behind)⟩
    | ends =>
      obtain ⟨nothing, rfl⟩ := List.append_eq_nil_iff.1 octets.symm
      exact ⟨[], octets, .inr ⟨rfl, _, List.mem_cons_self, rfl⟩⟩

namespace Inflow

/-- Reading octets from a secure connection draws the messages of its frames, however they arrive
and whichever of them are empty: each call gives octets until there are no more, or waits for
octets that have not arrived, and from then on finds the end. What has arrived as a whole stays so,
and behind a call that finds the end there are only calls that do. -/
theorem drains {suite : Suite} {bytes : Bytes} {inflow : Inflow}
    (brings : inflow.Brings suite bytes) (drawings : List Drawing) :
    Drains bytes (inflow.run suite drawings) ∧
      drawnOctets (inflow.run suite drawings) <+: bytes ∧
      (bytes.length ≤ answered (inflow.run suite drawings) →
        drawnOctets (inflow.run suite drawings) = bytes) ∧
      (bytes.length < answered (inflow.run suite drawings) →
        ∃ drawn ∈ inflow.run suite drawings, drawn.outcome = .done []) ∧
      (inflow.run suite drawings).Pairwise fun earlier later =>
        (earlier.whole = true → later.whole = true) ∧
          (earlier.outcome = .done [] → later.outcome = .done []) := by
  have drains : Drains bytes (inflow.run suite drawings) := by
    induction drawings generalizing inflow bytes with
    | nil => exact .nil
    | cons drawing drawings ih =>
      obtain ⟨later, brings', first⟩ := brings.step drawing
      exact first _ (ih brings')
  obtain ⟨left, octets, count⟩ := drains.exists_left
  have stays := brings.pairwise_run drawings
  refine ⟨drains, ⟨left, octets.symm⟩, fun enough => ?_, fun enough => ?_,
    stays.and (drains.final stays)⟩
  · have none_left : left = [] := by
      rcases count with le | ⟨none_left, -⟩
      · exact List.length_eq_zero_iff.1 (by omega)
      · exact none_left
    rw [none_left, List.append_nil] at octets
    exact octets.symm
  · rcases count with le | ⟨-, found⟩
    · omega
    · exact found

/-- A connection of the standard suite to which a stream gives octets one by one; all of them are
still to come, and most of the frames are empty. -/
def mostlyEmpty : Inflow where
  connection := .negotiated .new (.resolved [.secureChannel])
    (some ⟨.start (List.replicate 32 9), .start (List.replicate 32 7), .filled 5⟩)
    ⟨.v4 ⟨127, 0, 0, 1⟩, 4000⟩
  stream := ⟨{ Pipe.new with pace := fun _ => some 1 }, .new⟩
  coming := frames .standard (.start (List.replicate 32 7)) [[], [104], [], [], [105, 33], []]

/-- Calls while the frames arrive in two pieces, and then the end. -/
theorem drains_of_mostlyEmpty : mostlyEmpty.Brings .standard [104, 105, 33] ∧
    Drains [104, 105, 33] (mostlyEmpty.run .standard
      [.arrives 20, .byte, .arrives 100, .bytes 5 (by decide), .bytes 5 (by decide), .byte, .ends,
        .byte]) := by
  have fit : ∀ message ∈ ([[], [104], [], [], [105, 33], []] : List Bytes),
      message.length ≤ maxPayload := by
    decide
  have fed : mostlyEmpty.stream.Fed mostlyEmpty.coming := ⟨rfl, rfl, by rintro ⟨⟩⟩
  have opened := open_frames Suite.opens_standard (.start (List.replicate 32 7)) fit
  have brings : mostlyEmpty.Brings .standard (List.flatten [[], [104], [], [], [105, 33], []]) :=
    .negotiated opened fed
  exact ⟨brings, (drains brings _).1⟩

end Inflow

end PeerLink
