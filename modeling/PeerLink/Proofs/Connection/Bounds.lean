import PeerLink.Proofs.Framing.Bounds

/-!
# Reading octets stays in bounds

A reader of octets brings a place for a number of them. What is buffered is moved to the front of
the place, and the stream fills what is behind it; either would go wrong with more octets than there
is room for. Here the reading operations stand a second time with all of that checked, and are
proved to be the operations themselves. An operation that waits is run again with what it has
received before: `Received` has everything that this can be.
-/

namespace PeerLink

/-- A read gives no more octets than it is asked for. -/
theorem Stream.length_le_of_read {n : Nat} {stream stream' : Stream} {bytes : Bytes}
    (read : stream.read n = (.data bytes, stream')) : bytes.length ≤ n := by
  rw [Stream.read, Pipe.read] at read
  have asked : stream.inbound.readable n ≤ n :=
    Nat.le_trans (Nat.min_le_right _ _) (Pipe.atMost_le _ n)
  by_cases some_there : 0 < stream.inbound.readable n
  · simp only [if_pos some_there, Prod.mk.injEq, ReadResult.data.injEq] at read
    rw [← read.1, Buffer.take_eq]
    exact Nat.le_trans (List.length_take_le _ _) asked
  · simp only [if_neg some_there, Prod.mk.injEq] at read
    split_ifs at read <;> simp at read

namespace Wire

/-- `readSome` with everything checked. -/
def readSomeChecked (n : Nat) (wire : Wire) (stream : Stream) :
    Option (Outcome IoError Bytes × Wire × Stream) :=
  if wire.readAhead.isEmpty then some (wire.readSome n stream)
  else do
    let (bytes, readAhead) ← wire.readAhead.move? n
    some (.done bytes, { wire with readAhead }, stream)

/-- `readExactly` with everything checked: that what was received before leaves room, that what was
read ahead fits there, and that this leaves the room that the stream is to fill. -/
def readExactlyChecked (n : Nat) (received : Buffer) (wire : Wire) (stream : Stream) :
    Option (Outcome IoError Bytes × Buffer × Wire × Stream) := do
  let room ← n.psub received.size
  let (ahead, readAhead) ← wire.readAhead.move? room
  let received := received.append ahead
  let _left ← n.psub received.size
  some (readExactly.fromStream n received { wire with readAhead } stream)

/-- To read some octets never goes wrong. -/
theorem readSomeChecked_eq (n : Nat) (wire : Wire) (stream : Stream) :
    wire.readSomeChecked n stream = some (wire.readSome n stream) := by
  rw [readSomeChecked]
  split
  · rfl
  · rename_i buffered
    rw [Buffer.move?_eq, readSome, if_neg buffered]
    rfl

/-- A read of some octets gives no more than it is asked for. -/
theorem length_le_of_readSome {n : Nat} {wire wire' : Wire} {stream stream' : Stream}
    {bytes : Bytes} (read : wire.readSome n stream = (.done bytes, wire', stream')) :
    bytes.length ≤ n := by
  rw [readSome] at read
  split_ifs at read
  · rcases from_stream : stream.read n with ⟨octets | _ | _ | _, stream''⟩
    all_goals simp only [from_stream, Prod.mk.injEq, Outcome.done.injEq, reduceCtorEq] at read
    · rw [← read.1]
      exact Stream.length_le_of_read from_stream
    · rw [← read.1]
      exact Nat.zero_le n
    · exact absurd read.1 id
    · exact absurd read.1 id
  · simp only [Prod.mk.injEq, Outcome.done.injEq] at read
    rw [← read.1, Buffer.take_eq]
    exact List.length_take_le _ _

/-- What may be received of a message of `n` octets before it is complete: nothing, or what a read
that had to wait has left, over whichever wire and stream. -/
inductive Received (n : Nat) : Buffer → Prop
  /-- Nothing was read. -/
  | nothing : Received n .empty
  /-- A read has to wait. -/
  | more {received received' : Buffer} {wire wire' : Wire} {stream stream' : Stream}
      (before : Received n received)
      (waits : wire.readExactly n received stream = (.waiting, received', wire', stream')) :
      Received n received'

variable {n : Nat} {received received' : Buffer} {wire wire' : Wire} {stream stream' : Stream}

/-- What a read that has to wait leaves is a part of the message. -/
theorem size_le_of_readExactly_waiting (le : received.size ≤ n)
    (waits : wire.readExactly n received stream = (.waiting, received', wire', stream')) :
    received'.size ≤ n := by
  by_cases enough : n ≤ received.size + (wire.ahead stream).length
  · obtain ⟨_, _, _, done, -⟩ := readExactly_done le enough
    rw [waits] at done
    cases done
  · obtain ⟨_, _, _, short, received_eq, -⟩ := readExactly_short (Nat.not_le.1 enough)
    rw [waits] at short
    simp only [Prod.mk.injEq] at short
    rw [Buffer.size_eq_length, short.2.1, received_eq, List.length_append,
      ← Buffer.size_eq_length]
    omega

/-- What was received is a part of the message, however often the read had to wait. -/
theorem Received.size_le (before : Received n received) : received.size ≤ n := by
  induction before with
  | nothing => exact Nat.zero_le n
  | more before waits ih => exact size_le_of_readExactly_waiting ih waits

/-- To read a message never goes wrong if a part of it was received before. -/
theorem readExactlyChecked_eq (le : received.size ≤ n) (wire : Wire) (stream : Stream) :
    wire.readExactlyChecked n received stream = some (wire.readExactly n received stream) := by
  have fits : (received.append (wire.readAhead.take (n - received.size))).size ≤ n := by
    rw [Buffer.size_eq_length, Buffer.toBytes_append, List.length_append, Buffer.take_eq,
      List.length_take, ← Buffer.size_eq_length]
    omega
  have dropped : wire.readAhead.drop (wire.readAhead.take (n - received.size)).length =
      wire.readAhead.drop (n - received.size) := by
    rw [Buffer.take_eq, List.length_take, ← Buffer.size_eq_length, Buffer.drop_min]
  rw [readExactlyChecked, Nat.psub_eq_sub le]
  simp only [Option.bind_eq_bind, Option.bind_some, Buffer.move?_eq, Nat.psub_eq_sub fits,
    readExactly, dropped]

/-- A message that is read has as many octets as were asked for. -/
theorem length_of_readExactly {message : Bytes} (le : received.size ≤ n)
    (read : wire.readExactly n received stream = (.done message, received', wire', stream')) :
    message.length = n := by
  by_cases enough : n ≤ received.size + (wire.ahead stream).length
  · obtain ⟨_, _, _, done, -⟩ := readExactly_done le enough
    rw [read] at done
    simp only [Prod.mk.injEq, Outcome.done.injEq] at done
    rw [done.1]
    exact List.length_take_of_le (by rwa [List.length_append, ← Buffer.size_eq_length])
  · obtain ⟨_, _, _, short, -⟩ := readExactly_short (Nat.not_le.1 enough)
    rw [read] at short
    simp only [Prod.mk.injEq] at short
    cases behind : stream.inbound.verge
    all_goals
      rw [behind] at short
      cases short.1

/-- The reads of a wire do nothing that goes wrong, and bring no more octets than there is room
for. -/
structure InBounds (n : Nat) (wire : Wire) (stream : Stream) : Prop where
  /-- Nothing goes wrong in a read of some octets. -/
  some_read : wire.readSomeChecked n stream = some (wire.readSome n stream)
  /-- A read of some octets brings no more than there is room for. -/
  some_fit : ∀ bytes wire' stream', wire.readSome n stream = (.done bytes, wire', stream') →
    bytes.length ≤ n
  /-- Nothing goes wrong in a read of a whole message, the first time and when it is run again. -/
  all_read : ∀ received, Received n received →
    wire.readExactlyChecked n received stream = some (wire.readExactly n received stream)
  /-- A read of a whole message leaves no room. -/
  all_fit : ∀ received, Received n received → ∀ message received' wire' stream',
    wire.readExactly n received stream = (.done message, received', wire', stream') →
      message.length = n

/-- The reads of a wire stay in bounds. -/
theorem inBounds (n : Nat) (wire : Wire) (stream : Stream) : InBounds n wire stream where
  some_read := wire.readSomeChecked_eq n stream
  some_fit := fun _ _ _ => length_le_of_readSome
  all_read := fun _ before => readExactlyChecked_eq before.size_le wire stream
  all_fit := fun _ before _ _ _ _ => length_of_readExactly before.size_le

end Wire

namespace Connection

/-- `readBytes` with everything checked. -/
def readBytesChecked (suite : Suite) (n : Nat) (connection : Connection) (stream : Stream) :
    Option (Outcome ConnectionError Bytes × Connection × Stream) :=
  match connection.wire with
  | none => some (.failed .closed, connection, stream)
  | some wire =>
    if n = 0 then some (.done [], connection, stream)
    else
      match connection.channel with
      | .bare _ => do
        let (result, wire, stream) ← wire.readSomeChecked n stream
        some (result.mapError .io, { connection with wire := some wire }, stream)
      | .secure layer =>
        match layer.unsealSome suite wire stream with
        | (.failed e, layer, wire, stream) =>
          some (.failed e, { connection with wire := some wire, channel := .secure layer }, stream)
        | (.waiting, layer, wire, stream) =>
          some (.waiting, { connection with wire := some wire, channel := .secure layer }, stream)
        | (.done _, layer, wire, stream) => do
          let (bytes, unsealed) ← layer.unsealed.move? n
          let layer := { layer with unsealed }
          some (.done bytes, { connection with wire := some wire, channel := .secure layer },
            stream)

/-- To read octets from a connection never goes wrong. -/
theorem readBytesChecked_eq (suite : Suite) (n : Nat) (connection : Connection) (stream : Stream) :
    connection.readBytesChecked suite n stream = some (connection.readBytes suite n stream) := by
  rw [readBytesChecked, readBytes]
  cases connection.wire with
  | none => rfl
  | some wire =>
    by_cases none_asked : n = 0
    · simp only [if_pos none_asked]
    · simp only [if_neg none_asked]
      cases connection.channel with
      | bare frames =>
        simp only [Wire.readSomeChecked_eq]
        rfl
      | secure layer =>
        rcases unsealing : layer.unsealSome suite wire stream with
          ⟨_ | _ | _, layer', wire', stream'⟩
        all_goals simp only [unsealing, Buffer.move?_eq]
        rfl

/-- A read of a connection gives no more octets than it is asked for. -/
theorem length_le_of_readBytes {suite : Suite} {n : Nat} {connection connection' : Connection}
    {stream stream' : Stream} {bytes : Bytes}
    (read : connection.readBytes suite n stream = (.done bytes, connection', stream')) :
    bytes.length ≤ n := by
  rw [readBytes] at read
  cases wired : connection.wire with
  | none => simp [wired] at read
  | some wire =>
    simp only [wired] at read
    split_ifs at read
    · simp only [Prod.mk.injEq, Outcome.done.injEq] at read
      rw [← read.1]
      exact Nat.zero_le n
    · cases layered : connection.channel with
      | bare frames =>
        simp only [layered] at read
        rcases some_read : wire.readSome n stream with ⟨octets | _ | _, wire', stream''⟩
        all_goals simp only [some_read, Outcome.mapError, Prod.mk.injEq, reduceCtorEq] at read
        · simp only [Outcome.done.injEq] at read
          rw [← read.1]
          exact Wire.length_le_of_readSome some_read
        · exact absurd read.1 id
        · exact absurd read.1 id
      | secure layer =>
        simp only [layered] at read
        rcases unsealing : layer.unsealSome suite wire stream with
          ⟨_ | _ | _, layer', wire', stream''⟩
        all_goals simp only [unsealing, Prod.mk.injEq, reduceCtorEq] at read
        · simp only [Outcome.done.injEq] at read
          rw [← read.1, Buffer.take_eq]
          exact List.length_take_le _ _
        · exact absurd read.1 id
        · exact absurd read.1 id

/-- The reads of octets from a connection do nothing that goes wrong, and bring no more octets than
there is room for. -/
structure InBounds (suite : Suite) (n : Nat) (connection : Connection) (stream : Stream) :
    Prop where
  /-- Nothing goes wrong in a read. -/
  read : connection.readBytesChecked suite n stream = some (connection.readBytes suite n stream)
  /-- A read brings no more octets than there is room for. -/
  fit : ∀ bytes connection' stream',
    connection.readBytes suite n stream = (.done bytes, connection', stream') → bytes.length ≤ n

/-- The reads of octets from a connection stay in bounds. -/
theorem inBounds (suite : Suite) (n : Nat) (connection : Connection) (stream : Stream) :
    InBounds suite n connection stream where
  read := connection.readBytesChecked_eq suite n stream
  fit := fun _ _ _ => length_le_of_readBytes

end Connection

end PeerLink
