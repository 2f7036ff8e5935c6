import Mathlib.Data.Nat.PSub
import PeerLink.Connection
import PeerLink.Proofs.Framing.Sealed

/-!
# The arithmetic of frames stays in bounds

To cut a frame from a buffer means to subtract, to split and to write a length in two octets. Each
of these goes wrong on some numbers: a difference may be negative, a place may be behind the end of
the buffer, a length may be too large for its octets. This module has the operations on frames a
second time, with all of that checked: they give nothing at all where something goes wrong.

A decoder is fed and asked to cut in any order, and goes on after faults. `Call` is what can be done
to it, and what a single cut needs is that a remembered length is the one of a frame
(`inBounds_of_valid`). Every call keeps that (`valid_call`), and so do all calls one after the other
(`valid_run`).
-/

namespace PeerLink

/-- The octets of a number, if it is not too large for them. -/
def Bytes.ofNatBE? (width n : Nat) : Option Bytes :=
  if n < Nat.pow 256 width then some (ofNatBE width n) else none

namespace Buffer

/-- The first `n` octets and the buffer behind them, if there are as many. -/
def split? (n : Nat) (buffer : Buffer) : Option (Bytes × Buffer) :=
  if n ≤ buffer.size then some (buffer.take n, buffer.drop n) else none

/-- Moves octets to a place for `room` of them, as many as there are and as fit. -/
def move? (room : Nat) (buffer : Buffer) : Option (Bytes × Buffer) := do
  let n := min room buffer.size
  let _left ← room.psub n
  buffer.split? n

/-- A buffer that is long enough is split. -/
theorem split?_eq {n : Nat} {buffer : Buffer} (h : n ≤ buffer.size) :
    buffer.split? n = some (buffer.take n, buffer.drop n) :=
  if_pos h

/-- No more octets are dropped than there are. -/
theorem drop_min (n : Nat) (buffer : Buffer) :
    buffer.drop (min n buffer.size) = buffer.drop n := by
  rcases Nat.le_total n buffer.size with le | le
  · rw [Nat.min_eq_left le]
  · rw [Nat.min_eq_right le, drop, drop, if_pos (Nat.le_refl _), if_pos le]

/-- To move octets never goes wrong. -/
theorem move?_eq (room : Nat) (buffer : Buffer) :
    buffer.move? room = some (buffer.take room, buffer.drop room) := by
  rw [move?, Nat.psub_eq_sub (Nat.min_le_left _ _), split?_eq (Nat.min_le_right _ _), drop_min,
    take_eq, take_eq, size_eq_length, ← List.take_eq_take_min]
  rfl

end Buffer

/-! ## Sealed frames -/

namespace SealedFrames

/-- `cutBody` with everything checked: that the octets of the message are there, and that they are
not fewer than the ones of the tag. -/
def cutBodyChecked (suite : Suite) (receiver : Sealing) (n : Nat) (buffer : Buffer) :
    Option (Except Error (Option Bytes) × State × Buffer) :=
  if buffer.size < n then some (.ok none, ⟨receiver, some n⟩, buffer)
  else do
    let (message, rest) ← buffer.split? n
    let _payload ← n.psub Suite.tagSize
    match receiver.unsealMessage suite message with
    | (.error e, receiver) => some (.error (.sealing e), ⟨receiver, some n⟩, rest)
    | (.ok text, receiver) => some (.ok (some text), ⟨receiver, none⟩, rest)

/-- `cut` with everything checked. -/
def cutChecked (suite : Suite) (state : State) (buffer : Buffer) :
    Option (Except Error (Option Bytes) × State × Buffer) :=
  match state.expected with
  | some n => cutBodyChecked suite state.receiver n buffer
  | none =>
    if buffer.size < headSize then some (.ok none, state, buffer)
    else do
      let (octets, buffer) ← buffer.split? headSize
      let n := Bytes.toNatBE octets
      if minSize ≤ n ∧ n ≤ maxSize then cutBodyChecked suite state.receiver n buffer
      else some (.error (.sealing (.invalidLength n)), state, buffer)

/-- `cutLast` with everything checked. -/
def cutLastChecked (suite : Suite) (state : State) (buffer : Buffer) :
    Option (Except Error (Option Bytes) × State × Buffer) := do
  match ← cutChecked suite state buffer with
  | (.ok none, state, buffer) =>
    if buffer.isEmpty && state.expected.isNone then some (.ok none, state, buffer)
    else
      some (.error (.io (.unexpectedEof "stream closed in the middle of a sealed frame")), state,
        buffer)
  | result => some result

/-- `encode?` with everything checked: that the length of a message that fits a frame fits two
octets. -/
def encodeChecked (suite : Suite) (sender : Sealing) (message : Bytes) :
    Option (Option (Bytes × Sealing)) :=
  if message.length ≤ maxPayload then do
    let (sealed, sender) := sender.sealMessage suite message
    let octets ← Bytes.ofNatBE? headSize (message.length + Suite.tagSize)
    some (some (octets ++ sealed, sender))
  else some none

variable (suite : Suite)

/-- Nothing goes wrong behind a length that is not smaller than the tag. -/
theorem cutBodyChecked_eq (receiver : Sealing) {n : Nat} (least : minSize ≤ n) (buffer : Buffer) :
    cutBodyChecked suite receiver n buffer = some (cutBody suite receiver n buffer) := by
  rw [cutBodyChecked, cutBody]
  split
  · rfl
  · rename_i enough
    have tag : Suite.tagSize ≤ n := least
    rw [Buffer.split?_eq (Nat.not_lt.1 enough), Nat.psub_eq_sub tag]
    simp only [Option.bind_eq_bind, Option.bind_some]
    rcases receiver.unsealMessage suite (buffer.take n) with ⟨_ | _, _⟩ <;> rfl

/-- Nothing goes wrong in a cut if a remembered length is the one of a frame. -/
theorem cutChecked_eq {state : State} (valid : Valid state) (buffer : Buffer) :
    cutChecked suite state buffer = some (cut suite state buffer) := by
  obtain ⟨receiver, expected⟩ := state
  cases expected with
  | some n => exact cutBodyChecked_eq suite receiver (valid n rfl).1 buffer
  | none =>
    simp only [cutChecked, cut]
    split
    · rfl
    · rename_i enough
      rw [Buffer.split?_eq (Nat.not_lt.1 enough)]
      simp only [Option.bind_eq_bind, Option.bind_some]
      split
      · rename_i acceptable
        exact cutBodyChecked_eq suite receiver acceptable.1 _
      · rfl

/-- Nothing goes wrong at the end of the stream if a remembered length is the one of a frame. -/
theorem cutLastChecked_eq {state : State} (valid : Valid state) (buffer : Buffer) :
    cutLastChecked suite state buffer = some (cutLast suite state buffer) := by
  rw [cutLastChecked, cutChecked_eq suite valid, cutLast]
  rcases cut suite state buffer with ⟨_ | _ | _, state', rest⟩
  · rfl
  · simp only [Option.bind_eq_bind, Option.bind_some]
    split <;> rfl
  · rfl

/-- The length of a message that fits a frame fits two octets. -/
theorem encodeChecked_eq (sender : Sealing) (message : Bytes) :
    encodeChecked suite sender message = some (encode? suite sender message) := by
  rw [encodeChecked, encode?]
  split
  · rename_i fits
    have width : maxPayload + Suite.tagSize < Nat.pow 256 headSize := by decide
    have small : message.length + Suite.tagSize < Nat.pow 256 headSize := by omega
    rw [Bytes.ofNatBE?, if_pos small]
    rfl
  · rfl

/-! ### What a cut takes -/

/-- What a cut takes from a buffer, what it gives, and the length that is remembered behind it. -/
inductive Takes (state : State) : Bytes → Except Error (Option Bytes) → Option Nat → Prop
  /-- Nothing is complete, and nothing changes. -/
  | nothing : Takes state [] (.ok none) state.expected
  /-- The length of a frame is complete. -/
  | head {n : Nat} (fresh : state.expected = none) (least : minSize ≤ n) (le : n ≤ maxSize) :
      Takes state (Bytes.ofNatBE headSize n) (.ok none) (some n)
  /-- No frame has the length: the octets of the length are gone, and no others. -/
  | refused {n : Nat} (fresh : state.expected = none) (wrong : n < minSize ∨ maxSize < n) :
      Takes state (Bytes.ofNatBE headSize n) (.error (.sealing (.invalidLength n))) none
  /-- A frame is complete, and its message opens. -/
  | opened {taken ciphertext text : Bytes} (whole : head state ++ taken = frameOf ciphertext)
      (acceptable : Acceptable ciphertext) : Takes state taken (.ok (some text)) none
  /-- A frame is complete, and its message does not open: the frame is gone, and its length is
  remembered. -/
  | forged {taken ciphertext : Bytes} (whole : head state ++ taken = frameOf ciphertext)
      (acceptable : Acceptable ciphertext) :
      Takes state taken (.error (.sealing .notAuthentic)) (some ciphertext.length)

/-- The length of the frame that a decoder is at, if it is known: it is remembered, or its octets
are the first ones. -/
def length? (state : State) (bytes : Bytes) : Option Nat :=
  match state.expected with
  | some n => some n
  | none =>
    if bytes.length < headSize then none else some (Bytes.toNatBE (bytes.take headSize))

/-- The most octets that a cut may take: the ones of the frame that the decoder is at. -/
def allowance (state : State) (bytes : Bytes) : Nat :=
  match length? state bytes with
  | none => 0
  | some n => n + headSize

/-- What unsealing a complete frame takes, whether its message opens or not. -/
theorem takes_unsealed {state : State} {taken ciphertext : Bytes}
    (whole : head state ++ taken = frameOf ciphertext) (acceptable : Acceptable ciphertext)
    (receiver : Sealing) :
    Takes state taken (unsealed suite receiver ciphertext).1
      (unsealed suite receiver ciphertext).2.expected := by
  rw [unsealed, Sealing.unsealMessage]
  cases suite.decrypt? receiver.key receiver.counter [] ciphertext with
  | none => exact .forged whole acceptable
  | some text => exact .opened whole acceptable

/-- What a cut takes is in front of what it leaves. -/
theorem takes_cutBytes {state : State} (valid : Valid state) (bytes : Bytes) :
    ∃ taken, bytes = taken ++ ((framing suite).cutBytes state bytes).2.2 ∧
      Takes state taken ((framing suite).cutBytes state bytes).1
        ((framing suite).cutBytes state bytes).2.1.expected ∧
      taken.length ≤ allowance state bytes := by
  obtain ⟨receiver, expected⟩ := state
  cases expected with
  | some n =>
    rw [cutBytes_some]
    -- Behind a length nothing or the whole message is taken.
    split_ifs with short
    · exact ⟨[], rfl, .nothing, Nat.zero_le _⟩
    · have length : (bytes.take n).length = n := List.length_take_of_le (Nat.not_lt.1 short)
      refine ⟨bytes.take n, (List.take_append_drop n bytes).symm,
        takes_unsealed suite ?_ ?_ receiver, ?_⟩
      · rw [head, frameOf, length]
      · rw [Acceptable, length]
        exact valid n rfl
      · rw [length]
        exact Nat.le_add_right n headSize
  | none =>
    rw [cutBytes_none]
    split_ifs with short acceptable
    · exact ⟨[], rfl, .nothing, Nat.zero_le _⟩
    -- From here on the length is known, and its octets are the first ones that are taken.
    all_goals
      have width : (bytes.take headSize).length = headSize :=
        List.length_take_of_le (Nat.not_lt.1 short)
      have allowed : allowance ⟨receiver, none⟩ bytes =
          Bytes.toNatBE (bytes.take headSize) + headSize := by
        rw [allowance, length?, if_neg short]
      have octets := Bytes.ofNatBE_toNatBE width
      set n := Bytes.toNatBE (bytes.take headSize)
    · rw [cutBytes_some]
      split_ifs with incomplete
      · refine ⟨bytes.take headSize, (List.take_append_drop _ _).symm, ?_, by omega⟩
        rw [← octets]
        exact .head rfl acceptable.1 acceptable.2
      · have length : ((bytes.drop headSize).take n).length = n :=
          List.length_take_of_le (Nat.not_lt.1 incomplete)
        refine ⟨bytes.take headSize ++ (bytes.drop headSize).take n, ?_,
          takes_unsealed suite ?_ ?_ receiver, ?_⟩
        · rw [List.append_assoc, List.take_append_drop, List.take_append_drop]
        · rw [head, frameOf, length, octets, List.nil_append]
        · rwa [Acceptable, length]
        · rw [List.length_append, length]
          omega
    · refine ⟨bytes.take headSize, (List.take_append_drop _ _).symm, ?_, by omega⟩
      rw [← octets]
      exact .refused rfl (by omega)

/-! ### Calls of a decoder -/

/-- A decoder with a buffer does nothing that goes wrong, and no cut takes more than it may. -/
structure InBounds (state : State) (buffer : Buffer) : Prop where
  /-- A remembered length is the one of a frame. -/
  remembered : ∀ n, state.expected = some n → 16 ≤ n ∧ n ≤ 65533
  /-- Nothing goes wrong in a cut. -/
  cut : cutChecked suite state buffer = some (cut suite state buffer)
  /-- Nothing goes wrong in a cut at the end of the stream. -/
  cutLast : cutLastChecked suite state buffer = some (cutLast suite state buffer)
  /-- A cut takes octets of the frame that the decoder is at, and no others. -/
  takes : ∃ taken, buffer.toBytes = taken ++ (SealedFrames.cut suite state buffer).2.2.toBytes ∧
    Takes state taken (SealedFrames.cut suite state buffer).1
      (SealedFrames.cut suite state buffer).2.1.expected ∧
    taken.length ≤ allowance state buffer.toBytes
  /-- A cut at the end of the stream takes the same as any other, and remembers the same. -/
  last : (SealedFrames.cutLast suite state buffer).2 = (SealedFrames.cut suite state buffer).2
  /-- What a cut at the end of the stream gives, any other gives. -/
  given : ∀ message, (SealedFrames.cutLast suite state buffer).1 = .ok message →
    (SealedFrames.cut suite state buffer).1 = .ok message

/-- The end of the stream makes no other difference than that nothing more is waited for. -/
theorem cutLast_cases (state : State) (buffer : Buffer) :
    (cutLast suite state buffer).2 = (cut suite state buffer).2 ∧
      ∀ message, (cutLast suite state buffer).1 = .ok message →
        (cut suite state buffer).1 = .ok message := by
  rw [cutLast]
  rcases cut suite state buffer with ⟨_ | _ | _, state', rest⟩
  · exact ⟨rfl, fun _ => id⟩
  · dsimp only
    split_ifs
    · exact ⟨rfl, fun _ => id⟩
    · exact ⟨rfl, by simp⟩
  · exact ⟨rfl, fun _ => id⟩

/-- All that a decoder needs is that a remembered length is the one of a frame. -/
theorem inBounds_of_valid {state : State} (valid : Valid state) (buffer : Buffer) :
    InBounds suite state buffer := by
  have view := (incremental suite).view_cut state buffer
  obtain ⟨last, given⟩ := cutLast_cases suite state buffer
  refine ⟨valid, cutChecked_eq suite valid buffer, cutLastChecked_eq suite valid buffer, ?_, last,
    given⟩
  have taken := takes_cutBytes suite valid buffer.toBytes
  rwa [← view] at taken

/-- What is done to a decoder. -/
inductive Call where
  /-- More octets arrive. -/
  | feed (bytes : Bytes)
  /-- The decoder is asked for the next frame. -/
  | cut
  /-- The decoder is asked for the next frame at the end of the stream. -/
  | cutLast

/-- The decoder and its buffer behind a call, whatever the call has given. -/
def Call.run (suite : Suite) : State × Buffer → Call → State × Buffer
  | (state, buffer), .feed bytes => (state, buffer.append bytes)
  | (state, buffer), .cut => (SealedFrames.cut suite state buffer).2
  | (state, buffer), .cutLast => (SealedFrames.cutLast suite state buffer).2

/-- A decoder and its buffer behind calls one after the other. -/
def run (suite : Suite) (decoder : State × Buffer) (calls : List Call) : State × Buffer :=
  calls.foldl (Call.run suite) decoder

variable {suite}

/-- A call remembers no other lengths than ones of frames. -/
theorem valid_call {decoder : State × Buffer} (valid : Valid decoder.1) (call : Call) :
    Valid (call.run suite decoder).1 := by
  obtain ⟨state, buffer⟩ := decoder
  have kept : Valid (cut suite state buffer).2.1 := by
    have view := congrArg (·.2.1) ((incremental suite).view_cut state buffer)
    change (cut suite state buffer).2.1 = _ at view
    rw [view]
    exact valid_of_cutBytes valid rfl
  cases call with
  | feed bytes => exact valid
  | cut => exact kept
  | cutLast =>
    rw [Call.run, state_cutLast]
    exact kept

/-- A decoder remembers no other lengths than ones of frames, whatever is done to it. -/
theorem valid_run {decoder : State × Buffer} (valid : Valid decoder.1) (calls : List Call) :
    Valid (run suite decoder calls).1 := by
  induction calls generalizing decoder with
  | nil => exact valid
  | cons call calls ih => exact ih (valid_call valid call)

/-! ### What is encoded -/

/-- The frame of a message: its length is one of a frame and is read back from its two octets, and
whoever cuts the frame takes all of it and does not complain about the length. -/
structure Encoded (message frame : Bytes) : Prop where
  /-- The length is one of a frame. -/
  acceptable : 16 ≤ message.length + 16 ∧ message.length + 16 ≤ 65533
  /-- The length is written in full. -/
  written : Bytes.toNatBE (frame.take 2) = message.length + 16
  /-- As many octets as the length says are behind it. -/
  size : frame.length = 2 + (message.length + 16)
  /-- A decoder takes the frame, whoever has sealed its message. -/
  accepted : ∀ (suite : Suite) (receiver : Sealing) (rest : Bytes),
    ∃ result state, (framing suite).cutBytes ⟨receiver, none⟩ (frame ++ rest) =
      (result, state, rest) ∧ ∀ n, result ≠ .error (.sealing (.invalidLength n))

/-- No unsealing complains about the length. -/
theorem unsealed_ne_invalidLength (suite : Suite) (receiver : Sealing) (message : Bytes) (n : Nat) :
    (unsealed suite receiver message).1 ≠ .error (.sealing (.invalidLength n)) := by
  rw [unsealed, Sealing.unsealMessage]
  cases suite.decrypt? receiver.key receiver.counter [] message <;> simp

/-- A message that fits a frame has one that every decoder takes. -/
theorem encoded_of_encode? {sender sender' : Sealing} {message frame : Bytes}
    (h : encode? suite sender message = some (frame, sender')) : Encoded message frame := by
  rw [encode?_eq] at h
  split_ifs at h with fits
  simp only [Option.some.injEq, Prod.mk.injEq] at h
  obtain ⟨rfl, -⟩ := h
  have payload : maxPayload + Suite.tagSize = maxSize := rfl
  have length := length_sealMessage suite sender message
  have small : message.length + Suite.tagSize ≤ maxSize := by omega
  have width : (Bytes.ofNatBE headSize (message.length + Suite.tagSize)).length = headSize :=
    Bytes.length_ofNatBE _ _
  refine ⟨⟨Nat.le_add_left _ _, small⟩, ?_, ?_, fun suite' receiver rest => ?_⟩
  · change Bytes.toNatBE ((SealedFrames.frame suite sender message).take headSize) = _
    rw [SealedFrames.frame, List.take_left' width]
    exact toNatBE_headSize small
  · rw [SealedFrames.frame, List.length_append, width, length]
    rfl
  · -- A decoder reads the length, and finds as many octets behind it.
    have valid : Valid ⟨receiver, some (message.length + Suite.tagSize)⟩ := by
      rintro _ ⟨⟩
      exact ⟨Nat.le_add_left _ _, small⟩
    have cut := cutBytes_none_head suite' valid ((sender.sealMessage suite message).1 ++ rest)
    rw [cutBytes_some, if_neg (by rw [List.length_append]; omega), List.take_left' length,
      List.drop_left' length] at cut
    rw [SealedFrames.frame, List.append_assoc]
    exact ⟨_, _, cut, unsealed_ne_invalidLength suite' receiver _⟩

end SealedFrames

end PeerLink
