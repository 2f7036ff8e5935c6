import PeerLink.Framing.Basic

/-!
# Length-prefixed frames

Objects on a bare connection and envelopes: four octets with the length, the most significant first,
then as many octets. The length is taken from the buffer as soon as it is there and remembered; a
length that is too large stays in the buffer. At the end of the stream an empty buffer is a clean
end, even if a length is remembered.
-/

namespace PeerLink.LengthPrefixed

/-- The number of octets of the length. -/
def headSize : Nat := 4

/-- The largest length of a frame. -/
def maxSize : Nat := 8388608

/-- A length that was taken from the buffer while its frame was not complete. -/
abbrev State := Option Nat

/-- The octets of a frame. -/
def encode (frame : Bytes) : Bytes :=
  Bytes.ofNatBE headSize frame.length ++ frame

/-- Takes a frame of `n` octets, if they are there. -/
def cutBody (n : Nat) (buffer : Buffer) : Except IoError (Option Bytes) × State × Buffer :=
  if buffer.size < n then (.ok none, some n, buffer)
  else (.ok (some (buffer.take n)), none, buffer.drop n)

/-- Takes the length of the next frame if it is not known yet, and the frame if it is complete. -/
def cut (state : State) (buffer : Buffer) : Except IoError (Option Bytes) × State × Buffer :=
  match state with
  | some n => cutBody n buffer
  | none =>
    if buffer.size < headSize then (.ok none, none, buffer)
    else
      let n := Bytes.toNatBE (buffer.take headSize)
      if maxSize < n then (.error (.invalidData "frame size too big"), none, buffer)
      else cutBody n (buffer.drop headSize)

/-- At the end of the stream a frame may still be in the buffer; an empty buffer is a clean end. -/
def cutLast (state : State) (buffer : Buffer) : Except IoError (Option Bytes) × State × Buffer :=
  match cut state buffer with
  | (.ok none, state, buffer) =>
    if buffer.isEmpty then (.ok none, state, buffer)
    else (.error ⟨.invalidData, some "bytes remaining on stream"⟩, state, buffer)
  | result => result

/-- The framing, for errors of a type that takes failures of the stream. -/
def framing {ε : Type} (ofIo : IoError → ε) : Framing State ε where
  cut state buffer :=
    let (result, rest) := cut state buffer
    (result.mapError ofIo, rest)
  cutLast state buffer :=
    let (result, rest) := cutLast state buffer
    (result.mapError ofIo, rest)
  ofIo := ofIo

end PeerLink.LengthPrefixed
