import PeerLink.Connection
import PeerLink.Proofs.Framing.Sealed

/-!
# Unsealing until there is something to read

A frame may be empty, and one that is empty gives its reader nothing. `SealedFrames.Unsealing` is
what comes of reading frames until one is not empty, and `SecureLayer.unsealing_unsealSome` shows
that the secure layer does just that: every frame takes octets from the wire or from the stream, so
that its loop never stops early.
-/

namespace PeerLink

namespace SealedFrames

variable (suite : Suite)

/-- What comes of reading frames until one is not empty. -/
inductive Unsealing (verge : ReadResult) :
    Sealing → Bytes → Outcome Error (Option Bytes) → State → Bytes → Prop
  /-- The first frame decides. -/
  | last {half : Sealing} {octets : Bytes} {outcome : Outcome Error (Option Bytes)} {state : State}
      {rest : Bytes} (reading : Reading suite half octets verge outcome state rest)
      (decides : outcome ≠ .done (some [])) : Unsealing verge half octets outcome state rest
  /-- The first frame is empty. -/
  | skip {half : Sealing} {octets : Bytes} {state : State} {rest : Bytes}
      {outcome : Outcome Error (Option Bytes)} {state' : State} {rest' : Bytes}
      (reading : Reading suite half octets verge (.done (some [])) state rest)
      (unsealing : Unsealing verge (half.advance suite) rest outcome state' rest') :
      Unsealing verge half octets outcome state' rest'

end SealedFrames

namespace SecureLayer

open SealedFrames

/-- The octets that a frame gives to a reader. -/
def textOf : Outcome Error (Option Bytes) → Bytes
  | .done (some message) => message
  | _ => []

/-- Whether there was a frame that is not empty. -/
def foundOf (outcome : Outcome Error (Option Bytes)) : Outcome ConnectionError Bool :=
  (outcome.map Option.isSome).mapError .ofFrames

variable {suite : Suite}

/-- A frame that is read takes octets from the wire or from the stream. -/
theorem size_lt_of_message {state state' : State} {wire wire' : Wire} {stream stream' : Stream}
    {message : Bytes}
    (reading : Reading suite state.receiver (head state ++ wire.ahead stream)
      stream.inbound.verge (.done (some message)) state' (wire'.ahead stream'))
    (advanced : wire.Advanced stream wire' stream') :
    wire'.readAhead.size + stream'.available < wire.readAhead.size + stream.available := by
  have size := advanced.size_add
  have short : (head state).length ≤ headSize := by
    rw [head]
    split <;> simp
  cases reading with
  | message opened octets_eq acceptable =>
    have length := congrArg List.length octets_eq
    simp only [frameOf, List.length_append, Bytes.length_ofNatBE] at length
    have positive : 0 < minSize := by decide
    have least := acceptable.1
    omega

/-- The loop of the secure layer reads frames until one is not empty. -/
theorem unsealing_unsealSome (layer : SecureLayer) (wire : Wire) (stream : Stream)
    (valid : Valid layer.frames) (nothing : layer.unsealed.isEmpty = true) :
    ∃ outcome frames wire' stream',
      layer.unsealSome suite wire stream =
        (foundOf outcome, { layer with frames, unsealed := .ofBytes (textOf outcome) }, wire',
          stream') ∧
      wire.Advanced stream wire' stream' ∧
      Unsealing suite stream.inbound.verge layer.frames.receiver
        (head layer.frames ++ wire.ahead stream) outcome frames (wire'.ahead stream') := by
  -- Every message takes octets, and the induction is on the number of the ones that are left.
  induction size : wire.readAhead.size + stream.available using Nat.strongRecOn
    generalizing layer wire stream with
  | _ size ih =>
    subst size
    obtain ⟨outcome, frames, wire', stream', read, advanced, reading⟩ :=
      reading_readFrame suite valid wire stream
    have unsealed := Buffer.eq_empty nothing
    rw [unsealSome, if_pos nothing, read]
    rcases outcome with (_ | message) | e | _
    · refine ⟨_, frames, wire', stream', ?_, advanced, .last reading (by simp)⟩
      simp [foundOf, textOf, Outcome.map, Outcome.mapError, unsealed, Buffer.empty]
    · have less := size_lt_of_message reading advanced
      simp only [dif_pos less]
      -- An empty message is passed over, and the loop goes on behind it.
      by_cases empty : message = []
      · subst empty
        have state : frames = ⟨layer.frames.receiver.advance suite, none⟩ := by
          cases reading
          rfl
        subst state
        obtain ⟨outcome, frames, wire'', stream'', unsealed_eq, advanced', unsealing⟩ :=
          ih _ less { layer with
            frames := ⟨layer.frames.receiver.advance suite, none⟩, unsealed := .ofBytes [] }
            wire' stream' (by rintro n ⟨⟩) rfl rfl
        refine ⟨outcome, frames, wire'', stream'', ?_, advanced.trans advanced', ?_⟩
        · rw [unsealed_eq]
        · rw [advanced.verge] at unsealing
          exact .skip reading unsealing
      · refine ⟨_, frames, wire', stream', ?_, advanced, .last reading (by simpa using empty)⟩
        have some_text : (Buffer.ofBytes message).isEmpty ≠ true := by
          rw [Ne, Buffer.isEmpty_iff, Buffer.toBytes_ofBytes]
          exact empty
        rw [unsealSome, if_neg some_text]
        rfl
    · refine ⟨_, frames, wire', stream', ?_, advanced, .last reading (by simp)⟩
      simp [foundOf, textOf, Outcome.map, Outcome.mapError, unsealed, Buffer.empty]
    · refine ⟨_, frames, wire', stream', ?_, advanced, .last reading (by simp)⟩
      simp [foundOf, textOf, Outcome.map, Outcome.mapError, unsealed, Buffer.empty]

end SecureLayer

end PeerLink
