import PeerLink.Proofs.Framing.Sealed
import PeerLink.Proofs.Noise.Sealing

/-!
# Sealed frames of an adversary

The network may put any octets before a reader. `SealedFrames.Offers` says which ciphertexts they
offer to it, and `SealedFrames.Received` is every run of reads before the first fault, with another
stream for each of them. `Received.invariant` is what such a run keeps: the messages that were got
are the first ones that the peer has sealed, and the receiving half stands at the place behind them.
`Received.genuine` says what the next read then comes to: octets that are not the next genuine frame
are never read as data.
-/

namespace PeerLink.SealedFrames

variable (suite : Suite)

/-- The ciphertexts that octets offer to a reader, each with the half at its place: the one of the
first frame, and when it opens the ones that are offered behind it. -/
inductive Offers : Sealing → Bytes → Sealing → Bytes → Prop
  /-- The ciphertext of the first frame. -/
  | first {half : Sealing} {octets ciphertext rest : Bytes}
      (octets_eq : octets = frameOf ciphertext ++ rest) (acceptable : Acceptable ciphertext) :
      Offers half octets half ciphertext
  /-- A ciphertext behind a first one that opens. -/
  | behind {half : Sealing} {octets ciphertext text rest : Bytes} {half' : Sealing}
      {ciphertext' : Bytes} (octets_eq : octets = frameOf ciphertext ++ rest)
      (acceptable : Acceptable ciphertext)
      (opened : suite.decrypt? half.key half.counter [] ciphertext = some text)
      (later : Offers (half.advance suite) rest half' ciphertext') :
      Offers half octets half' ciphertext'

/-- Octets offer nothing but what the network is said to deliver. -/
def OffersOnly (delivered : Sealing → Bytes → Prop) (half : Sealing) (octets : Bytes) : Prop :=
  ∀ half' ciphertext, Offers suite half octets half' ciphertext → delivered half' ciphertext

/-- The messages that a reader got by reads none of which has failed, each of them from the stream
as the network has made it by then, and the state and the wire that they have left. -/
inductive Received (delivered : Sealing → Bytes → Prop) (first : State) (fresh : Wire) :
    List Bytes → State → Wire → Prop
  /-- Nothing was read. -/
  | start : Received delivered first fresh [] first fresh
  /-- One more message was read. -/
  | message {got : List Bytes} {state state' : State} {wire wire' : Wire} {stream stream' : Stream}
      {text : Bytes} (before : Received delivered first fresh got state wire)
      (offers : OffersOnly suite delivered state.receiver (head state ++ wire.ahead stream))
      (read : wire.readFrame (framing suite) state stream =
        (.done (some text), state', wire', stream')) :
      Received delivered first fresh (got ++ [text]) state' wire'
  /-- Nothing was there to be read: the reader waits, or the stream ends between two frames. -/
  | nothing {got : List Bytes} {state state' : State} {wire wire' : Wire} {stream stream' : Stream}
      {outcome : Outcome Error (Option Bytes)}
      (before : Received delivered first fresh got state wire)
      (read : wire.readFrame (framing suite) state stream = (outcome, state', wire', stream'))
      (idle : outcome = .waiting ∨ outcome = .done none) :
      Received delivered first fresh got state' wire'

/-- What a read may come to at the place of `half`, when `later` are the messages that the peer has
sealed from this place on, `octets` are what the reader has before it, and `verge` is behind
them. -/
inductive Genuine (half : Sealing) (later : List Bytes) (octets : Bytes) (verge : ReadResult) :
    Outcome Error (Option Bytes) → Prop
  /-- The next of the messages, from the very ciphertext that the peer has sealed. -/
  | message {text rest : Bytes} (next : later.head? = some text)
      (octets_eq : octets = frameOf (half.sealMessage suite text).1 ++ rest) :
      Genuine half later octets verge (.done (some text))
  /-- A wait for more octets. -/
  | waiting (behind : verge = .wait) : Genuine half later octets verge .waiting
  /-- The end of the stream between two frames. -/
  | clean (nothing : octets = []) (behind : verge = .stop) :
      Genuine half later octets verge (.done none)
  /-- The end of the stream within a frame. -/
  | truncated (detail : String) (part : octets ≠ []) (behind : verge = .stop) :
      Genuine half later octets verge (.failed (.io (.unexpectedEof detail)))
  /-- A stream that fails. -/
  | broken {e : IoError} (behind : verge = .failed e) :
      Genuine half later octets verge (.failed (.io e))
  /-- A length that no frame has, or a ciphertext that does not open. -/
  | forged (cause : SealingError) : Genuine half later octets verge (.failed (.sealing cause))

variable {suite} {delivered : Sealing → Bytes → Prop}

/-- What is offered behind a frame that opens. -/
theorem OffersOnly.behind {half : Sealing} {ciphertext text rest : Bytes}
    (offers : OffersOnly suite delivered half (frameOf ciphertext ++ rest))
    (acceptable : Acceptable ciphertext)
    (opened : suite.decrypt? half.key half.counter [] ciphertext = some text) :
    OffersOnly suite delivered (half.advance suite) rest :=
  fun _ _ later => offers _ _ (.behind rfl acceptable opened later)

/-- A frame offers its ciphertext, and what is behind it is offered when the frame opens. -/
theorem offersOnly_frameOf {half : Sealing} {ciphertext rest : Bytes}
    (acceptable : Acceptable ciphertext) (here : delivered half ciphertext)
    (behind : suite.decrypt? half.key half.counter [] ciphertext = none ∨
      OffersOnly suite delivered (half.advance suite) rest) :
    OffersOnly suite delivered half (frameOf ciphertext ++ rest) := by
  rintro half' ciphertext' (⟨octets_eq, acceptable'⟩ | ⟨octets_eq, acceptable', opened, later⟩)
  · obtain ⟨rfl, -⟩ := frameOf_append_inj acceptable acceptable' octets_eq
    exact here
  · obtain ⟨rfl, rfl⟩ := frameOf_append_inj acceptable acceptable' octets_eq
    rcases behind with closed | behind
    · rw [closed] at opened
      cases opened
    · exact behind _ _ later

/-- Only the next genuine frame is read as data. -/
theorem Reading.genuine {half : Sealing} {later : List Bytes}
    (authentic : half.Authentic suite delivered later) {octets : Bytes} {verge : ReadResult}
    {outcome : Outcome Error (Option Bytes)} {state : State} {rest : Bytes}
    (offers : OffersOnly suite delivered half octets)
    (reading : Reading suite half octets verge outcome state rest) :
    Genuine suite half later octets verge outcome := by
  cases reading with
  | message opened octets_eq acceptable =>
    obtain ⟨later', rfl, rfl⟩ :=
      authentic.eq_cons (offers _ _ (.first octets_eq acceptable)) opened
    exact .message rfl octets_eq
  | waiting valid receiver octets_eq behind => exact .waiting behind
  | clean valid receiver octets_eq nothing behind => exact .clean nothing behind
  | truncated detail part behind => exact .truncated detail part behind
  | broken behind => exact .broken behind
  | forged cause => exact .forged cause

/-- A reader at a place of the messages that the peer has sealed: `later` are the ones from this
place on. -/
structure Receives (suite : Suite) (delivered : Sealing → Bytes → Prop) (state : State)
    (later : List Bytes) : Prop where
  /-- A remembered length is acceptable. -/
  valid : Valid state
  /-- Of what is delivered only what the peer has sealed opens. -/
  authentic : state.receiver.Authentic suite delivered later

/-- A message that is read is the first of the ones to come, and leaves the reader in step with the
others. -/
theorem Receives.message {state : State} {later : List Bytes}
    (receives : Receives suite delivered state later) {octets : Bytes} {verge : ReadResult}
    {text : Bytes} {state' : State} {rest : Bytes}
    (offers : OffersOnly suite delivered state.receiver octets)
    (reading : Reading suite state.receiver octets verge (.done (some text)) state' rest) :
    ∃ later', later = text :: later' ∧ Receives suite delivered state' later' ∧
      state' = ⟨state.receiver.advance suite, none⟩ ∧
      OffersOnly suite delivered state'.receiver rest := by
  obtain ⟨opened, octets_eq, acceptable⟩ := reading
  obtain ⟨later', rfl, -⟩ :=
    receives.authentic.eq_cons (offers _ _ (.first octets_eq acceptable)) opened
  subst octets_eq
  exact ⟨later', rfl, ⟨by rintro n ⟨⟩, receives.authentic.tail⟩, rfl,
    offers.behind acceptable opened⟩

/-- A read that gives nothing leaves the reader in step with the messages. -/
theorem Receives.nothing {state : State} {later : List Bytes}
    (receives : Receives suite delivered state later) {octets : Bytes} {verge : ReadResult}
    {outcome : Outcome Error (Option Bytes)} {state' : State} {rest : Bytes}
    (reading : Reading suite state.receiver octets verge outcome state' rest)
    (idle : outcome = .waiting ∨ outcome = .done none) :
    Receives suite delivered state' later ∧ state'.receiver = state.receiver := by
  cases reading with
  | message opened octets_eq acceptable => simp at idle
  | waiting valid receiver octets_eq behind =>
    exact ⟨⟨valid, receiver ▸ receives.authentic⟩, receiver⟩
  | clean valid receiver octets_eq nothing behind =>
    exact ⟨⟨valid, receiver ▸ receives.authentic⟩, receiver⟩
  | truncated detail part behind => simp at idle
  | broken behind => simp at idle
  | forged cause => simp at idle

/-- What a read of a reader in step with the messages comes to. -/
theorem Receives.readFrame {state : State} {later : List Bytes}
    (receives : Receives suite delivered state later) {wire : Wire} {stream : Stream}
    {outcome : Outcome Error (Option Bytes)} {state' : State} {wire' : Wire} {stream' : Stream}
    (read : wire.readFrame (framing suite) state stream = (outcome, state', wire', stream')) :
    Reading suite state.receiver (head state ++ wire.ahead stream) stream.inbound.verge outcome
      state' (wire'.ahead stream') := by
  obtain ⟨_, _, _, _, read', -, reading⟩ := reading_readFrame suite receives.valid wire stream
  rw [read] at read'
  simp only [Prod.mk.injEq] at read'
  obtain ⟨rfl, rfl, rfl, rfl⟩ := read'
  exact reading

/-- What reads keep before the first fault: the messages that were got are the first ones of the
peer's, and the receiving half stands at the place behind them. -/
theorem Received.invariant {half : Sealing} {sent : List Bytes}
    (authentic : half.Authentic suite delivered sent) {fresh : Wire} {got : List Bytes}
    {state : State} {wire : Wire}
    (received : Received suite delivered ⟨half, none⟩ fresh got state wire) :
    ∃ later, sent = got ++ later ∧ Receives suite delivered state later ∧
      state.receiver = half.after suite got.length := by
  induction received with
  | start => exact ⟨sent, rfl, ⟨by rintro n ⟨⟩, authentic⟩, rfl⟩
  | message before offers read ih =>
    obtain ⟨later, rfl, receives, place⟩ := ih
    obtain ⟨later', rfl, receives', rfl, -⟩ := receives.message offers (receives.readFrame read)
    refine ⟨later', by simp, receives', ?_⟩
    rw [List.length_append, List.length_singleton, Sealing.after_succ, ← place]
  | nothing before read idle ih =>
    obtain ⟨later, rfl, receives, place⟩ := ih
    obtain ⟨receives', receiver⟩ := receives.nothing (receives.readFrame read) idle
    exact ⟨later, rfl, receives', receiver.trans place⟩

/-- What was got before the first fault are the first of the peer's messages, and what the next read
gives is the next of them or no data. -/
theorem Received.genuine {half : Sealing} {sent : List Bytes}
    (authentic : half.Authentic suite delivered sent) {fresh : Wire} {got : List Bytes}
    {state : State} {wire : Wire}
    (received : Received suite delivered ⟨half, none⟩ fresh got state wire) :
    got <+: sent ∧ ∀ stream,
      OffersOnly suite delivered state.receiver (head state ++ wire.ahead stream) →
        Genuine suite (half.after suite got.length) (sent.drop got.length)
          (head state ++ wire.ahead stream) stream.inbound.verge
          (wire.readFrame (framing suite) state stream).1 := by
  obtain ⟨later, rfl, receives, place⟩ := received.invariant authentic
  refine ⟨⟨later, rfl⟩, fun stream offers => ?_⟩
  have read : wire.readFrame (framing suite) state stream = (_, _, _, _) := rfl
  have reading := receives.readFrame read
  rw [List.drop_left, ← place]
  exact reading.genuine receives.authentic offers

end PeerLink.SealedFrames
