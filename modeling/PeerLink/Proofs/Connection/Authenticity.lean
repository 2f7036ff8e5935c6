import PeerLink.Proofs.Connection.Calls
import PeerLink.Proofs.Connection.Unsealing
import PeerLink.Proofs.Crypto.Standard
import PeerLink.Proofs.Framing.Authenticity

/-!
# Reading what an adversary lets through

A `Backlog` is what a reader has not got yet of the messages that its peer has sealed: the rest of
the one that it has begun to read, and the ones behind. `Backlog.serve` reads from it as if there
were no network at all. `Connection.Holds` ties a secure connection to a backlog; `Holds.call` shows
that a call, whatever octets the network has put before it, is answered from the backlog, or gives
nothing, or fails, and `Holds.genuine` concludes the same for every list of calls. The cipher has to
be authentic for the ciphertexts that the octets offer, which `Connection.DeliversOnly` collects.
-/

namespace PeerLink

/-- What a reader has not got yet of the messages of its peer. -/
structure Backlog where
  /-- The rest of the message that is begun. -/
  begun : Bytes
  /-- The messages behind it. -/
  messages : List Bytes

namespace Backlog

/-- A message that is begun, and the ones behind it; when nothing is left of it the next message
that is not empty is begun. -/
def start : Bytes → List Bytes → Backlog
  | [], [] => ⟨[], []⟩
  | [], message :: messages => start message messages
  | b :: begun, messages => ⟨b :: begun, messages⟩

/-- At most `n` octets of one message; `none` if there are none. -/
def take? (n : Nat) (backlog : Backlog) : Option (Bytes × Backlog) :=
  if n = 0 then some ([], backlog)
  else
    match start backlog.begun backlog.messages with
    | ⟨[], _⟩ => none
    | ⟨begun, messages⟩ => some (begun.take n, ⟨begun.drop n, messages⟩)

/-- The answer to a call from the backlog; `none` if there is nothing for it. An object is the next
whole message, whatever is left of the one that is begun. -/
def serve {α : Type} (backlog : Backlog) : ReadCall α → Option (ReadAnswer α × Backlog)
  | .byte => (backlog.take? 1).map fun (bytes, backlog) => (.byte (.done bytes.head?), backlog)
  | .bytes n => (backlog.take? n).map fun (bytes, backlog) => (.bytes (.done bytes), backlog)
  | .object decoder =>
    match backlog.messages with
    | [] => none
    | message :: messages => some (.ofText decoder message, { backlog with messages })

/-- Only empty messages are passed over on the way from one backlog to another. -/
def Passes (backlog backlog' : Backlog) : Prop :=
  backlog'.begun = backlog.begun ∧
    ∃ n, backlog.messages = List.replicate n [] ++ backlog'.messages

/-- Answers that are genuine up to the first fault: each of them is the one from the backlog, or
gives nothing. -/
inductive Genuine {α : Type} : Backlog → List (ReadCall α × ReadAnswer α) → Prop
  /-- There is no answer. -/
  | nil {backlog : Backlog} : Genuine backlog []
  /-- The call is answered from the backlog. -/
  | served {backlog backlog' : Backlog} {call : ReadCall α} {answer : ReadAnswer α}
      {later : List (ReadCall α × ReadAnswer α)}
      (serve : backlog.serve call = some (answer, backlog')) (genuine : Genuine backlog' later) :
      Genuine backlog ((call, answer) :: later)
  /-- The call gives nothing. -/
  | idle {backlog backlog' : Backlog} {call : ReadCall α} {answer : ReadAnswer α}
      {later : List (ReadCall α × ReadAnswer α)} (idle : answer.IsIdle)
      (passes : backlog.Passes backlog') (genuine : Genuine backlog' later) :
      Genuine backlog ((call, answer) :: later)
  /-- The call fails. -/
  | fault {backlog : Backlog} {call : ReadCall α} {answer : ReadAnswer α}
      {later : List (ReadCall α × ReadAnswer α)} (fault : answer.IsFault) :
      Genuine backlog ((call, answer) :: later)

/-- A message that is not empty is begun. -/
theorem start_of_ne_nil {begun : Bytes} (h : begun ≠ []) (messages : List Bytes) :
    start begun messages = ⟨begun, messages⟩ := by
  cases begun with
  | nil => exact absurd rfl h
  | cons b begun => rw [start]

/-- What is begun is taken first. -/
theorem take?_of_start {backlog : Backlog} {begun : Bytes} {messages : List Bytes} {n : Nat}
    (h : start backlog.begun backlog.messages = ⟨begun, messages⟩) (some_begun : begun ≠ [])
    (some_asked : n ≠ 0) :
    backlog.take? n = some (begun.take n, ⟨begun.drop n, messages⟩) := by
  rw [take?, if_neg some_asked, h]
  cases begun with
  | nil => exact absurd rfl some_begun
  | cons b begun => rfl

/-- One more empty message is passed over. -/
theorem Passes.cons {messages : List Bytes} {backlog : Backlog}
    (h : Passes ⟨[], messages⟩ backlog) : Passes ⟨[], [] :: messages⟩ backlog := by
  obtain ⟨begun, n, messages_eq⟩ := h
  refine ⟨begun, n + 1, ?_⟩
  show [] :: messages = _
  rw [List.replicate_succ, List.cons_append, ← messages_eq]

/-- Nothing is passed over. -/
theorem Passes.refl (backlog : Backlog) : Passes backlog backlog :=
  ⟨rfl, 0, rfl⟩

end Backlog

/-- Unsealing until there is something to read begins the next message that is not empty. -/
theorem SealedFrames.Unsealing.receives {suite : Suite} {delivered : Sealing → Bytes → Prop}
    {verge : ReadResult} {half : Sealing} {octets : Bytes}
    {outcome : Outcome Error (Option Bytes)} {state : State} {rest : Bytes}
    (unsealing : Unsealing suite verge half octets outcome state rest) {later : List Bytes}
    (authentic : half.Authentic suite delivered later)
    (offers : OffersOnly suite delivered half octets) :
    match outcome with
    | .done (some text) => text ≠ [] ∧ ∃ later', Backlog.start [] later = ⟨text, later'⟩ ∧
        Receives suite delivered state later'
    | .done none => ∃ later', Backlog.Passes ⟨[], later⟩ ⟨[], later'⟩ ∧
        Receives suite delivered state later'
    | .waiting => ∃ later', Backlog.Passes ⟨[], later⟩ ⟨[], later'⟩ ∧
        Receives suite delivered state later'
    | .failed _ => True := by
  induction unsealing generalizing later with
  | @last half octets outcome state rest reading decides =>
    have receives : Receives suite delivered ⟨half, none⟩ later := ⟨by rintro n ⟨⟩, authentic⟩
    rcases outcome with (_ | text) | e | _
    · exact ⟨later, Backlog.Passes.refl _, (receives.nothing reading (.inr rfl)).1⟩
    · obtain ⟨later', rfl, receives', -, -⟩ := receives.message offers reading
      have some_text : text ≠ [] := fun h => decides (by rw [h])
      refine ⟨some_text, later', ?_, receives'⟩
      rw [Backlog.start, Backlog.start_of_ne_nil some_text]
    · trivial
    · exact ⟨later, Backlog.Passes.refl _, (receives.nothing reading (.inl rfl)).1⟩
  | @skip half octets state rest outcome state' rest' reading unsealing ih =>
    have receives : Receives suite delivered ⟨half, none⟩ later := ⟨by rintro n ⟨⟩, authentic⟩
    -- The empty message is the first of the ones to come, and the half is in step behind it.
    obtain ⟨later', rfl, receives', rfl, offers'⟩ := receives.message offers reading
    have kept := ih receives'.authentic offers'
    rcases outcome with (_ | text) | e | _
    · obtain ⟨later'', passes, receives''⟩ := kept
      exact ⟨later'', passes.cons, receives''⟩
    · obtain ⟨some_text, later'', start, receives''⟩ := kept
      exact ⟨some_text, later'', by rw [Backlog.start, start], receives''⟩
    · trivial
    · obtain ⟨later'', passes, receives''⟩ := kept
      exact ⟨later'', passes.cons, receives''⟩

namespace Connection

variable {suite : Suite} {delivered : Sealing → Bytes → Prop}

/-- What a secure connection has before it: the receiving half at the beginning of a frame, and the
octets from there on. -/
def facing? (connection : Connection) (stream : Stream) : Option (Sealing × Bytes) :=
  match connection.wire, connection.channel with
  | some wire, .secure layer =>
    some (layer.frames.receiver, SealedFrames.head layer.frames ++ wire.ahead stream)
  | _, _ => none

/-- A stream offers nothing to a connection but what the network is said to deliver. -/
def OffersOnly (suite : Suite) (delivered : Sealing → Bytes → Prop) (connection : Connection)
    (stream : Stream) : Prop :=
  ∀ half octets, connection.facing? stream = some (half, octets) →
    SealedFrames.OffersOnly suite delivered half octets

/-- A secure connection on which a backlog is still to be read. -/
def Holds (suite : Suite) (delivered : Sealing → Bytes → Prop) (connection : Connection)
    (backlog : Backlog) : Prop :=
  ∃ wire layer, connection.wire = some wire ∧ connection.channel = .secure layer ∧
    layer.unsealed.toBytes = backlog.begun ∧
    SealedFrames.Receives suite delivered layer.frames backlog.messages

/-- What reading octets comes to: octets from the backlog, nothing, or an error. -/
def ReadsFrom (suite : Suite) (delivered : Sealing → Bytes → Prop) (backlog : Backlog) (n : Nat)
    (outcome : Outcome ConnectionError Bytes) (connection : Connection) : Prop :=
  (∃ bytes backlog', backlog.take? n = some (bytes, backlog') ∧ outcome = .done bytes ∧
    connection.Holds suite delivered backlog') ∨
  ((outcome = .waiting ∨ outcome = .done []) ∧
    ∃ backlog', backlog.Passes backlog' ∧ connection.Holds suite delivered backlog') ∨
  ∃ e, outcome = .failed (.ofFrames e)

/-- Octets are read from the backlog. -/
theorem Holds.readBytes {connection : Connection} {backlog : Backlog}
    (holds : connection.Holds suite delivered backlog) (n : Nat) (stream : Stream)
    (offers : connection.OffersOnly suite delivered stream) :
    ReadsFrom suite delivered backlog n (connection.readBytes suite n stream).1
      (connection.readBytes suite n stream).2.1 := by
  obtain ⟨wire, channel, address, resolution⟩ := connection
  obtain ⟨begun, messages⟩ := backlog
  obtain ⟨wire, layer, rfl, rfl, rfl, receives⟩ := id holds
  unfold Connection.readBytes
  dsimp only
  by_cases none_asked : n = 0
  · -- Nothing is asked for.
    rw [if_pos none_asked]
    exact .inl ⟨[], _, by rw [Backlog.take?, if_pos none_asked], rfl, holds⟩
  rw [if_neg none_asked]
  cases left : layer.unsealed.isEmpty with
  | false =>
    -- Octets of the message that is begun are left.
    have some_left : layer.unsealed.toBytes ≠ [] := by
      rw [Ne, ← Buffer.isEmpty_iff, left]
      simp
    rw [SecureLayer.unsealSome, left, if_neg (by simp)]
    refine .inl ⟨layer.unsealed.toBytes.take n, ⟨layer.unsealed.toBytes.drop n, messages⟩, ?_, ?_,
      wire, { layer with unsealed := layer.unsealed.drop n }, rfl, rfl, ?_, receives⟩
    · exact Backlog.take?_of_start (Backlog.start_of_ne_nil some_left messages) some_left none_asked
    · exact congrArg Outcome.done (Buffer.take_eq _ _)
    · exact Buffer.toBytes_drop _ _
  | true =>
    -- The next message that is not empty is begun.
    obtain ⟨outcome, frames, wire', stream', unsealed_eq, -, unsealing⟩ :=
      SecureLayer.unsealing_unsealSome layer wire stream receives.valid left
    have nothing := Buffer.toBytes_eq_nil left
    have kept := unsealing.receives receives.authentic (offers _ _ rfl)
    rw [unsealed_eq, nothing]
    rcases outcome with (_ | text) | e | _
    · obtain ⟨later, passes, receives'⟩ := kept
      refine .inr (.inl ⟨.inr ?_, ⟨[], later⟩, passes, wire',
        { layer with frames, unsealed := (Buffer.ofBytes []).drop n }, rfl, rfl, ?_, receives'⟩)
      · simp [SecureLayer.foundOf, SecureLayer.textOf, Outcome.map, Outcome.mapError]
      · simp
    · obtain ⟨some_text, later, start, receives'⟩ := kept
      refine .inl ⟨text.take n, ⟨text.drop n, later⟩,
        Backlog.take?_of_start start some_text none_asked, ?_, wire',
        { layer with frames, unsealed := (Buffer.ofBytes text).drop n }, rfl, rfl, ?_, receives'⟩
      · simp [SecureLayer.foundOf, SecureLayer.textOf, Outcome.map, Outcome.mapError]
      · simp
    · exact .inr (.inr ⟨e, rfl⟩)
    · obtain ⟨later, passes, receives'⟩ := kept
      exact .inr (.inl ⟨.inl rfl, ⟨[], later⟩, passes, wire',
        { layer with frames, unsealed := .ofBytes [] }, rfl, rfl, by simp, receives'⟩)

/-- A call is answered from the backlog, or gives nothing, or fails. -/
theorem Holds.call {α : Type} {connection : Connection} {backlog : Backlog}
    (holds : connection.Holds suite delivered backlog) (call : ReadCall α) (stream : Stream)
    (offers : connection.OffersOnly suite delivered stream) :
    (∃ backlog', backlog.serve call = some ((connection.call suite call stream).1, backlog') ∧
      (connection.call suite call stream).2.1.Holds suite delivered backlog') ∨
    ((connection.call suite call stream).1.IsIdle ∧ ∃ backlog', backlog.Passes backlog' ∧
      (connection.call suite call stream).2.1.Holds suite delivered backlog') ∨
    (connection.call suite call stream).1.IsFault := by
  cases call with
  | bytes n =>
    rcases holds.readBytes n stream offers with ⟨bytes, backlog', take, outcome, holds'⟩ |
      ⟨idle, backlog', passes, holds'⟩ | ⟨e, outcome⟩
    · refine .inl ⟨backlog', ?_, holds'⟩
      simp only [Backlog.serve, take, Connection.call, outcome, Option.map_some]
    · exact .inr (.inl ⟨idle, backlog', passes, holds'⟩)
    · exact .inr (.inr ⟨e, outcome⟩)
  | byte =>
    -- An octet is read as one octet of a buffer.
    rw [call_byte]
    rcases holds.readBytes 1 stream offers with ⟨bytes, backlog', take, outcome, holds'⟩ |
      ⟨idle, backlog', passes, holds'⟩ | ⟨e, outcome⟩
    · refine .inl ⟨backlog', ?_, holds'⟩
      simp only [Backlog.serve, take, outcome, Option.map_some, Outcome.map]
    · refine .inr (.inl ⟨?_, backlog', passes, holds'⟩)
      rcases idle with outcome | outcome
      · exact .inl (by rw [outcome]; rfl)
      · exact .inr (by rw [outcome]; rfl)
    · exact .inr (.inr ⟨e, by rw [outcome]; rfl⟩)
  | object decoder =>
    obtain ⟨wire, channel, address, resolution⟩ := connection
    obtain ⟨begun, messages⟩ := backlog
    obtain ⟨wire, layer, rfl, rfl, rfl, receives⟩ := holds
    unfold Connection.call Connection.readObject Connection.readFrame
    dsimp only
    rcases read : wire.readFrame (SealedFrames.framing suite) layer.frames stream with
      ⟨outcome, frames, wire', stream'⟩
    have reading := receives.readFrame read
    rcases outcome with (_ | text) | e | _
    · obtain ⟨receives', -⟩ := receives.nothing reading (.inr rfl)
      exact .inr (.inl ⟨.inr rfl, _, Backlog.Passes.refl _, wire', { layer with frames }, rfl, rfl,
        rfl, receives'⟩)
    · obtain ⟨later, messages_eq, receives', -, -⟩ := receives.message (offers _ _ rfl) reading
      obtain rfl : messages = text :: later := messages_eq
      exact .inl ⟨⟨layer.unsealed.toBytes, later⟩, rfl, wire', { layer with frames }, rfl, rfl, rfl,
        receives'⟩
    · exact .inr (.inr ⟨e, rfl⟩)
    · obtain ⟨receives', -⟩ := receives.nothing reading (.inl rfl)
      exact .inr (.inl ⟨.inl rfl, _, Backlog.Passes.refl _, wire', { layer with frames }, rfl, rfl,
        rfl, receives'⟩)

/-- The answers to calls, each of them on the stream as the network has made it by then. -/
def answers {α : Type} (suite : Suite) :
    List (ReadCall α × Stream) → Connection → List (ReadCall α × ReadAnswer α)
  | [], _ => []
  | (call, stream) :: later, connection =>
    (call, (connection.call suite call stream).1) ::
      answers suite later (connection.call suite call stream).2.1

/-- The streams of calls offer nothing but what the network is said to deliver. -/
def DeliversOnly {α : Type} (suite : Suite) (delivered : Sealing → Bytes → Prop) :
    List (ReadCall α × Stream) → Connection → Prop
  | [], _ => True
  | (call, stream) :: later, connection =>
    connection.OffersOnly suite delivered stream ∧
      DeliversOnly suite delivered later (connection.call suite call stream).2.1

/-- Calls are answered from the backlog up to the first fault. -/
theorem Holds.genuine {α : Type} {connection : Connection} {backlog : Backlog}
    (holds : connection.Holds suite delivered backlog) (calls : List (ReadCall α × Stream))
    (delivers : connection.DeliversOnly suite delivered calls) :
    backlog.Genuine (connection.answers suite calls) := by
  induction calls generalizing connection backlog with
  | nil => exact .nil
  | cons first later ih =>
    obtain ⟨call, stream⟩ := first
    obtain ⟨offers, delivers⟩ := delivers
    rcases holds.call call stream offers with ⟨backlog', serve, holds'⟩ |
      ⟨idle, backlog', passes, holds'⟩ | fault
    · exact .served serve (ih holds' delivers)
    · exact .idle idle passes (ih holds' delivers)
    · exact .fault fault

/-- The connection of a channel whose peer has sealed messages: nothing of them is read yet. -/
theorem holds_negotiated {wire : Wire} {resolution : Resolution} {channel : Noise.Established}
    {remote : Endpoint} {sent : List Bytes}
    (authentic : channel.receiver.Authentic suite delivered sent) :
    (negotiated wire resolution (some channel) remote).Holds suite delivered ⟨[], sent⟩ :=
  ⟨wire, .new channel, rfl, rfl, Buffer.toBytes_empty, by rintro n ⟨⟩, authentic⟩

/-- Nothing that the network does makes a reader take octets for data that are not the next of what
its peer has sealed: neither reading frames one after the other nor the calls of a connection. The
cipher is relied on for the ciphertexts that the network delivers, and for no other ones. -/
theorem only_sealed_is_read (channel : Noise.Established) (delivered : Sealing → Bytes → Prop)
    (sent : List Bytes) (authentic : channel.receiver.Authentic suite delivered sent)
    (wire : Wire) :
    (∀ got state wire',
      SealedFrames.Received suite delivered ⟨channel.receiver, none⟩ wire got state wire' →
      got <+: sent ∧ ∀ stream,
        SealedFrames.OffersOnly suite delivered state.receiver
          (SealedFrames.head state ++ wire'.ahead stream) →
        SealedFrames.Genuine suite (channel.receiver.after suite got.length)
          (sent.drop got.length) (SealedFrames.head state ++ wire'.ahead stream)
          stream.inbound.verge (wire'.readFrame (SealedFrames.framing suite) state stream).1) ∧
    ∀ (resolution : Resolution) (remote : Endpoint) {α : Type} (calls : List (ReadCall α × Stream)),
      (negotiated wire resolution (some channel) remote).DeliversOnly suite delivered calls →
      Backlog.Genuine ⟨[], sent⟩
        ((negotiated wire resolution (some channel) remote).answers suite calls) := by
  refine ⟨fun got state wire' received => received.genuine authentic, ?_⟩
  intro resolution remote α calls delivers
  exact (holds_negotiated authentic).genuine calls delivers

/-! ## A replay -/

namespace Replay

/-- The half that both sides begin with. -/
def half : Sealing := .start (List.replicate 32 7)

/-- What the peer has sealed. -/
def sent : List Bytes := [[104, 105], [33]]

/-- The ciphertext of the first message. -/
def ciphertext : Bytes := (half.sealMessage .standard [104, 105]).1

/-- The network delivers the first ciphertext at the first place, and once more at the second. -/
def Delivered (place : Sealing) (message : Bytes) : Prop :=
  (place = half ∨ place = half.advance .standard) ∧ message = ciphertext

/-- The connection of the receiver. -/
def receiver : Connection :=
  negotiated .new (.resolved [.secureChannel])
    (some ⟨.start (List.replicate 32 9), half, ⟨List.replicate 32 5, rfl⟩⟩)
    ⟨.v4 ⟨127, 0, 0, 1⟩, 4000⟩

/-- The stream on which the first frame comes twice. -/
def stream : Stream :=
  ⟨Pipe.new.inject (SealedFrames.frameOf ciphertext ++ SealedFrames.frameOf ciphertext), .new⟩

/-- Five octets are read, and then one more. -/
def calls : List (ReadCall Json × Stream) :=
  [(.bytes 5, stream), (.byte, ⟨.new, .new⟩)]

/-- At the second place the first ciphertext does not open. -/
theorem not_opened : Suite.standard.decrypt? (half.advance .standard).key
    (half.advance .standard).counter [] ciphertext = none := by
  decide +kernel

/-- The cipher in use keeps its promise for what is delivered. -/
theorem authentic : half.Authentic .standard Delivered sent := by
  rintro place message text ⟨here, rfl⟩ opened
  have counter := Sealing.counter_after .standard place half
  rcases here with here | here
  · -- At the first place the message comes back that the ciphertext was made of.
    rw [here] at counter opened ⊢
    obtain rfl : place = 0 := by simpa [half, Sealing.start] using counter.symm
    rw [ciphertext, Sealing.sealMessage, Suite.opens_standard] at opened
    obtain rfl := Option.some.inj opened
    exact ⟨rfl, rfl⟩
  · rw [here, not_opened] at opened
    cases opened

/-- Nothing else is delivered. -/
theorem delivers : receiver.DeliversOnly .standard Delivered calls := by
  have acceptable : SealedFrames.Acceptable ciphertext := ⟨by decide +kernel, by decide +kernel⟩
  have again : SealedFrames.OffersOnly .standard Delivered (half.advance .standard)
      (SealedFrames.frameOf ciphertext ++ []) :=
    SealedFrames.offersOnly_frameOf acceptable ⟨.inr rfl, rfl⟩ (.inl not_opened)
  have first : receiver.facing? stream = some (half,
      SealedFrames.frameOf ciphertext ++ (SealedFrames.frameOf ciphertext ++ [])) := by
    decide +kernel
  have second : (receiver.call .standard (.bytes 5 : ReadCall Json) stream).2.1.facing?
      ⟨.new, .new⟩ =
        some (half.advance .standard, SealedFrames.frameOf ciphertext ++ []) := by
    decide +kernel
  refine ⟨?_, ?_, trivial⟩
  · rintro place octets facing
    rw [first] at facing
    obtain ⟨rfl, rfl⟩ := Prod.mk.inj (Option.some.inj facing)
    exact SealedFrames.offersOnly_frameOf acceptable ⟨.inl rfl, rfl⟩ (.inr again)
  · rintro place octets facing
    rw [second] at facing
    obtain ⟨rfl, rfl⟩ := Prod.mk.inj (Option.some.inj facing)
    exact again

end Replay

/-- The first frame comes twice, and the cipher is the one in use: it is read once, and the second
time it is refused. -/
theorem only_sealed_is_read_of_replay :
    Replay.half.Authentic .standard Replay.Delivered Replay.sent ∧
      Replay.receiver.DeliversOnly .standard Replay.Delivered Replay.calls ∧
      Backlog.Genuine ⟨[], Replay.sent⟩ (Replay.receiver.answers .standard Replay.calls) := by
  refine ⟨Replay.authentic, Replay.delivers, ?_⟩
  have result := only_sealed_is_read ⟨.start (List.replicate 32 9), Replay.half,
    ⟨List.replicate 32 5, rfl⟩⟩ Replay.Delivered Replay.sent Replay.authentic .new
  exact result.2 _ _ Replay.calls Replay.delivers

end Connection

end PeerLink
