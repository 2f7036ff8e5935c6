import PeerLink.Connection
import PeerLink.Proofs.Framing.LengthPrefixed
import PeerLink.Proofs.Framing.Sealed
import PeerLink.Proofs.Patience.Later

/-!
# What a connection finds later

`Connection.Later` compares two connections as `Wire.Later` compares two readers: they are at the
same point, and the second one has the octets before it that the first one gets later on. Octets
that are unsealed and not read may be held in different ways. A frame that a connection has had to
wait for is the one that it reads when it has had all octets from the beginning
(`Connection.Later.readFrame_again`).
-/

namespace PeerLink

/-- An outcome with another error waits exactly if it waits. -/
theorem Outcome.mapError_eq_waiting {ε δ α : Type} {f : ε → δ} {outcome : Outcome ε α} :
    outcome.mapError f = .waiting ↔ outcome = .waiting := by
  cases outcome <;> simp [mapError]

/-- An outcome with another value waits exactly if it waits. -/
theorem Outcome.map_eq_waiting {ε α β : Type} {f : α → β} {outcome : Outcome ε α} :
    outcome.map f = .waiting ↔ outcome = .waiting := by
  cases outcome <;> simp [map]

namespace Connection

/-- The second connection is at the same point as the first one, and has more octets before it. The
lengths that a secure connection remembers are ones of frames. -/
inductive Later (more : Bytes) (verge verge' : ReadResult) :
    Connection → Stream → Connection → Stream → Prop
  /-- Two bare connections. -/
  | bare {wire wire' : Wire} {stream stream' : Stream}
      (later : wire.Later more verge verge' stream wire' stream') (frames : LengthPrefixed.State)
      (address : Option Endpoint) (resolution : Resolution) :
      Later more verge verge' ⟨some wire, .bare frames, address, resolution⟩ stream
        ⟨some wire', .bare frames, address, resolution⟩ stream'
  /-- Two secure connections. -/
  | secure {wire wire' : Wire} {stream stream' : Stream}
      (later : wire.Later more verge verge' stream wire' stream') (layer : SecureLayer)
      (valid : SealedFrames.Valid layer.frames) {unsealed : Buffer}
      (same : unsealed.toBytes = layer.unsealed.toBytes)
      (address : Option Endpoint) (resolution : Resolution) :
      Later more verge verge' ⟨some wire, .secure layer, address, resolution⟩ stream
        ⟨some wire', .secure { layer with unsealed }, address, resolution⟩ stream'

variable {suite : Suite} {more : Bytes} {verge verge' : ReadResult}
  {connection connection' connection'' : Connection} {stream stream' stream'' : Stream}

/-- When octets arrive at the first connection there are fewer that only the second one has. -/
theorem Later.arrive {bytes : Bytes}
    (later : Later (bytes ++ more) .wait verge' connection stream connection' stream') :
    Later more .wait verge' connection (stream.arrive bytes) connection' stream' := by
  cases later with
  | bare later => exact .bare later.arrive ..
  | secure later layer valid same => exact .secure later.arrive layer valid same ..

/-- A connection that waits, and the same one when octets have arrived and the stream has come to
its end. -/
theorem Later.supply (later : Later more .wait verge' connection stream connection' stream')
    (bytes : Bytes) (ending : Ending) :
    Later bytes .wait ending.verge connection stream connection
      ((stream.arrive bytes).close ending) := by
  cases later with
  | bare later => exact .bare (later.supply bytes ending) ..
  | secure later layer valid => exact .secure (later.supply bytes ending) layer valid rfl ..

/-- Two connections that have the same before them as a third one, and the same octets behind that,
have the same before them. -/
theorem Later.unique (later : Later more verge verge' connection stream connection' stream')
    (later' : Later more verge verge' connection stream connection'' stream'') :
    Later [] verge' verge' connection' stream' connection'' stream'' := by
  cases later with
  | bare later =>
    cases later' with
    | bare later' => exact .bare (later.unique later') ..
  | @secure _ _ _ _ later layer valid unsealed same =>
    cases later' with
    | secure later' _ _ same' =>
      exact .secure (later.unique later') { layer with unsealed } valid (same'.trans same.symm) ..

/-- Both connections have written the same. -/
theorem Later.outbound (later : Later more verge verge' connection stream connection' stream') :
    stream'.outbound = stream.outbound := by
  cases later with
  | bare later => exact later.outbound
  | secure later => exact later.outbound

/-- Two connections that were negotiated over wires at the same point are at the same point. -/
theorem later_negotiated {wire wire' : Wire}
    (later : wire.Later more verge verge' stream wire' stream') (resolution : Resolution)
    (channel : Option Noise.Established) (endpoint : Endpoint) :
    (negotiated wire resolution channel endpoint).Later more verge verge' stream
      (.negotiated wire' resolution channel endpoint) stream' := by
  cases channel with
  | none => exact .bare later ..
  | some channel => exact .secure later (.new channel) (by rintro _ ⟨⟩) rfl ..

/-! ## Frames -/

/-- Both connections read the same frame, unless the first one has to wait for it. -/
theorem Later.readFrame (later : Later more verge verge' connection stream connection' stream')
    {outcome : Outcome ConnectionError (Option Bytes)} {next : Connection} {rest : Stream}
    (read : connection.readFrame suite stream = (outcome, next, rest))
    (ready : outcome ≠ .waiting ∨ more = [] ∧ verge = verge') :
    ∃ next' rest', connection'.readFrame suite stream' = (outcome, next', rest') ∧
      Later more verge verge' next rest next' rest' := by
  cases later with
  | @bare wire wire' _ _ later frames address resolution =>
    simp only [Connection.readFrame] at read ⊢
    rcases read₁ : wire.readFrame (LengthPrefixed.framing ConnectionError.io) frames stream with
      ⟨outcome₁, frames₁, wire₁, stream₁⟩
    simp only [read₁, Prod.mk.injEq] at read
    obtain ⟨rfl, rfl, rfl⟩ := read
    obtain ⟨wire₂, stream₂, read₂, later'⟩ :=
      later.readFrame (LengthPrefixed.incremental _) read₁ ready
    simp only [read₂]
    exact ⟨_, _, rfl, .bare later' ..⟩
  | @secure wire wire' _ _ later layer valid unsealed same address resolution =>
    simp only [Connection.readFrame] at read ⊢
    rcases read₁ : wire.readFrame (SealedFrames.framing suite) layer.frames stream with
      ⟨outcome₁, frames₁, wire₁, stream₁⟩
    simp only [read₁, Prod.mk.injEq] at read
    obtain ⟨rfl, rfl, rfl⟩ := read
    obtain ⟨wire₂, stream₂, read₂, later'⟩ :=
      later.readFrame (SealedFrames.incremental suite) read₁
        (ready.imp_left fun done waits => done (Outcome.mapError_eq_waiting.2 waits))
    simp only [read₂]
    exact ⟨_, _, rfl, .secure later' { layer with frames := frames₁ }
      (SealedFrames.valid_of_readFrame valid read₁) same ..⟩

/-- A connection that has waited reads the frame that the second one reads, which has had all octets
before it from the beginning. -/
theorem Later.readFrame_again
    (later : Later more .wait verge' connection stream connection' stream')
    {next again : Connection} {rest stream'' : Stream}
    (read : connection.readFrame suite stream = (.waiting, next, rest))
    (later' : Later more .wait verge' next rest again stream'') :
    ∃ outcome next₁ rest₁ next₂ rest₂, again.readFrame suite stream'' = (outcome, next₁, rest₁) ∧
      connection'.readFrame suite stream' = (outcome, next₂, rest₂) ∧
      Later [] verge' verge' next₁ rest₁ next₂ rest₂ := by
  -- The framing of either layer can be resumed, which is all that is needed here.
  cases later with
  | @bare wire wire' _ _ later frames address resolution =>
    simp only [Connection.readFrame] at read
    rcases read₁ : wire.readFrame (LengthPrefixed.framing ConnectionError.io) frames stream with
      ⟨outcome₁, frames₁, wire₁, stream₁⟩
    simp only [read₁, Prod.mk.injEq] at read
    obtain ⟨rfl, rfl, rfl⟩ := read
    cases later' with
    | @bare _ again _ _ later' =>
      obtain ⟨outcome, frames, wire₁, stream₁, wire₂, stream₂, read₁, read₂, later₂⟩ :=
        later.readFrame_again (LengthPrefixed.incremental _) read₁ later'
      simp only [Connection.readFrame, read₁, read₂]
      exact ⟨_, _, _, _, _, rfl, rfl, .bare later₂ ..⟩
  | @secure wire wire' _ _ later layer valid unsealed same address resolution =>
    simp only [Connection.readFrame] at read
    rcases read₁ : wire.readFrame (SealedFrames.framing suite) layer.frames stream with
      ⟨outcome₁, frames₁, wire₁, stream₁⟩
    simp only [read₁, Prod.mk.injEq] at read
    obtain ⟨waits, rfl, rfl⟩ := read
    obtain rfl := Outcome.mapError_eq_waiting.1 waits
    cases later' with
    | @secure _ again _ _ later' _ valid' unsealed' same' =>
      obtain ⟨outcome, frames, wire₁, stream₁, wire₂, stream₂, read₁, read₂, later₂⟩ :=
        later.readFrame_again (SealedFrames.incremental suite) read₁ later'
      simp only [Connection.readFrame, read₁, read₂]
      refine ⟨_, _, _, _, _, rfl, rfl, ?_⟩
      exact .secure later₂ { layer with frames, unsealed := unsealed' }
        (SealedFrames.valid_of_readFrame valid' read₁) (same.trans same'.symm) ..

end Connection

end PeerLink
