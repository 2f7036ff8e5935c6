import PeerLink.Proofs.Negotiation.Identities
import PeerLink.Proofs.Stream.Writing

/-!
# The first frame and the key in it

What a negotiation does depends on the first frame that a side hears and on the key in it.
`LengthPrefixed.Begins` says that octets begin with a frame; it is the first one for good, whatever
follows (`Begins.append`, `Begins.unique`), and a side that reads finds it as soon as it is complete
(`LengthPrefixed.readFrame_first`). `Party.Heeds` says that a side shares the secure channel with a
message and takes the key in it for the one of the other side; this is when it agrees on the secure
channel (`Party.heeds_iff`).
-/

namespace PeerLink

namespace LengthPrefixed

/-- The octets begin with a frame, and other ones follow it. -/
structure Begins (octets frame rest : Bytes) : Prop where
  /-- The octets of the frame stand in front. -/
  octets_eq : octets = encode frame ++ rest
  /-- The frame is not too large. -/
  acceptable : frame.length ≤ maxSize

/-- The octets do not begin with a frame, as it is not complete or too large. -/
def Lacks (octets : Bytes) : Prop :=
  ∀ frame rest, ¬ Begins octets frame rest

variable {ε : Type} (ofIo : IoError → ε) {octets frame frame' rest rest' : Bytes}

/-- Octets begin with the frame that is cut from them. -/
theorem begins_iff_cutBytes : Begins octets frame rest ↔
    (framing ofIo).cutBytes none octets = (.ok (some frame), none, rest) := by
  constructor
  · rintro ⟨rfl, acceptable⟩
    exact cutBytes_encode ofIo acceptable rest
  · intro cut
    obtain ⟨-, octets_eq, acceptable⟩ := eq_encode_of_cutBytes ofIo cut
    exact ⟨octets_eq, acceptable⟩

/-- Octets begin with one frame only. -/
theorem Begins.unique (begins : Begins octets frame rest) (begins' : Begins octets frame' rest') :
    frame' = frame ∧ rest' = rest := by
  have cut := (begins_iff_cutBytes id).1 begins
  rw [(begins_iff_cutBytes id).1 begins'] at cut
  simp only [Prod.mk.injEq, Except.ok.injEq, Option.some.injEq] at cut
  exact ⟨cut.1, cut.2.2⟩

/-- More octets behind a frame follow it. -/
theorem Begins.append (begins : Begins octets frame rest) (more : Bytes) :
    Begins (octets ++ more) frame (rest ++ more) :=
  ⟨by rw [begins.octets_eq, List.append_assoc], begins.acceptable⟩

/-- At the end of the stream there is no frame where none was cut. -/
theorem cutLast_of_cutBytes {state : State}
    (cut : (framing ofIo).cutBytes none octets = (.ok none, state, [])) :
    ((framing ofIo).cutLast state .empty).1 = .ok none := by
  -- To cut once more from where the first cut has come to changes nothing.
  have again := (incremental ofIo).resumable cut []
  rw [List.append_nil, cut, List.append_nil] at again
  have view := (incremental ofIo).view_cut state .empty
  rw [Buffer.toBytes_empty, ← again] at view
  rcases last : LengthPrefixed.cut state .empty with ⟨result, state', buffer⟩
  simp only [Framing.view, framing, last, Prod.mk.injEq] at view
  obtain ⟨none_cut, rfl, nothing⟩ := view
  obtain rfl : result = .ok none := by
    cases result with
    | error e => simp [Except.mapError] at none_cut
    | ok found => exact congrArg Except.ok (Except.ok.inj none_cut)
  simp only [framing, cutLast, last, Buffer.isEmpty_iff.2 nothing]
  rfl

/-- What reading comes to where the octets do not begin with a frame: it waits, or there never will
be one. -/
inductive Stalls (octets : Bytes) (verge : ReadResult) :
    Outcome ε (Option Bytes) → State → Bytes → Prop
  /-- The frame is not complete, and none of its octets is lost. -/
  | waits {state : State} {ahead : Bytes} (awaited : verge = .wait) (valid : Valid state)
      (heard : head state ++ ahead = octets) : Stalls octets verge .waiting state ahead
  /-- The stream has ended. -/
  | ends {state : State} {ahead : Bytes}
      (never : ∀ more, verge = .wait ∨ more = [] → Lacks (octets ++ more)) :
      Stalls octets verge (.done none) state ahead
  /-- The frame is too large, or the stream has ended or failed within it. -/
  | fails {state : State} {ahead : Bytes} (e : ε)
      (never : ∀ more, verge = .wait ∨ more = [] → Lacks (octets ++ more)) :
      Stalls octets verge (.failed e) state ahead

/-- What is concluded from a cut that finds no frame. -/
theorem stalls_of_cutBytes {verge : ReadResult} (no_data : ∀ bytes, verge ≠ .data bytes)
    {result : Except ε (Option Bytes)} {state : State}
    (cut : (framing ofIo).cutBytes none octets = (result, state, rest))
    (no_frame : ∀ frame, result ≠ .ok (some frame)) :
    Lacks octets ∧ ∃ outcome state' rest',
      (framing ofIo).conclude verge (result, state, rest) = (outcome, state', rest') ∧
      Stalls octets verge outcome state' rest' := by
  have lacks {octets : Bytes} {result : Except ε (Option Bytes)} {state : State} {rest : Bytes}
      (cut : (framing ofIo).cutBytes none octets = (result, state, rest))
      (no_frame : ∀ frame, result ≠ .ok (some frame)) : Lacks octets := by
    intro frame rest' begins
    rw [(begins_iff_cutBytes ofIo).1 begins] at cut
    exact no_frame frame (Prod.mk.inj cut).1.symm
  refine ⟨lacks cut no_frame, ?_⟩
  rcases result with e | _ | frame
  · refine ⟨_, _, _, rfl, .fails e fun more _ => ?_⟩
    exact lacks ((incremental ofIo).stable cut (by simp) more) (by simp)
  · obtain ⟨valid, heard⟩ := head_append_of_cutBytes ofIo cut
    -- Behind the end or a failure of the stream nothing follows.
    have never (settled : verge ≠ .wait) (more : Bytes) (later : verge = .wait ∨ more = []) :
        Lacks (octets ++ more) := by
      rw [later.resolve_left settled, List.append_nil]
      exact lacks cut no_frame
    cases verge with
    | data bytes => exact absurd rfl (no_data bytes)
    | wait => exact ⟨_, _, _, rfl, .waits rfl valid heard⟩
    | failed e => exact ⟨_, _, _, rfl, .fails _ (never (by simp))⟩
    | stop =>
      cases rest with
      | nil =>
        have nothing := cutLast_of_cutBytes ofIo cut
        rcases last : (framing ofIo).cutLast state .empty with ⟨result, state', buffer⟩
        rw [last] at nothing
        obtain rfl : result = .ok none := nothing
        refine ⟨.done none, state', buffer.toBytes, ?_, .ends (never (by simp))⟩
        simp only [Framing.conclude, List.isEmpty_nil, if_true, Framing.view, last]
        rfl
      | cons octet rest => exact ⟨_, _, _, rfl, .fails _ (never (by simp))⟩
  · exact absurd rfl (no_frame frame)

/-- A reader finds the first frame of the octets before it, if there is one. -/
theorem readFrame_first {state : State} (valid : Valid state) {wire : Wire} {stream : Stream}
    (heard : head state ++ wire.ahead stream = octets) :
    (∃ frame rest wire' stream', Begins octets frame rest ∧
        wire.readFrame (framing ofIo) state stream = (.done (some frame), none, wire', stream') ∧
        wire'.ahead stream' = rest ∧ wire.Advanced stream wire' stream') ∨
      ∃ outcome state' wire' stream', Lacks octets ∧
        wire.readFrame (framing ofIo) state stream = (outcome, state', wire', stream') ∧
        Stalls octets stream.inbound.verge outcome state' (wire'.ahead stream') ∧
        wire.Advanced stream wire' stream' := by
  -- However the octets arrive, a reader comes to what is concluded from all of them.
  have reads {outcome : Outcome ε (Option Bytes)} {state' : State} {rest : Bytes}
      (concluded : (framing ofIo).conclude stream.inbound.verge
        ((framing ofIo).cutBytes none octets) = (outcome, state', rest)) :
      ∃ wire' stream', wire.readFrame (framing ofIo) state stream =
          (outcome, state', wire', stream') ∧
        wire'.ahead stream' = rest ∧ wire.Advanced stream wire' stream' := by
    rw [← heard, cutBytes_none_head ofIo valid] at concluded
    exact Wire.readFrame_eq (incremental ofIo) concluded
  rcases cut : (framing ofIo).cutBytes none octets with ⟨result, state', rest⟩
  by_cases found : ∃ frame, result = .ok (some frame)
  · obtain ⟨frame, rfl⟩ := found
    obtain ⟨rfl, -, -⟩ := eq_encode_of_cutBytes ofIo cut
    obtain ⟨wire', stream', read, rest_eq, advanced⟩ := reads (by rw [cut, Framing.conclude])
    exact .inl ⟨frame, rest, wire', stream', (begins_iff_cutBytes ofIo).2 cut, read, rest_eq,
      advanced⟩
  · obtain ⟨lacks, outcome, state', rest, concluded, stalls⟩ := stalls_of_cutBytes ofIo
      stream.inbound.verge_ne_data cut fun frame same => found ⟨frame, same⟩
    rw [← cut] at concluded
    obtain ⟨wire', stream', read, rest_eq, advanced⟩ := reads concluded
    rw [← rest_eq] at stalls
    exact .inr ⟨outcome, state', wire', stream', lacks, read, stalls, advanced⟩

end LengthPrefixed

namespace Registry

/-- A registration adds at most one entry. -/
theorem size_insert_le (registry : Registry) (endpoint : Endpoint) (key : PublicKey) :
    (registry.insert endpoint key).size ≤ registry.size + 1 :=
  Nat.succ_le_succ (List.length_filter_le _ _)

end Registry

namespace Negotiation

variable {party : Party} {message : Bytes} {key key' : PublicKey}

/-- A party takes the key in a message for the one of the other side: the message is an envelope
with which the party shares the secure channel, it has a key, and the party does not expect another
one. -/
def Party.Heeds (party : Party) (message : Bytes) (key : PublicKey) : Prop :=
  ∃ envelope material, Envelope.decode message = .ok envelope ∧
    party.upgrades.Shares envelope ∧ envelope.material = some material ∧
    material.publicKey = .ok key ∧ (party.expected = none ∨ party.expected = some key)

/-- A party takes a key for the one of the other side if it agrees on it. -/
theorem Party.heeds_iff : party.Heeds message key ↔ ∃ envelope resolution secret,
    Envelope.decode message = .ok envelope ∧
      agree party envelope = .ok ⟨resolution, some (secret, key)⟩ := by
  constructor
  · rintro ⟨envelope, material, decoded, shares, sent, read, expects⟩
    obtain ⟨channel, mine⟩ := Option.ne_none_iff_exists'.1 shares.1
    refine ⟨envelope, .resolved [.secureChannel], channel.secret, decoded, ?_⟩
    rw [agree_of_shares mine shares]
    simp only [sent, read]
    rcases expects with nobody | same
    · rw [nobody]
    · rw [same]
      exact if_pos rfl
  · rintro ⟨envelope, resolution, secret, decoded, agreed⟩
    obtain ⟨shares, -, -, expects⟩ := shares_of_agree agreed
    obtain ⟨material, sent, read⟩ := material_of_agree agreed
    exact ⟨envelope, material, decoded, shares, sent, read, expects⟩

/-- There is one key in a message. -/
theorem Party.Heeds.unique (heeds : party.Heeds message key) (heeds' : party.Heeds message key') :
    key' = key := by
  obtain ⟨envelope, material, decoded, -, sent, read, -⟩ := heeds
  obtain ⟨envelope', material', decoded', -, sent', read', -⟩ := heeds'
  obtain rfl : envelope' = envelope := Except.ok.inj (decoded'.symm.trans decoded)
  obtain rfl : material' = material := Option.some.inj (sent'.symm.trans sent)
  exact Except.ok.inj (read'.symm.trans read)

/-- A party does not take the key in a message that it disagrees with, or agrees with on a bare
stream. -/
theorem Party.not_heeds {envelope : Envelope} (decoded : Envelope.decode message = .ok envelope)
    (keyless : ∀ resolution secret key,
      agree party envelope ≠ .ok ⟨resolution, some (secret, key)⟩) :
    ¬ party.Heeds message key := by
  intro heeds
  obtain ⟨envelope', resolution, secret, decoded', agreed⟩ := Party.heeds_iff.1 heeds
  obtain rfl : envelope' = envelope := Except.ok.inj (decoded'.symm.trans decoded)
  exact keyless _ _ _ agreed

/-- A party takes the key that it agrees on with a message. -/
theorem Party.Secures.heeds {resolution : Resolution} {secret : SecretKey}
    (secures : party.Secures message resolution secret key) : party.Heeds message key := by
  obtain ⟨envelope, decoded, agreed⟩ := secures.agreed
  exact Party.heeds_iff.2 ⟨envelope, resolution, secret, decoded, agreed⟩

/-- A party registers a key if the first frame that it hears is a message with this key. -/
def Party.Admits (party : Party) (heard : Bytes) (key : PublicKey) : Prop :=
  ∃ message rest, LengthPrefixed.Begins heard message rest ∧ party.Heeds message key

/-- The first frame decides about the key. -/
theorem Party.admits_iff {heard rest : Bytes} (begins : LengthPrefixed.Begins heard message rest) :
    party.Admits heard key ↔ party.Heeds message key := by
  constructor
  · rintro ⟨message', rest', begins', heeds⟩
    obtain ⟨rfl, -⟩ := begins.unique begins'
    exact heeds
  · exact fun heeds => ⟨message, rest, begins, heeds⟩

/-- More octets behind the first frame do not matter. -/
theorem Party.Admits.append {heard : Bytes} (admits : party.Admits heard key) (more : Bytes) :
    party.Admits (heard ++ more) key := by
  obtain ⟨message, rest, begins, heeds⟩ := admits
  exact ⟨message, rest ++ more, begins.append more, heeds⟩

/-- Without a first frame there is no key. -/
theorem Party.not_admits {heard : Bytes} (lacks : LengthPrefixed.Lacks heard) :
    ¬ party.Admits heard key := by
  rintro ⟨message, rest, begins, -⟩
  exact lacks message rest begins

end Negotiation

end PeerLink
