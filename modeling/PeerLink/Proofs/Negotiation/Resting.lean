import PeerLink.Proofs.Negotiation.Heeding
import PeerLink.Proofs.Noise.Handshake
import PeerLink.Proofs.Noise.Possession
import PeerLink.Proofs.Patience.Later

/-!
# What a side has done when it rests

A side that no other negotiation steps in on runs until it waits or is over. What it has written and
registered by then is decided by the octets that it has heard: `Accounts` says how, for everything
that a side may have come to. `Dialer.Waits` and `Listener.Waits` give the places where a side
waits, with all that is known there. For each phase there is one lemma that says that a run from it
comes to rest (`Dialer.rests_offering`, `Listener.rests_awaitingOffer` and the ones before them),
and a side that has waited rests again when it finds more octets (`Dialer.Waits.again`,
`Listener.Waits.again`).
-/

namespace PeerLink.Negotiation

open LengthPrefixed (Begins Lacks Valid head)

/-! ## What has come of a negotiation -/

/-- The results of a negotiation in which no key is registered. -/
inductive Early : Except NegotiationError Connection → Prop
  /-- A bare connection. -/
  | bare {connection : Connection} (insecure : connection.isSecure = false) : Early (.ok connection)
  /-- The first frame is no envelope. -/
  | invalidEnvelope (fault : Json.Fault) : Early (.error (.invalidEnvelope fault))
  /-- There is no key in the envelope. -/
  | missingChannelMaterial : Early (.error .missingChannelMaterial)
  /-- What is there is no key. -/
  | invalidChannelMaterial (cause : KeyError) : Early (.error (.invalidChannelMaterial cause))
  /-- Another key is expected. -/
  | identityMismatch (expected received : PublicKey) :
    Early (.error (.identityMismatch expected received))

/-- What a side has registered that has heard and said something, if it had `registry` before and
has `registry'` then, with the result of its negotiation if that is over. -/
structure Registers (suite : Suite) (party : Party) (registry : Registry) (heard said : Bytes)
    (registry' : Registry) (result : Option (Except NegotiationError Connection)) : Prop where
  /-- What a side says first is its envelope. -/
  opens : said = [] ∨ LengthPrefixed.encode (party.envelope suite) <+: said
  /-- The key in the first frame is registered by a side that has said something. -/
  set : ∀ key, party.Admits heard key → said ≠ [] →
    registry' = registry.insert party.remote key
  /-- Nothing else is registered. -/
  kept : (∀ key, party.Admits heard key → said = []) → registry' = registry
  /-- The results before the key is registered. -/
  early : ∀ result', result = some result' → Early result' →
    ∀ key, party.Admits heard key → said = []
  /-- A secure connection is one with the owner of the key. -/
  secure : ∀ connection key, result = some (.ok connection) →
    connection.remoteIdentity = some key → party.Admits heard key ∧ said ≠ []

section Registers

variable {suite : Suite} {party : Party} {registry : Registry} {heard said : Bytes}
  {result : Option (Except NegotiationError Connection)}

/-- A side that has said its envelope has said something. -/
theorem ne_nil_of_opens (opens : LengthPrefixed.encode (party.envelope suite) <+: said) :
    said ≠ [] := by
  rintro rfl
  exact LengthPrefixed.encode_ne_nil _ (List.prefix_nil.1 opens)

/-- A side that has no key to register, or has said nothing, has registered nothing. -/
theorem Registers.of_kept
    (opens : said = [] ∨ LengthPrefixed.encode (party.envelope suite) <+: said)
    (none_admitted : ∀ key, party.Admits heard key → said = [])
    (insecure : ∀ connection, result = some (.ok connection) → connection.remoteIdentity = none) :
    Registers suite party registry heard said registry result where
  opens := opens
  set key admits something := absurd (none_admitted key admits) something
  kept _ := rfl
  early _ _ _ := none_admitted
  secure connection key settled owner := by
    rw [insecure connection settled] at owner
    cases owner

/-- A side that has said something has registered the key in the first frame. -/
theorem Registers.of_set {key : PublicKey} (admits : party.Admits heard key)
    (opens : LengthPrefixed.encode (party.envelope suite) <+: said)
    (late : ∀ result', result = some result' → ¬ Early result')
    (owner : ∀ connection key', result = some (.ok connection) →
      connection.remoteIdentity = some key' → key' = key) :
    Registers suite party registry heard said (registry.insert party.remote key) result where
  opens := .inr opens
  set key' admits' _ := by
    obtain ⟨message, rest, begins, heeds⟩ := admits
    have heeds' := (Party.admits_iff begins).1 admits'
    rw [heeds.unique heeds']
  kept nothing := absurd (nothing key admits) (ne_nil_of_opens opens)
  early result' settled early := absurd early (late result' settled)
  secure connection key' settled owner' := by
    obtain rfl := owner connection key' settled owner'
    exact ⟨admits, ne_nil_of_opens opens⟩

end Registers

/-- What a negotiation has come to for others: what was written behind the octets `before`, and what
was registered. What it says is known if writes do not fail. -/
def Accounts (Speaks : Bytes → Bytes → Prop) (suite : Suite) (party : Party) (registry : Registry)
    (before : Bytes) (free : Prop) (heard : Bytes)
    (result : Option (Except NegotiationError Connection)) (registry' : Registry)
    (outbound : Pipe) : Prop :=
  ∃ said, outbound.written = before ++ said ∧
    Registers suite party registry heard said registry' result ∧ (free → Speaks heard said)

/-- What is known if writes do not fail is known if more does not. -/
theorem Accounts.imp {Speaks : Bytes → Bytes → Prop} {suite : Suite} {party : Party}
    {registry registry' : Registry} {before heard : Bytes} {free free' : Prop}
    {result : Option (Except NegotiationError Connection)} {outbound : Pipe}
    (accounts : Accounts Speaks suite party registry before free heard result registry' outbound)
    (weaker : free' → free) :
    Accounts Speaks suite party registry before free' heard result registry' outbound := by
  obtain ⟨said, written, registers, speaks⟩ := accounts
  exact ⟨said, written, registers, fun writes => speaks (weaker writes)⟩

/-- Where a side rests: it waits, or its negotiation is over and nothing that follows changes
anything. -/
inductive Rests {σ : Type} (Waits : σ → Registry → Stream → Prop) (Speaks : Bytes → Bytes → Prop)
    (suite : Suite) (party : Party) (registry : Registry) (before : Bytes) (free : Prop)
    (verge : ReadResult) (heard : Bytes) : Move σ × Registry × Stream → Prop
  /-- The side waits. -/
  | waits {state : σ} {registry' : Registry} {stream : Stream}
      (waits : Waits state registry' stream) :
      Rests Waits Speaks suite party registry before free verge heard
        (.wait state, registry', stream)
  /-- The negotiation is over. -/
  | settled {result : Except NegotiationError Connection} {registry' : Registry} {stream : Stream}
      (accounts : ∀ more, verge = .wait ∨ more = [] → Accounts Speaks suite party registry before
        free (heard ++ more) (some result) registry' stream.outbound) :
      Rests Waits Speaks suite party registry before free verge heard
        (.finished result, registry', stream)

/-! ## A side that waits -/

/-- A side has written `said` and nothing else behind the octets `before`, and is to write nothing
more; nothing is held back from it. -/
structure Spoken (before said : Bytes) (free : Prop) (wire : Wire) (stream : Stream) : Prop where
  /-- There is nothing to write. -/
  unwritten : wire.unwritten = .empty
  /-- What was written. -/
  written : stream.outbound.written = before ++ said
  /-- Writes do not fail, as far as this is asked for. -/
  accepts : free → stream.outbound.refuses = false
  /-- Nothing is held back. -/
  gate : stream.inbound.gate = none

/-- A stream over which a side waits. -/
structure Calm (free : Prop) (stream : Stream) : Prop where
  /-- Nothing is held back. -/
  gate : stream.inbound.gate = none
  /-- There is nothing to read yet. -/
  verge : stream.inbound.verge = .wait
  /-- Writes do not fail, as far as this is asked for. -/
  accepts : free → stream.outbound.refuses = false

/-- A stream has become another one: octets have arrived, it has come to its end, or writes fail. -/
structure Meets (bytes : Bytes) (verge : ReadResult) (free : Prop) (stream stream' : Stream) :
    Prop where
  /-- The octets that have arrived. -/
  ahead : ∀ wire : Wire, wire.ahead stream' = wire.ahead stream ++ bytes
  /-- Nothing is held back. -/
  gate : stream'.inbound.gate = none
  /-- What is behind the octets. -/
  verge : stream'.inbound.verge = verge
  /-- Nothing was written. -/
  written : stream'.outbound.written = stream.outbound.written
  /-- Writes do not fail, as far as this is asked for. -/
  accepts : free → stream'.outbound.refuses = false

section Spoken

variable {before said message bytes : Bytes} {free free' : Prop} {verge : ReadResult}
  {wire wire' : Wire} {stream stream' : Stream}

/-- Reading writes nothing. -/
theorem Spoken.advanced (spoken : Spoken before said free wire stream)
    (advanced : wire.Advanced stream wire' stream') : Spoken before said free wire' stream' where
  unwritten := advanced.unwritten.trans spoken.unwritten
  written := by
    rw [advanced.outbound]
    exact spoken.written
  accepts := by
    rw [advanced.outbound]
    exact spoken.accepts
  gate := advanced.gate_eq_none spoken.gate

/-- A side that finds nothing to read waits. -/
theorem Spoken.calm (spoken : Spoken before said free wire stream)
    (verge : stream.inbound.verge = .wait) : Calm free stream :=
  ⟨spoken.gate, verge, spoken.accepts⟩

/-- A side that waits has still written the same when something has happened to its stream. -/
theorem Spoken.meets (spoken : Spoken before said free wire stream)
    (meets : Meets bytes verge free' stream stream') : Spoken before said free' wire stream' where
  unwritten := spoken.unwritten
  written := meets.written.trans spoken.written
  accepts := meets.accepts
  gate := meets.gate

/-- A side writes a message, unless writes fail. -/
theorem Spoken.say (spoken : Spoken before said free wire stream) (some_octets : message ≠ []) :
    (¬ free ∧ ∃ wire' stream',
        (wire.put message).flush stream = (.error .brokenPipe, wire', stream') ∧
        stream'.outbound.written = before ++ said) ∨
      ∃ stream', (wire.put message).flush stream = (.ok (), wire, stream') ∧
        stream'.inbound = stream.inbound ∧
        Spoken before (said ++ message) free wire stream' := by
  rcases Wire.flush_put_cases spoken.unwritten some_octets stream with
    ⟨refuses, wire', stream', failed, same⟩ | ⟨-, stream', flushed, inbound, accepts, written⟩
  · refine .inl ⟨fun writes => ?_, wire', stream', failed, same.trans spoken.written⟩
    rw [spoken.accepts writes] at refuses
    cases refuses
  · refine .inr ⟨stream', flushed, inbound, spoken.unwritten, ?_, fun _ => accepts, ?_⟩
    · rw [written, spoken.written, List.append_assoc]
    · rw [inbound]
      exact spoken.gate

end Spoken

/-- A message of a fixed size that is not complete is waited for, or it never will be complete. -/
theorem unfinished_cases {verge : ReadResult} (no_data : ∀ bytes, verge ≠ .data bytes) :
    (verge = .wait ∧ Wire.unfinished verge = .waiting) ∨
      verge ≠ .wait ∧ ∃ e, Wire.unfinished verge = .failed e := by
  cases verge with
  | data bytes => exact absurd rfl (no_data bytes)
  | wait => exact .inl ⟨rfl, rfl⟩
  | failed e => exact .inr ⟨by simp, e, rfl⟩
  | stop => exact .inr ⟨by simp, _, rfl⟩

/-! ## The dialer -/

namespace Dialer

/-- What a dialer says that has heard something: its offer, and the first message of the handshake
if it takes the key in the reply. -/
def Speaks (suite : Suite) (party : Party) (heard said : Bytes) : Prop :=
  ∃ initiation, said = LengthPrefixed.encode (party.envelope suite) ++ initiation ∧
    ((∃ key, party.Admits heard key) → initiation.length = Noise.initiationSize) ∧
    ((∀ key, ¬ party.Admits heard key) → initiation = [])

/-- Where a dialer waits that has heard something, and what it has done. -/
inductive Waits (suite : Suite) (party : Party) (registry : Registry) (before : Bytes)
    (free : Prop) (heard : Bytes) : Dialer → Registry → Stream → Prop
  /-- There is no reply yet. -/
  | reply {frames : LengthPrefixed.State} {wire : Wire} {stream : Stream} (valid : Valid frames)
      (octets : head frames ++ wire.ahead stream = heard) (lacks : Lacks heard)
      (spoken : Spoken before (LengthPrefixed.encode (party.envelope suite)) free wire stream)
      (awaited : stream.inbound.verge = .wait) :
      Waits suite party registry before free heard
        ⟨party, wire, .awaitingReply (party.envelope suite) frames⟩ registry stream
  /-- The key in the reply is registered, and there is no response yet. -/
  | response {reply rest : Bytes} {resolution : Resolution} {secret : SecretKey} {key : PublicKey}
      {received : Buffer} {wire : Wire} {stream : Stream} (begins : Begins heard reply rest)
      (secures : party.Secures reply resolution secret key)
      (spoken : Spoken before (LengthPrefixed.encode (party.envelope suite) ++
        (initiation suite party reply secret key).1) free wire stream)
      (awaited : stream.inbound.verge = .wait) :
      Waits suite party registry before free heard
        ⟨party, wire, .awaitingResponse (initiation suite party reply secret key).2 resolution
          received⟩ (registry.insert party.remote key) stream

/-- Where a dialer rests that has heard something, and what it has done. -/
abbrev Rests (suite : Suite) (party : Party) (registry : Registry) (before : Bytes) (free : Prop)
    (verge : ReadResult) (heard : Bytes) : Move Dialer × Registry × Stream → Prop :=
  Negotiation.Rests (Waits suite party registry before free heard) (Speaks suite party) suite party
    registry before free verge heard

section

variable {suite : Suite} {party : Party} {registry : Registry} {before heard reply rest : Bytes}
  {free : Prop} {resolution : Resolution} {secret : SecretKey} {key : PublicKey} {wire : Wire}
  {stream : Stream}

/-- What a dialer has said that takes no key. -/
theorem speaks_offer (none_admitted : ∀ key, ¬ party.Admits heard key) :
    Speaks suite party heard (LengthPrefixed.encode (party.envelope suite)) :=
  ⟨[], (List.append_nil _).symm, fun ⟨key, admits⟩ => absurd admits (none_admitted key),
    fun _ => rfl⟩

/-- What a dialer has said that takes the key in the reply. -/
theorem speaks_initiation (admits : party.Admits heard key) :
    Speaks suite party heard (LengthPrefixed.encode (party.envelope suite) ++
      (initiation suite party reply secret key).1) :=
  ⟨_, rfl, fun _ => Noise.length_initiate _ secret party.ephemeral key,
    fun none_admitted => absurd admits (none_admitted key)⟩

/-- What has come of the negotiation of a dialer that takes no key. -/
theorem accounts_offer {outbound : Pipe} {result : Option (Except NegotiationError Connection)}
    (none_admitted : ∀ key, ¬ party.Admits heard key)
    (written : outbound.written = before ++ LengthPrefixed.encode (party.envelope suite))
    (insecure : ∀ connection, result = some (.ok connection) → connection.remoteIdentity = none) :
    Accounts (Speaks suite party) suite party registry before free heard result registry outbound :=
  ⟨_, written, .of_kept (.inr (List.prefix_refl _))
    (fun key admits => absurd admits (none_admitted key)) insecure,
    fun _ => speaks_offer none_admitted⟩

/-- What has come of the negotiation of a dialer that takes the key in the reply. -/
theorem accounts_initiation {said : Bytes} {outbound : Pipe}
    {result : Option (Except NegotiationError Connection)} (admits : party.Admits heard key)
    (written : outbound.written = before ++ said)
    (opens : LengthPrefixed.encode (party.envelope suite) <+: said)
    (speaks : free → Speaks suite party heard said)
    (late : ∀ result', result = some result' → ¬ Early result')
    (owner : ∀ connection key', result = some (.ok connection) →
      connection.remoteIdentity = some key' → key' = key) :
    Accounts (Speaks suite party) suite party registry before free heard result
      (registry.insert party.remote key) outbound :=
  ⟨_, written, .of_set admits opens late owner, speaks⟩

/-- From the response on. -/
theorem rests_awaitingResponse (begins : Begins heard reply rest)
    (secures : party.Secures reply resolution secret key) (received : Buffer)
    (spoken : Spoken before (LengthPrefixed.encode (party.envelope suite) ++
      (initiation suite party reply secret key).1) free wire stream) :
    Rests suite party registry before free stream.inbound.verge heard
      (run suite (registry.insert party.remote key) ⟨party, wire, .awaitingResponse
        (initiation suite party reply secret key).2 resolution received⟩ stream) := by
  have admits : party.Admits heard key := ⟨reply, rest, begins, secures.heeds⟩
  -- Whatever the response is, the key was registered before.
  have settled {result : Except NegotiationError Connection} {stream' : Stream}
      (outbound : stream'.outbound.written = stream.outbound.written) (late : ¬ Early result)
      (owner : ∀ connection key', result = .ok connection →
        connection.remoteIdentity = some key' → key' = key) :
      Rests suite party registry before free stream.inbound.verge heard
        (.finished result, registry.insert party.remote key, stream') :=
    .settled fun more _ => accounts_initiation (admits.append more)
      (outbound.trans spoken.written) (List.prefix_append _ _)
      (fun _ => speaks_initiation (admits.append more)) (by rintro result' ⟨⟩; exact late)
      (fun connection key' same => owner connection key' (Option.some.inj same))
  obtain ⟨outcome, received', wire', stream', read, advanced, cases⟩ :=
    Wire.readExactly_cases Noise.responseSize received wire stream
  have outbound : stream'.outbound.written = stream.outbound.written := by rw [advanced.outbound]
  rw [run_eq]
  rcases cases with ⟨-, rfl, -⟩ | ⟨-, rfl, -⟩
  · cases finished : (initiation suite party reply secret key).2.finish? suite
        ((received.toBytes ++ wire.ahead stream).take Noise.responseSize) with
    | none =>
      simp only [step, read, finished]
      exact settled outbound (by rintro ⟨⟩) (by simp)
    | some channel =>
      have remote : channel.remote = key := (Noise.Initiator.finish?_eq_some finished).1
      simp only [step, read, finished]
      refine settled outbound ?_ ?_
      · rintro ⟨insecure⟩
        cases insecure
      · rintro connection key' ⟨⟩ owner
        exact (Option.some.inj owner).symm.trans remote
  · rcases unfinished_cases stream.inbound.verge_ne_data with
      ⟨awaited, unfinished⟩ | ⟨-, e, unfinished⟩
    · rw [unfinished] at read
      simp only [step, read]
      exact .waits (.response begins secures (spoken.advanced advanced)
        (advanced.verge.trans awaited))
    · rw [unfinished] at read
      simp only [step, read]
      exact settled outbound (by rintro ⟨⟩) (by simp)

/-- From the registration on. -/
theorem rests_registering (begins : Begins heard reply rest)
    (secures : party.Secures reply resolution secret key)
    (spoken : Spoken before (LengthPrefixed.encode (party.envelope suite)) free wire stream) :
    Rests suite party registry before free stream.inbound.verge heard
      (run suite registry ⟨party, wire, .registering (transcript (party.envelope suite) reply)
        resolution secret key⟩ stream) := by
  have admits : party.Admits heard key := ⟨reply, rest, begins, secures.heeds⟩
  have some_octets : (initiation suite party reply secret key).1 ≠ [] :=
    Noise.initiate_ne_nil _ secret party.ephemeral key
  rw [run_eq]
  simp only [step]
  rw [run_eq]
  -- Nobody has registered another key, so that the handshake is with the owner of this one.
  simp only [step, Registry.get?_insert]
  rcases spoken.say some_octets with
    ⟨fails, wire', stream', failed, written⟩ | ⟨stream', flushed, inbound, spoken'⟩
  · rw [initiation] at failed
    simp only [failed]
    exact .settled fun more _ => accounts_initiation (admits.append more) written
      (List.prefix_refl _) (fun writes => absurd writes fails) (by rintro result' ⟨⟩ ⟨⟩) (by simp)
  · have rests : Rests suite party registry before free _ heard _ :=
      rests_awaitingResponse begins secures .empty spoken'
    rw [inbound] at rests
    rw [initiation] at flushed
    simp only [flushed]
    exact rests

/-- From the reply on. -/
theorem rests_awaitingReply {frames : LengthPrefixed.State} (valid : Valid frames)
    (octets : head frames ++ wire.ahead stream = heard)
    (spoken : Spoken before (LengthPrefixed.encode (party.envelope suite)) free wire stream) :
    Rests suite party registry before free stream.inbound.verge heard
      (run suite registry ⟨party, wire, .awaitingReply (party.envelope suite) frames⟩ stream) := by
  -- A dialer whose negotiation ends here registers nothing.
  have settled {result : Except NegotiationError Connection} {stream' : Stream}
      (outbound : stream'.outbound.written = stream.outbound.written)
      (never : ∀ more, stream.inbound.verge = .wait ∨ more = [] →
        ∀ key, ¬ party.Admits (heard ++ more) key)
      (insecure : ∀ connection, result = .ok connection → connection.remoteIdentity = none) :
      Rests suite party registry before free stream.inbound.verge heard
        (.finished result, registry, stream') :=
    .settled fun more later => accounts_offer (never more later) (outbound.trans spoken.written)
      fun connection same => insecure connection (Option.some.inj same)
  rw [run_eq]
  rcases LengthPrefixed.readFrame_first NegotiationError.io valid octets with
    ⟨reply, rest, wire', stream', begins, read, -, advanced⟩ |
    ⟨outcome, frames', wire', stream', lacks, read, stalls, advanced⟩
  · have outbound : stream'.outbound.written = stream.outbound.written := by rw [advanced.outbound]
    have spoken' := spoken.advanced advanced
    have verge := advanced.verge
    -- The reply is complete, so that what follows it has no say.
    have decided {key : PublicKey} (no_key : ¬ party.Heeds reply key) (more : Bytes) :
        ¬ party.Admits (heard ++ more) key :=
      fun admits => no_key ((Party.admits_iff (begins.append more)).1 admits)
    rw [← framing] at read
    cases decoded : Envelope.decode reply with
    | error fault =>
      simp only [step, read, decoded]
      refine settled outbound (fun more _ key => decided ?_ more) (by simp)
      rintro ⟨envelope, -, decoded', -⟩
      rw [decoded] at decoded'
      cases decoded'
    | ok envelope =>
      rcases agreed : agree party envelope with e | ⟨resolution, _ | ⟨secret, key⟩⟩
      · simp only [step, read, decoded, agreed]
        refine settled outbound (fun more _ key => decided ?_ more) (by simp)
        exact Party.not_heeds decoded fun _ _ _ same => by simp [agreed] at same
      · simp only [step, read, decoded, agreed]
        refine settled outbound (fun more _ key => decided ?_ more) ?_
        · exact Party.not_heeds decoded fun _ _ _ same => by simp [agreed] at same
        · rintro connection ⟨⟩
          rfl
      · have secures : party.Secures reply resolution secret key :=
          ⟨begins.acceptable, envelope, decoded, agreed⟩
        have rests : Rests suite party registry before free _ heard _ :=
          rests_registering begins secures spoken'
        rw [verge] at rests
        simp only [step, read, decoded, agreed]
        exact rests
  · have outbound : stream'.outbound.written = stream.outbound.written := by rw [advanced.outbound]
    rw [← framing] at read
    cases stalls with
    | waits awaited valid' octets' =>
      simp only [step, read]
      exact .waits (.reply valid' octets' lacks (spoken.advanced advanced)
        (advanced.verge.trans awaited))
    | ends never =>
      simp only [step, read]
      exact settled outbound (fun more later key => Party.not_admits (never more later)) (by simp)
    | fails e never =>
      simp only [step, read]
      exact settled outbound (fun more later key => Party.not_admits (never more later)) (by simp)

/-- From the beginning on. -/
theorem rests_offering (octets : wire.ahead stream = heard)
    (spoken : Spoken before [] free wire stream) :
    Rests suite party registry before free stream.inbound.verge heard
      (run suite registry ⟨party, wire, .offering⟩ stream) := by
  rw [run_eq]
  rcases spoken.say (LengthPrefixed.encode_ne_nil (party.envelope suite)) with
    ⟨fails, wire', stream', failed, written⟩ | ⟨stream', flushed, inbound, spoken'⟩
  · rw [Party.envelope] at failed
    simp only [step, failed]
    exact .settled fun more _ => ⟨[], written,
      .of_kept (.inl rfl) (fun _ _ => rfl) (by simp), fun writes => absurd writes fails⟩
  · have same : wire.ahead stream' = wire.ahead stream := by rw [Wire.ahead, inbound, Wire.ahead]
    have rests : Rests suite party registry before free _ heard _ :=
      rests_awaitingReply LengthPrefixed.valid_none (same.trans octets) spoken'
    rw [inbound] at rests
    rw [Party.envelope] at flushed
    simp only [step, flushed]
    exact rests

end

section Waits

variable {suite : Suite} {party : Party} {registry registry' : Registry}
  {before heard bytes : Bytes} {free free' : Prop} {verge : ReadResult} {dialer : Dialer}
  {stream stream' : Stream}
  (waits : Waits suite party registry before free heard dialer registry' stream)

include waits

/-- The stream of a dialer that waits. -/
theorem Waits.calm : Calm free stream := by
  cases waits with
  | reply valid octets lacks spoken awaited => exact spoken.calm awaited
  | response begins secures spoken awaited => exact spoken.calm awaited

/-- What has come so far of the negotiation of a dialer that waits. -/
theorem Waits.accounts : Accounts (Speaks suite party) suite party registry before free heard none
    registry' stream.outbound := by
  cases waits with
  | reply valid octets lacks spoken =>
    exact accounts_offer (fun key => Party.not_admits lacks) spoken.written (by simp)
  | response begins secures spoken =>
    have admits : party.Admits heard _ := ⟨_, _, begins, secures.heeds⟩
    exact accounts_initiation admits spoken.written (List.prefix_append _ _)
      (fun _ => speaks_initiation admits) (by simp) (by simp)

/-- A dialer that has waited rests again when something has happened to its stream. -/
theorem Waits.again (meets : Meets bytes verge free' stream stream') :
    Rests suite party registry before free' verge (heard ++ bytes)
      (dialer.run suite registry' stream') := by
  rw [← meets.verge]
  cases waits with
  | reply valid octets lacks spoken =>
    refine rests_awaitingReply valid ?_ (spoken.meets meets)
    rw [meets.ahead, ← List.append_assoc, octets]
  | response begins secures spoken =>
    exact rests_awaitingResponse (begins.append bytes) secures _ (spoken.meets meets)

end Waits

end Dialer

/-! ## The listener -/

namespace Listener

/-- The first message of the handshake is authentic, and its sender is the owner of a key. -/
def Recognizes (suite : Suite) (party : Party) (offer : Bytes) (key : PublicKey)
    (message : Bytes) : Prop :=
  ∃ channel responder, party.upgrades.secureChannel? = some channel ∧
    responder? suite party offer channel.secret message = some responder ∧
    responder.initiator = key

/-- A listener lets the other side finish the handshake: it takes the key in the offer, and the
owner of this key has sent the message behind it. -/
def Admitted (suite : Suite) (party : Party) (offer rest : Bytes) : Prop :=
  ∃ key, party.Heeds offer key ∧ Noise.initiationSize ≤ rest.length ∧
    Recognizes suite party offer key (rest.take Noise.initiationSize)

/-- What a listener says that has heard something. -/
structure Speaks (suite : Suite) (party : Party) (heard said : Bytes) : Prop where
  /-- Nothing if the first frame is not complete or no envelope. -/
  silent : (∀ offer rest envelope, Begins heard offer rest → Envelope.decode offer ≠ .ok envelope) →
    said = []
  /-- Its own envelope if it is one, and the second message of the handshake if it lets the other
  side finish it. -/
  replies : ∀ offer rest envelope, Begins heard offer rest → Envelope.decode offer = .ok envelope →
    ∃ response, said = LengthPrefixed.encode (party.envelope suite) ++ response ∧
      (Admitted suite party offer rest → response.length = Noise.responseSize) ∧
      (¬ Admitted suite party offer rest → response = [])

/-- Where a listener waits that has heard something, and what it has done. -/
inductive Waits (suite : Suite) (party : Party) (registry : Registry) (before : Bytes)
    (free : Prop) (heard : Bytes) : Listener → Registry → Stream → Prop
  /-- There is no offer yet. -/
  | offer {frames : LengthPrefixed.State} {wire : Wire} {stream : Stream} (valid : Valid frames)
      (octets : head frames ++ wire.ahead stream = heard) (lacks : Lacks heard)
      (spoken : Spoken before [] free wire stream) (awaited : stream.inbound.verge = .wait) :
      Waits suite party registry before free heard ⟨party, wire, .awaitingOffer frames⟩ registry
        stream
  /-- The key in the offer is registered, and the first message of the handshake is not complete. -/
  | initiation {offer rest : Bytes} {resolution : Resolution} {secret : SecretKey}
      {key : PublicKey} {received : Buffer} {wire : Wire} {stream : Stream}
      (begins : Begins heard offer rest) (secures : party.Secures offer resolution secret key)
      (octets : received.toBytes ++ wire.ahead stream = rest)
      (short : rest.length < Noise.initiationSize)
      (spoken : Spoken before (LengthPrefixed.encode (party.envelope suite)) free wire stream)
      (awaited : stream.inbound.verge = .wait) :
      Waits suite party registry before free heard ⟨party, wire, .awaitingInitiation
        (transcript offer (party.envelope suite)) resolution secret received⟩
        (registry.insert party.remote key) stream

/-- Where a listener rests that has heard something, and what it has done. -/
abbrev Rests (suite : Suite) (party : Party) (registry : Registry) (before : Bytes) (free : Prop)
    (verge : ReadResult) (heard : Bytes) : Move Listener × Registry × Stream → Prop :=
  Negotiation.Rests (Waits suite party registry before free heard) (Speaks suite party) suite party
    registry before free verge heard

section

variable {suite : Suite} {party : Party} {registry : Registry} {before heard offer rest : Bytes}
  {free : Prop} {resolution : Resolution} {secret : SecretKey} {key : PublicKey} {wire : Wire}
  {stream : Stream}

/-- A listener that agrees on the secure channel recognizes the other side by its secret key. -/
theorem admitted_iff (secures : party.Secures offer resolution secret key) :
    Admitted suite party offer rest ↔ Noise.initiationSize ≤ rest.length ∧ ∃ responder,
      responder? suite party offer secret (rest.take Noise.initiationSize) = some responder ∧
        responder.initiator = key := by
  obtain ⟨envelope, -, agreed⟩ := secures.agreed
  obtain ⟨-, -, ⟨channel, mine, rfl⟩, -⟩ := shares_of_agree agreed
  constructor
  · rintro ⟨key', heeds, long, channel', responder, mine', responds, rfl⟩
    obtain rfl : channel' = channel := Option.some.inj (mine'.symm.trans mine)
    exact ⟨long, responder, responds, secures.heeds.unique heeds⟩
  · rintro ⟨long, responder, responds, owner⟩
    exact ⟨key, secures.heeds, long, channel, responder, mine, responds, owner⟩

/-- More octets behind the first message of the handshake do not matter. -/
theorem take_append_more {n : Nat} (long : n ≤ rest.length) (more : Bytes) :
    n ≤ (rest ++ more).length ∧ (rest ++ more).take n = rest.take n := by
  rw [List.length_append, List.take_append_of_le_length long]
  exact ⟨by omega, rfl⟩

/-- A listener that has not heard an envelope says nothing. -/
theorem speaks_nothing
    (plain : ∀ offer rest envelope, Begins heard offer rest →
      Envelope.decode offer ≠ .ok envelope) :
    Speaks suite party heard [] where
  silent _ := rfl
  replies offer rest envelope begins decoded := absurd decoded (plain offer rest envelope begins)

/-- A listener that has heard an envelope replies. -/
theorem speaks_reply {envelope : Envelope} {response : Bytes} (begins : Begins heard offer rest)
    (decoded : Envelope.decode offer = .ok envelope)
    (answers : Admitted suite party offer rest → response.length = Noise.responseSize)
    (refuses : ¬ Admitted suite party offer rest → response = []) :
    Speaks suite party heard (LengthPrefixed.encode (party.envelope suite) ++ response) where
  silent plain := absurd decoded (plain offer rest envelope begins)
  replies offer' rest' envelope' begins' _ := by
    obtain ⟨rfl, rfl⟩ := begins.unique begins'
    exact ⟨response, rfl, answers, refuses⟩

/-- What has come of the negotiation of a listener that has heard no envelope. -/
theorem accounts_nothing {outbound : Pipe} {result : Option (Except NegotiationError Connection)}
    (plain : ∀ offer rest envelope, Begins heard offer rest → Envelope.decode offer ≠ .ok envelope)
    (written : outbound.written = before)
    (insecure : ∀ connection, result = some (.ok connection) → connection.remoteIdentity = none) :
    Accounts (Speaks suite party) suite party registry before free heard result registry outbound :=
  ⟨[], by rw [written, List.append_nil], .of_kept (.inl rfl) (fun _ _ => rfl) insecure,
    fun _ => speaks_nothing plain⟩

/-- What has come of the negotiation of a listener that takes the key in the offer. -/
theorem accounts_reply (response : Bytes) {outbound : Pipe}
    {result : Option (Except NegotiationError Connection)} (begins : Begins heard offer rest)
    (secures : party.Secures offer resolution secret key)
    (written : outbound.written =
      before ++ (LengthPrefixed.encode (party.envelope suite) ++ response))
    (answers : free → Admitted suite party offer rest → response.length = Noise.responseSize)
    (refuses : free → ¬ Admitted suite party offer rest → response = [])
    (late : ∀ result', result = some result' → ¬ Early result')
    (owner : ∀ connection key', result = some (.ok connection) →
      connection.remoteIdentity = some key' → key' = key) :
    Accounts (Speaks suite party) suite party registry before free heard result
      (registry.insert party.remote key) outbound := by
  obtain ⟨envelope, decoded, -⟩ := secures.agreed
  exact ⟨_, written,
    .of_set ⟨offer, rest, begins, secures.heeds⟩ (List.prefix_append _ _) late owner,
    fun writes => speaks_reply begins decoded (answers writes) (refuses writes)⟩

/-- From the comparison with the registered key on. -/
theorem rests_lookingUp {responder : Noise.Responder} (begins : Begins heard offer rest)
    (secures : party.Secures offer resolution secret key)
    (long : Noise.initiationSize ≤ rest.length)
    (responds : responder? suite party offer secret (rest.take Noise.initiationSize) =
      some responder)
    (spoken : Spoken before (LengthPrefixed.encode (party.envelope suite)) free wire stream) :
    Rests suite party registry before free stream.inbound.verge heard
      (run suite (registry.insert party.remote key)
        ⟨party, wire, .lookingUp responder resolution⟩ stream) := by
  -- The first message is complete, so that what follows it has no say.
  have admitted (more : Bytes) :
      Admitted suite party offer (rest ++ more) ↔ responder.initiator = key := by
    obtain ⟨long', same⟩ := take_append_more long more
    rw [admitted_iff secures, same, responds]
    constructor
    · rintro ⟨-, responder', found, owner⟩
      obtain rfl := Option.some.inj found
      exact owner
    · exact fun owner => ⟨long', responder, rfl, owner⟩
  have spoken_nil : stream.outbound.written =
      before ++ (LengthPrefixed.encode (party.envelope suite) ++ []) := by
    rw [spoken.written, List.append_nil]
  rw [run_eq]
  simp only [step, Registry.get?_insert]
  by_cases owner : responder.initiator = key
  · rw [if_pos owner]
    have size : (responder.reply suite party.ephemeral).1.length = Noise.responseSize :=
      Noise.length_reply party.ephemeral responder
    rcases spoken.say (@Noise.reply_ne_nil suite party.ephemeral responder) with
      ⟨fails, wire', stream', failed, written⟩ | ⟨stream', flushed, inbound, spoken'⟩
    · simp only [failed]
      have written_nil : stream'.outbound.written =
          before ++ (LengthPrefixed.encode (party.envelope suite) ++ []) := by
        rw [written, List.append_nil]
      exact .settled fun more _ => accounts_reply [] (begins.append more) secures written_nil
        (fun writes => absurd writes fails) (fun _ _ => rfl) (by rintro result' ⟨⟩ ⟨⟩) (by simp)
    · simp only [flushed]
      refine .settled fun more _ => accounts_reply _ (begins.append more) secures spoken'.written
        (fun _ _ => size) (fun _ refused => ?_) ?_ ?_
      · exact absurd ((admitted more).2 owner) refused
      · rintro result' ⟨⟩ ⟨insecure⟩
        cases insecure
      · rintro connection key' ⟨⟩ identity
        exact (Option.some.inj identity).symm.trans owner
  · rw [if_neg owner]
    exact .settled fun more _ => accounts_reply [] (begins.append more) secures spoken_nil
      (fun _ answered => absurd ((admitted more).1 answered) owner) (fun _ _ => rfl)
      (by rintro result' ⟨⟩ ⟨⟩) (by simp)

/-- From the first message of the handshake on. -/
theorem rests_awaitingInitiation {received : Buffer} (begins : Begins heard offer rest)
    (secures : party.Secures offer resolution secret key)
    (octets : received.toBytes ++ wire.ahead stream = rest)
    (spoken : Spoken before (LengthPrefixed.encode (party.envelope suite)) free wire stream) :
    Rests suite party registry before free stream.inbound.verge heard
      (run suite (registry.insert party.remote key) ⟨party, wire, .awaitingInitiation
        (transcript offer (party.envelope suite)) resolution secret received⟩ stream) := by
  -- A listener whose negotiation ends here has registered the key and sent no response.
  have settled {result : Except NegotiationError Connection} {stream' : Stream}
      (outbound : stream'.outbound.written = stream.outbound.written)
      (unrecognized : ∀ more, stream.inbound.verge = .wait ∨ more = [] →
        ¬ Admitted suite party offer (rest ++ more))
      (fails : ∃ e, result = .error e) (late : ¬ Early result) :
      Rests suite party registry before free stream.inbound.verge heard
        (.finished result, registry.insert party.remote key, stream') := by
    obtain ⟨e, rfl⟩ := fails
    refine .settled fun more later => accounts_reply [] (begins.append more) secures ?_
      (fun _ answered => absurd answered (unrecognized more later)) (fun _ _ => rfl)
      (by rintro result' ⟨⟩; exact late) (by simp)
    rw [outbound, spoken.written, List.append_nil]
  obtain ⟨outcome, received', wire', stream', read, advanced, cases⟩ :=
    Wire.readExactly_cases Noise.initiationSize received wire stream
  have outbound : stream'.outbound.written = stream.outbound.written := by rw [advanced.outbound]
  have spoken' := spoken.advanced advanced
  have length := congrArg List.length octets
  rw [List.length_append] at length
  rw [run_eq]
  rcases cases with ⟨long, rfl, -⟩ | ⟨short, rfl, received_eq, nothing⟩
  · rw [octets] at read
    rw [length] at long
    cases responds : responder? suite party offer secret (rest.take Noise.initiationSize) with
    | none =>
      have unresponded := responds
      rw [responder?] at responds
      simp only [step, read, responds]
      refine settled outbound (fun more _ admitted => ?_) ⟨_, rfl⟩ (by rintro ⟨⟩)
      obtain ⟨-, responder, found, -⟩ := (admitted_iff secures).1 admitted
      rw [(take_append_more long more).2, unresponded] at found
      cases found
    | some responder =>
      have rests : Rests suite party registry before free _ heard _ :=
        rests_lookingUp begins secures long responds spoken'
      rw [advanced.verge] at rests
      rw [responder?] at responds
      simp only [step, read, responds]
      exact rests
  · rw [length] at short
    rcases unfinished_cases stream.inbound.verge_ne_data with
      ⟨awaited, unfinished⟩ | ⟨ended, e, unfinished⟩
    · rw [unfinished] at read
      simp only [step, read]
      refine .waits (.initiation begins secures ?_ short spoken' (advanced.verge.trans awaited))
      rw [received_eq, nothing, List.append_nil, octets]
    · rw [unfinished] at read
      simp only [step, read]
      refine settled outbound (fun more later => ?_) ⟨_, rfl⟩ (by rintro ⟨⟩)
      -- What is missing never follows, as the stream has ended.
      rw [later.resolve_left ended, List.append_nil]
      rintro ⟨-, -, long, -⟩
      omega

/-- What has come of the negotiation of a listener that has replied to an offer of which it takes no
key. -/
theorem accounts_replied {envelope : Envelope} {outbound : Pipe}
    {result : Option (Except NegotiationError Connection)} (begins : Begins heard offer rest)
    (decoded : Envelope.decode offer = .ok envelope) (no_key : ∀ key, ¬ party.Heeds offer key)
    (written : outbound.written = before ++ LengthPrefixed.encode (party.envelope suite))
    (insecure : ∀ connection, result = some (.ok connection) → connection.remoteIdentity = none) :
    Accounts (Speaks suite party) suite party registry before free heard result registry
      outbound := by
  refine ⟨_, written, .of_kept (.inr (List.prefix_refl _)) (fun key admits => ?_) insecure,
    fun _ => ?_⟩
  · exact absurd ((Party.admits_iff begins).1 admits) (no_key key)
  · have unadmitted : ¬ Admitted suite party offer rest := by
      rintro ⟨key, heeds, -⟩
      exact no_key key heeds
    have speaks := @speaks_reply suite party _ _ _ _ [] begins decoded
      (fun admitted => absurd admitted unadmitted) (fun _ => rfl)
    rwa [List.append_nil] at speaks

/-- From the reply on: it is written before anything is made of the key in the offer. -/
theorem rests_replying {envelope : Envelope} {frames frames' : LengthPrefixed.State}
    {wire' : Wire} {stream' : Stream} (begins : Begins heard offer rest)
    (decoded : Envelope.decode offer = .ok envelope)
    (read : wire.readFrame framing frames stream = (.done (some offer), frames', wire', stream'))
    (ahead : wire'.ahead stream' = rest) (spoken : Spoken before [] free wire' stream') :
    Rests suite party registry before free stream'.inbound.verge heard
      (run suite registry ⟨party, wire, .awaitingOffer frames⟩ stream) := by
  rw [run_eq]
  rcases spoken.say (LengthPrefixed.encode_ne_nil (party.envelope suite)) with
    ⟨fails, wire'', stream'', failed, written⟩ | ⟨stream'', flushed, inbound, spoken'⟩
  · rw [Party.envelope] at failed
    simp only [step, read, decoded, failed]
    exact .settled fun more _ => ⟨[], written,
      .of_kept (.inl rfl) (fun _ _ => rfl) (by simp), fun writes => absurd writes fails⟩
  rw [Party.envelope] at flushed
  rcases agreed : agree party envelope with e | ⟨resolution, _ | ⟨secret, key⟩⟩
  · -- The listener gives up.
    have no_key (key : PublicKey) : ¬ party.Heeds offer key :=
      Party.not_heeds decoded fun _ _ _ same => by simp [agreed] at same
    simp only [step, read, decoded, flushed, agreed]
    exact .settled fun more _ =>
      accounts_replied (begins.append more) decoded no_key spoken'.written (by simp)
  · -- There is no handshake.
    have no_key (key : PublicKey) : ¬ party.Heeds offer key :=
      Party.not_heeds decoded fun _ _ _ same => by simp [agreed] at same
    simp only [step, read, decoded, flushed, agreed]
    refine .settled fun more _ =>
      accounts_replied (begins.append more) decoded no_key spoken'.written ?_
    rintro connection ⟨⟩
    rfl
  · -- The key is registered, and the listener goes on to the handshake.
    have secures : party.Secures offer resolution secret key :=
      ⟨begins.acceptable, envelope, decoded, agreed⟩
    have same : wire'.ahead stream'' = wire'.ahead stream' := by
      rw [Wire.ahead, inbound, Wire.ahead]
    have nothing : Buffer.empty.toBytes ++ wire'.ahead stream'' = rest := by
      rw [Buffer.toBytes_empty, List.nil_append, same, ahead]
    have rests : Rests suite party registry before free _ heard _ :=
      rests_awaitingInitiation begins secures nothing spoken'
    rw [inbound] at rests
    simp only [step, read, decoded, flushed, agreed]
    rw [run_eq]
    simp only [step]
    exact rests

/-- From the offer on, when there is no whole frame. -/
theorem rests_lacking {frames frames' : LengthPrefixed.State} {wire' : Wire} {stream' : Stream}
    {outcome : Outcome NegotiationError (Option Bytes)} (lacks : Lacks heard)
    (read : wire.readFrame framing frames stream = (outcome, frames', wire', stream'))
    (stalls : LengthPrefixed.Stalls heard stream.inbound.verge outcome frames'
      (wire'.ahead stream'))
    (verge : stream'.inbound.verge = stream.inbound.verge)
    (spoken : Spoken before [] free wire' stream') :
    Rests suite party registry before free stream.inbound.verge heard
      (run suite registry ⟨party, wire, .awaitingOffer frames⟩ stream) := by
  have written : stream'.outbound.written = before := by rw [spoken.written, List.append_nil]
  have never {more : Bytes} (lacks : Lacks (heard ++ more)) (offer rest : Bytes)
      (envelope : Envelope) (begins : Begins (heard ++ more) offer rest) :
      Envelope.decode offer ≠ .ok envelope := absurd begins (lacks offer rest)
  rw [run_eq]
  cases stalls with
  | waits awaited valid' octets' =>
    simp only [step, read]
    exact .waits (.offer valid' octets' lacks spoken (verge.trans awaited))
  | ends lacks' =>
    simp only [step, read]
    exact .settled fun more later => accounts_nothing (never (lacks' more later)) written (by simp)
  | fails e lacks' =>
    simp only [step, read]
    exact .settled fun more later => accounts_nothing (never (lacks' more later)) written (by simp)

/-- From the offer on. -/
theorem rests_awaitingOffer {frames : LengthPrefixed.State} (valid : Valid frames)
    (octets : head frames ++ wire.ahead stream = heard)
    (spoken : Spoken before [] free wire stream) :
    Rests suite party registry before free stream.inbound.verge heard
      (run suite registry ⟨party, wire, .awaitingOffer frames⟩ stream) := by
  rcases LengthPrefixed.readFrame_first NegotiationError.io valid octets with
    ⟨offer, rest, wire', stream', begins, read, ahead, advanced⟩ |
    ⟨outcome, frames', wire', stream', lacks, read, stalls, advanced⟩
  · have spoken' := spoken.advanced advanced
    rw [← framing] at read
    cases decoded : Envelope.decode offer with
    | error fault =>
      -- What follows the frame does not make an envelope of it.
      rw [run_eq]
      simp only [step, read, decoded]
      refine .settled fun more _ => accounts_nothing (fun offer' rest' envelope begins' => ?_)
        (by rw [spoken'.written, List.append_nil]) ?_
      · obtain ⟨rfl, -⟩ := (begins.append more).unique begins'
        simp [decoded]
      · rintro connection ⟨⟩
        rfl
    | ok envelope =>
      rw [← advanced.verge]
      exact rests_replying begins decoded read ahead spoken'
  · rw [← framing] at read
    exact rests_lacking lacks read stalls advanced.verge (spoken.advanced advanced)

end

section Waits

variable {suite : Suite} {party : Party} {registry registry' : Registry}
  {before heard bytes : Bytes} {free free' : Prop} {verge : ReadResult} {listener : Listener}
  {stream stream' : Stream}
  (waits : Waits suite party registry before free heard listener registry' stream)

include waits

/-- The stream of a listener that waits. -/
theorem Waits.calm : Calm free stream := by
  cases waits with
  | offer valid octets lacks spoken awaited => exact spoken.calm awaited
  | initiation begins secures octets short spoken awaited => exact spoken.calm awaited

/-- What has come so far of the negotiation of a listener that waits. -/
theorem Waits.accounts : Accounts (Speaks suite party) suite party registry before free heard none
    registry' stream.outbound := by
  cases waits with
  | offer valid octets lacks spoken =>
    refine accounts_nothing (fun offer rest _ begins => absurd begins (lacks offer rest)) ?_
      (by simp)
    rw [spoken.written, List.append_nil]
  | initiation begins secures octets short spoken =>
    refine accounts_reply [] begins secures ?_ ?_ (fun _ _ => rfl) (by simp)
      (by simp)
    · rw [spoken.written, List.append_nil]
    · rintro - ⟨-, -, long, -⟩
      omega

/-- A listener that has waited rests again when something has happened to its stream. -/
theorem Waits.again (meets : Meets bytes verge free' stream stream') :
    Rests suite party registry before free' verge (heard ++ bytes)
      (listener.run suite registry' stream') := by
  rw [← meets.verge]
  cases waits with
  | offer valid octets lacks spoken =>
    refine rests_awaitingOffer valid ?_ (spoken.meets meets)
    rw [meets.ahead, ← List.append_assoc, octets]
  | initiation begins secures octets short spoken =>
    refine rests_awaitingInitiation (begins.append bytes) secures ?_ (spoken.meets meets)
    rw [meets.ahead, ← List.append_assoc, octets]

end Waits

end Listener

end PeerLink.Negotiation
