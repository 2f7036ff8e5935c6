import PeerLink.Negotiation.Pair
import PeerLink.Proofs.Framing.Flight
import PeerLink.Proofs.Negotiation.Offers
import PeerLink.Proofs.Noise.Handshake

/-!
# The messages of two honest sides

When two honest sides meet, what each of them has to say is determined by what both bring along: the
offer and the reply, and if both have a secure channel the two messages of the handshake. The first
part of this module gives these messages and what both sides agree on; the second one says how a run
of a side goes on from a step of it.
-/

namespace PeerLink

/-- The key that was registered last is the one of its endpoint. -/
theorem Registry.get?_insert (registry : Registry) (endpoint : Endpoint) (key : PublicKey) :
    (registry.insert endpoint key).get? endpoint = some key := by
  rw [get?, insert, List.lookup_cons_self]

namespace Negotiation

/-- The secret keys that a party takes part with. -/
def Party.secrets (party : Party) : List SecretKey :=
  party.ephemeral :: (party.upgrades.secureChannel?.map (·.secret)).toList

/-- A dialer and a listener who follow the protocol. -/
structure Meeting where
  /-- What the dialer brings along. -/
  dialer : Party
  /-- What the listener brings along. -/
  listener : Party

namespace Meeting

variable (suite : Suite) (meeting : Meeting)

/-- The secret keys of both sides, the one of the dialer first, if both have a secure channel. -/
def secrets : Option (SecretKey × SecretKey) :=
  match meeting.dialer.upgrades.secureChannel?, meeting.listener.upgrades.secureChannel? with
  | some channel, some channel' => some (channel.secret, channel'.secret)
  | _, _ => none

/-- What both sides agree on. -/
def resolution : Resolution :=
  match meeting.secrets with
  | none => .bare
  | some _ => .resolved [.secureChannel]

/-- If both sides have a secure channel, the dialer wants to reach nobody in particular or just this
listener. -/
def Welcome : Prop :=
  ∀ secret secret', meeting.secrets = some (secret, secret') →
    meeting.dialer.expected = none ∨ meeting.dialer.expected = some (suite.publicKey secret')

/-- Both sides agree on the same secrets, by whichever of their keys. -/
def Agrees : Prop :=
  ∀ a ∈ meeting.dialer.secrets, ∀ b ∈ meeting.listener.secrets, suite.Agrees a b

/-- What two sides need of their primitives to understand each other. -/
structure Sound : Prop where
  /-- What is sealed can be unsealed. -/
  opens : suite.Opens
  /-- Both sides agree on the same secrets. -/
  agrees : meeting.Agrees suite

/-- The first message of the dialer. -/
def offer : Bytes := (meeting.dialer.upgrades.envelope suite).encode

/-- The first message of the listener. -/
def reply : Bytes := (meeting.listener.upgrades.envelope suite).encode

/-- The first message of the handshake, and the dialer behind it. -/
def initiation (secret secret' : SecretKey) : Bytes × Noise.Initiator :=
  Noise.initiate suite (transcript (meeting.offer suite) (meeting.reply suite)) secret
    meeting.dialer.ephemeral (suite.publicKey secret')

/-- The listener behind the first message of the handshake. -/
def responder (secret secret' : SecretKey) : Noise.Responder :=
  ⟨(meeting.initiation suite secret secret').2.state, suite.publicKey meeting.dialer.ephemeral,
    suite.publicKey secret⟩

/-- The second message of the handshake, and the channel of the listener. -/
def response (secret secret' : SecretKey) : Bytes × Noise.Established :=
  (meeting.responder suite secret secret').reply suite meeting.listener.ephemeral

/-- The channel of the dialer: its halves are the ones of the listener, the other way round. -/
def channel (secret secret' : SecretKey) : Noise.Established :=
  ⟨(meeting.response suite secret secret').2.receiver,
    (meeting.response suite secret secret').2.sender, suite.publicKey secret'⟩

variable {suite meeting}

/-- The secret keys of the secure channels take part, and with them the ephemeral ones. -/
theorem mem_secrets {secret secret' : SecretKey}
    (secrets : meeting.secrets = some (secret, secret')) :
    secret ∈ meeting.dialer.secrets ∧ secret' ∈ meeting.listener.secrets := by
  unfold Meeting.secrets at secrets
  unfold Party.secrets
  cases mine : meeting.dialer.upgrades.secureChannel? with
  | none => simp [mine] at secrets
  | some channel =>
    cases yours : meeting.listener.upgrades.secureChannel? with
    | none => simp [mine, yours] at secrets
    | some channel' =>
      simp only [mine, yours, Option.some.injEq, Prod.mk.injEq] at secrets
      simp [secrets.1, secrets.2]

/-- The listener reads the first message of the handshake. -/
theorem respond?_initiation (sound : meeting.Sound suite) {secret secret' : SecretKey}
    (secrets : meeting.secrets = some (secret, secret')) :
    Noise.respond? suite (transcript (meeting.offer suite) (meeting.reply suite)) secret'
        (meeting.initiation suite secret secret').1 =
      some (meeting.responder suite secret secret') := by
  obtain ⟨mine, yours⟩ := mem_secrets secrets
  exact Noise.respond?_initiate sound.opens _ (sound.agrees secret mine secret' yours)
    (sound.agrees meeting.dialer.ephemeral List.mem_cons_self secret' yours)

/-- The dialer reads the second message of the handshake. -/
theorem finish?_response (sound : meeting.Sound suite) {secret secret' : SecretKey}
    (secrets : meeting.secrets = some (secret, secret')) :
    (meeting.initiation suite secret secret').2.finish? suite
        (meeting.response suite secret secret').1 =
      some (meeting.channel suite secret secret') := by
  obtain ⟨mine, -⟩ := mem_secrets secrets
  exact Noise.finish?_reply sound.opens _
    (sound.agrees secret mine meeting.listener.ephemeral List.mem_cons_self)
    (sound.agrees meeting.dialer.ephemeral List.mem_cons_self meeting.listener.ephemeral
      List.mem_cons_self) (suite.publicKey secret')

/-- The offer fits a frame. -/
theorem length_offer_le (suite : Suite) (meeting : Meeting) :
    (meeting.offer suite).length ≤ LengthPrefixed.maxSize :=
  meeting.dialer.upgrades.length_envelope_le suite

/-- The reply fits a frame. -/
theorem length_reply_le (suite : Suite) (meeting : Meeting) :
    (meeting.reply suite).length ≤ LengthPrefixed.maxSize :=
  meeting.listener.upgrades.length_envelope_le suite

/-- The first message of the handshake has its fixed size. -/
theorem length_initiation (secret secret' : SecretKey) :
    (meeting.initiation suite secret secret').1.length = Noise.initiationSize :=
  Noise.length_initiate _ _ _ _

/-- There are octets in the first message of the handshake. -/
theorem initiation_ne_nil (secret secret' : SecretKey) :
    (meeting.initiation suite secret secret').1 ≠ [] :=
  Noise.initiate_ne_nil _ _ _ _

/-- There are octets in the second message of the handshake. -/
theorem response_ne_nil (secret secret' : SecretKey) :
    (meeting.response suite secret secret').1 ≠ [] :=
  Noise.reply_ne_nil _ _

/-- The listener reads the offer. -/
theorem decode_offer :
    Envelope.decode (meeting.offer suite) = .ok (meeting.dialer.upgrades.envelope suite) :=
  Envelope.decode_encode _

/-- The dialer reads the reply. -/
theorem decode_reply :
    Envelope.decode (meeting.reply suite) = .ok (meeting.listener.upgrades.envelope suite) :=
  Envelope.decode_encode _

/-- The dialer agrees with the reply. -/
theorem agree_reply (welcome : meeting.Welcome suite) :
    agree meeting.dialer (meeting.listener.upgrades.envelope suite) =
      .ok ⟨meeting.resolution, meeting.secrets.map fun (secret, secret') =>
        (secret, suite.publicKey secret')⟩ := by
  rw [resolution]
  unfold Welcome at welcome
  unfold secrets at welcome ⊢
  cases mine : meeting.dialer.upgrades.secureChannel? with
  | none => exact agree_bare (.inl mine)
  | some channel =>
    cases yours : meeting.listener.upgrades.secureChannel? with
    | none => exact agree_bare (.inr yours)
    | some channel' =>
      rw [mine, yours] at welcome
      exact agree_secure mine yours (welcome channel.secret channel'.secret rfl)

/-- A dialer that wants to reach somebody else does not agree with the reply. -/
theorem agree_reply_of_not_welcome (unwelcome : ¬ meeting.Welcome suite) :
    ∃ e, agree meeting.dialer (meeting.listener.upgrades.envelope suite) = .error e := by
  unfold Welcome secrets at unwelcome
  cases mine : meeting.dialer.upgrades.secureChannel? with
  | none => simp [mine] at unwelcome
  | some channel =>
    cases yours : meeting.listener.upgrades.secureChannel? with
    | none => simp [mine, yours] at unwelcome
    | some channel' =>
      simp only [mine, yours, Option.some.injEq, Prod.mk.injEq] at unwelcome
      cases expected : meeting.dialer.expected with
      | none => exact absurd (fun _ _ _ => .inl expected) unwelcome
      | some key =>
        refine ⟨_, agree_mismatch mine yours expected ?_⟩
        rintro rfl
        refine unwelcome ?_
        rintro _ _ ⟨rfl, rfl⟩
        exact .inr expected

/-- The listener agrees with the offer. -/
theorem agree_offer :
    agree { meeting.listener with expected := none } (meeting.dialer.upgrades.envelope suite) =
      .ok ⟨meeting.resolution, meeting.secrets.map fun (secret, secret') =>
        (secret', suite.publicKey secret)⟩ := by
  rw [resolution, secrets]
  cases yours : meeting.dialer.upgrades.secureChannel? with
  | none => exact agree_bare (.inr yours)
  | some channel =>
    cases mine : meeting.listener.upgrades.secureChannel? with
    | none => exact agree_bare (.inl mine)
    | some channel' =>
      exact @agree_secure suite { meeting.listener with expected := none } _ _ _ mine yours
        (.inl rfl)

end Meeting

/-! ## Runs -/

/-- The side behind a move. -/
def Move.side {σ : Type} : Move σ → Side σ
  | next state => .active state
  | wait state => .active state
  | finished result => .finished result

/-- A run is a step, and another run if the dialer goes on. -/
theorem Dialer.run_eq (suite : Suite) (registry : Registry) (dialer : Dialer) (stream : Stream) :
    dialer.run suite registry stream =
      match dialer.step suite registry stream with
      | (.next dialer, registry, stream) => dialer.run suite registry stream
      | (.wait dialer, registry, stream) => (.wait dialer, registry, stream)
      | (.finished (.error e), registry, stream) => (.finished (.error e), registry, stream.release)
      | (.finished (.ok connection), registry, stream) =>
        (.finished (.ok connection), registry, stream) := by
  rw [run]
  split
  all_goals rename_i step; simp only [step]

/-- A run is a step, and another run if the listener goes on. -/
theorem Listener.run_eq (suite : Suite) (registry : Registry) (listener : Listener)
    (stream : Stream) :
    listener.run suite registry stream =
      match listener.step suite registry stream with
      | (.next listener, registry, stream) => listener.run suite registry stream
      | (.wait listener, registry, stream) => (.wait listener, registry, stream)
      | (.finished (.error e), registry, stream) => (.finished (.error e), registry, stream.release)
      | (.finished (.ok connection), registry, stream) =>
        (.finished (.ok connection), registry, stream) := by
  rw [run]
  split
  all_goals rename_i step; simp only [step]

end Negotiation

end PeerLink
