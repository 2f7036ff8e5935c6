import Mathlib.Algebra.Group.Nat.Defs
import PeerLink.Proofs.Negotiation.Agreement
import PeerLink.Proofs.Negotiation.Unhindered
import PeerLink.Proofs.Noise.Binding

/-!
# The handshake binds the envelopes

The two sides of a negotiation exchange their envelopes in the open, and somebody in between may
alter them. Each side takes the envelopes that it has said and heard into the prologue of the
handshake (`transcript_injective`: no other two envelopes have this transcript). So if the first
message of the handshake arrives as it was sent, a listener that gets a secure connection has heard
what the dialer has said, and the dialer what the listener has said: `envelopes_are_bound`.
-/

namespace PeerLink.Negotiation

open Deed (saids heards)

/-- The length of a frame is read back from its four octets. -/
theorem length_of_ofNatBE {a b : Bytes} (short : a.length < 2 ^ 32) (short' : b.length < 2 ^ 32)
    (same : Bytes.ofNatBE 4 a.length = Bytes.ofNatBE 4 b.length) : a.length = b.length := by
  have back := congrArg Bytes.toNatBE same
  rwa [Bytes.toNatBE_ofNatBE_of_lt short, Bytes.toNatBE_ofNatBE_of_lt short'] at back

/-- A transcript is the one of no other envelopes. -/
theorem transcript_injective {offer reply offer' reply' : Bytes} (short : offer.length < 2 ^ 32)
    (short' : offer'.length < 2 ^ 32)
    (same : transcript offer reply = transcript offer' reply') :
    offer = offer' ∧ reply = reply' := by
  simp only [transcript, List.append_assoc] at same
  -- Each length says where the frame behind it ends.
  have width (n m : Nat) : (Bytes.ofNatBE 4 n).length = (Bytes.ofNatBE 4 m).length := by
    rw [Bytes.length_ofNatBE, Bytes.length_ofNatBE]
  obtain ⟨length, same⟩ := List.append_inj same (width _ _)
  obtain ⟨offer_eq, same⟩ := List.append_inj same (length_of_ofNatBE short short' length)
  obtain ⟨-, reply_eq⟩ := List.append_inj same (width _ _)
  exact ⟨offer_eq, reply_eq⟩

/-! ## What the two sides hash, seal and open -/

namespace Dialer

/-- What a dialer hashes up to the first ciphertext of the handshake. -/
def hashed (suite : Suite) (party : Party) : List Deed → List Bytes
  | .said offer :: .heard reply :: .registered _ :: .found (some key) :: _ =>
    Noise.hashed suite (transcript offer reply) key (suite.publicKey party.ephemeral)
  | _ => []

/-- What a dialer seals in the handshake. -/
def sealed (suite : Suite) (party : Party) : List Deed → List Noise.Box
  | .said offer :: .heard reply :: .registered _ :: .found (some key) :: _ =>
    match party.upgrades.secureChannel? with
    | none => []
    | some channel =>
      Noise.initiated suite (transcript offer reply) channel.secret party.ephemeral key
  | _ => []

variable {suite : Suite} {party : Party} {reply : Bytes} {key found : PublicKey}

/-- What a dialer hashes that has found a key. -/
theorem hashed_opening (rest : List Deed) :
    hashed suite party (opening suite party reply key ++ .found (some found) :: rest) =
      Noise.hashed suite (transcript (party.envelope suite) reply) found
        (suite.publicKey party.ephemeral) := rfl

/-- What a dialer seals that has found a key. -/
theorem sealed_opening {channel : SecureChannel}
    (mine : party.upgrades.secureChannel? = some channel) (rest : List Deed) :
    sealed suite party (opening suite party reply key ++ .found (some found) :: rest) =
      Noise.initiated suite (transcript (party.envelope suite) reply) channel.secret
        party.ephemeral found := by
  simp only [sealed, opening, List.cons_append, List.nil_append, mine]

/-- A dialer that has said a second message has initiated the handshake with it. -/
theorem Took.initiated {deeds : List Deed} {side : Side Dialer} {message : Bytes}
    (took : Took suite party deeds side) (second : (saids deeds)[1]? = some message) :
    ∃ reply resolution secret key found rest, party.Secures reply resolution secret key ∧
      message = (initiation suite party reply secret found).1 ∧
      deeds = opening suite party reply key ++ .found (some found) :: .said message :: rest := by
  have knows := took.knows
  -- The second message that a dialer says is the first one of the handshake, wherever it is by now.
  match side, knows with
  | .active dialer, knows =>
    cases knows with
    | awaitingResponse wire secures received =>
      obtain rfl := Option.some.inj second
      exact ⟨_, _, _, _, _, _, secures, rfl, rfl⟩
    | offering wire => cases second
    | awaitingReply wire valid => cases second
    | registering wire secures => cases second
    | lookingUp wire secures => cases second
  | .finished result, knows =>
    cases knows with
    | unanswered secures e =>
      obtain rfl := Option.some.inj second
      exact ⟨_, _, _, _, _, _, secures, rfl, rfl⟩
    | forged secures =>
      obtain rfl := Option.some.inj second
      exact ⟨_, _, _, _, _, _, secures, rfl, rfl⟩
    | secure wire secures finished =>
      obtain rfl := Option.some.inj second
      exact ⟨_, _, _, _, _, _, secures, rfl, rfl⟩
    | unsent e => cases second
    | unheard e => cases second
    | disagreed reply e => cases second
    | bare wire reply resolution => cases second
    | unknown secures => cases second
    | uninitiated secures e => cases second

end Dialer

namespace Listener

/-- What a listener hashes up to the first ciphertext of the handshake. -/
def hashed (suite : Suite) (party : Party) : List Deed → List Bytes
  | .heard offer :: .said reply :: .registered _ :: .heard message :: _ =>
    match party.upgrades.secureChannel?, PublicKey.ofBytes? (message.take Noise.keySize) with
    | some channel, some ephemeral =>
      Noise.hashed suite (transcript offer reply) (suite.publicKey channel.secret) ephemeral
    | _, _ => []
  | _ => []

/-- The box in which a listener finds the public key of the dialer. -/
def opened (suite : Suite) (party : Party) : List Deed → Option Noise.Box
  | .heard offer :: .said reply :: .registered _ :: .heard message :: _ =>
    match party.upgrades.secureChannel?, PublicKey.ofBytes? (message.take Noise.keySize) with
    | some channel, some ephemeral =>
      some (Noise.presented suite (transcript offer reply) channel.secret ephemeral message)
    | _, _ => none
  | _ => none

/-- What a listener seals in the handshake. -/
def sealed (suite : Suite) (party : Party) : List Deed → List Noise.Box
  | .heard offer :: .said reply :: .registered _ :: .heard message :: _ =>
    match party.upgrades.secureChannel? with
    | none => []
    | some channel =>
      match Noise.respond? suite (transcript offer reply) channel.secret message with
      | none => []
      | some responder => [responder.replied suite party.ephemeral]
  | _ => []

variable {suite : Suite} {party : Party} {offer message : Bytes} {key ephemeral : PublicKey}
  {channel : SecureChannel}

/-- What a listener hashes that has heard the first message of the handshake. -/
theorem hashed_opening (mine : party.upgrades.secureChannel? = some channel)
    (first : PublicKey.ofBytes? (message.take Noise.keySize) = some ephemeral) (rest : List Deed) :
    hashed suite party (opening suite party offer key ++ .heard message :: rest) =
      Noise.hashed suite (transcript offer (party.envelope suite)) (suite.publicKey channel.secret)
        ephemeral := by
  simp only [hashed, opening, List.cons_append, List.nil_append, mine, first]

/-- What a listener opens that has heard the first message of the handshake. -/
theorem opened_opening (mine : party.upgrades.secureChannel? = some channel)
    (first : PublicKey.ofBytes? (message.take Noise.keySize) = some ephemeral) (rest : List Deed) :
    opened suite party (opening suite party offer key ++ .heard message :: rest) =
      some (Noise.presented suite (transcript offer (party.envelope suite)) channel.secret ephemeral
        message) := by
  simp only [opened, opening, List.cons_append, List.nil_append, mine, first]

/-- What a listener seals that has read the first message of the handshake. -/
theorem sealed_opening {responder : Noise.Responder}
    (mine : party.upgrades.secureChannel? = some channel)
    (responds : responder? suite party offer channel.secret message = some responder)
    (rest : List Deed) :
    sealed suite party (opening suite party offer key ++ .heard message :: rest) =
      [responder.replied suite party.ephemeral] := by
  rw [responder?] at responds
  simp only [sealed, opening, List.cons_append, List.nil_append, mine, responds]

/-- What a listener has done that has got a secure connection. -/
theorem Took.secured {deeds : List Deed} {connection : Connection}
    (took : Took suite party deeds (.finished (.ok connection)))
    (secure : connection.isSecure = true) :
    ∃ offer message resolution secret key responder,
      Party.Secures { party with expected := none } offer resolution secret key ∧
      responder? suite party offer secret message = some responder ∧
      deeds = opening suite party offer key ++ .heard message :: [.found (some responder.initiator),
        .said (responder.reply suite party.ephemeral).1] := by
  cases took.knows with
  | plain wire undecoded => cases secure
  | bare wire offer resolution => cases secure
  | secure wire secures responds => exact ⟨_, _, _, _, _, _, secures, responds, rfl⟩

end Listener

/-! ## Two honest sides -/

namespace Meeting

variable {suite : Suite} {meeting : Meeting} {secret secret' : SecretKey}

/-- The dialer agrees with the reply on the secure channel. -/
theorem secures_reply (welcome : meeting.Welcome suite)
    (secrets : meeting.secrets = some (secret, secret')) :
    meeting.dialer.Secures (meeting.reply suite) meeting.resolution secret
      (suite.publicKey secret') := by
  refine ⟨meeting.length_reply_le suite, _, decode_reply, ?_⟩
  rw [agree_reply welcome, secrets]
  rfl

/-- The listener agrees with the offer on the secure channel. -/
theorem secures_offer (suite : Suite) (secrets : meeting.secrets = some (secret, secret')) :
    Party.Secures { meeting.listener with expected := none } (meeting.offer suite)
      meeting.resolution secret' (suite.publicKey secret) := by
  refine ⟨meeting.length_offer_le suite, _, decode_offer, ?_⟩
  rw [agree_offer, secrets]
  rfl

/-- A dialer to which the reply is delivered initiates the handshake. -/
theorem took_initiation (welcome : meeting.Welcome suite)
    (secrets : meeting.secrets = some (secret, secret')) :
    ∃ wire, Dialer.Took suite meeting.dialer
      (Dialer.opening suite meeting.dialer (meeting.reply suite) (suite.publicKey secret') ++
        .found (some (suite.publicKey secret')) ::
          [.said (meeting.initiation suite secret secret').1])
      (.active ⟨meeting.dialer, wire,
        .awaitingResponse (meeting.initiation suite secret secret').2 meeting.resolution
          .empty⟩) := by
  have secures := secures_reply welcome secrets
  have found := Registry.get?_insert .empty meeting.dialer.remote (suite.publicKey secret')
  obtain ⟨_, said, does⟩ := Dialer.step_offering suite meeting.dialer .empty Wire.idle_new
  obtain ⟨wire, _, idle, heard, does'⟩ :=
    Dialer.step_awaitingReply suite meeting.dialer .empty Wire.idle_new secures
      (meeting.offer suite)
  obtain ⟨_, initiated, does''⟩ :=
    Dialer.step_lookingUp suite meeting.dialer _ idle found
      (transcript (meeting.offer suite) (meeting.reply suite)) meeting.resolution secret
  have registers (resolution : Resolution) (prologue : Bytes) :
      Dialer.step suite .empty ⟨meeting.dialer, wire, .registering prologue resolution secret
          (suite.publicKey secret')⟩ (.delivering []) =
        (.next ⟨meeting.dialer, wire, .lookingUp prologue resolution secret⟩,
          .insert .empty meeting.dialer.remote (suite.publicKey secret'), .delivering []) := rfl
  exact ⟨wire, (((Took.start.next said does).next heard does').next (registers _ _) rfl).next
    initiated does''⟩

/-- A listener to which the offer and the first message of the handshake are delivered gets a secure
connection. -/
theorem took_response (sound : meeting.Sound suite)
    (secrets : meeting.secrets = some (secret, secret')) :
    ∃ wire, Listener.Took suite meeting.listener
      (Listener.opening suite meeting.listener (meeting.offer suite) (suite.publicKey secret) ++
        .heard (meeting.initiation suite secret secret').1 ::
          [.found (some (suite.publicKey secret)),
            .said (meeting.response suite secret secret').1])
      (.finished (.ok (.negotiated wire meeting.resolution
        (some (meeting.response suite secret secret').2) meeting.listener.remote))) := by
  let party : Party := { meeting.listener with expected := none }
  have secures := secures_offer suite secrets
  have found : (Registry.empty.insert party.remote (suite.publicKey secret)).get? party.remote =
      some (meeting.responder suite secret secret').initiator := Registry.get?_insert _ _ _
  obtain ⟨wire, _, idle, heard, does⟩ :=
    Listener.step_awaitingOffer suite party .empty Wire.idle_new secures
  obtain ⟨wire', _, idle', read, does'⟩ :=
    Listener.step_awaitingInitiation suite party .empty idle (length_initiation secret secret')
      (respond?_initiation sound secrets) meeting.resolution
  obtain ⟨_, answered, does''⟩ := Listener.step_lookingUp suite party _ idle' found
    meeting.resolution
  have registers (resolution : Resolution) (prologue : Bytes) :
      Listener.step suite .empty ⟨party, wire, .registering prologue resolution secret'
          (suite.publicKey secret)⟩ (.delivering []) =
        (.next ⟨party, wire, .awaitingInitiation prologue resolution secret' .empty⟩,
          .insert .empty party.remote (suite.publicKey secret), .delivering []) := rfl
  exact ⟨wire', (((Took.start.next heard does).next (registers _ _) rfl).next read does').next
    answered does''⟩

end Meeting

/-! ## The result -/

/-- A frame that a party accepts is shorter than its length can say. -/
theorem Party.Secures.short {party : Party} {message : Bytes} {resolution : Resolution}
    {secret : SecretKey} {key : PublicKey} (secures : party.Secures message resolution secret key) :
    message.length < 2 ^ 32 :=
  Nat.lt_of_le_of_lt secures.acceptable (by decide)

/-- The first message of a party is shorter than its length can say. -/
theorem Party.length_envelope_lt (suite : Suite) (party : Party) :
    (party.envelope suite).length < 2 ^ 32 :=
  Nat.lt_of_le_of_lt (party.upgrades.length_envelope_le suite) (by decide)

variable {suite : Suite} {dialing listening : Party} {deeds deeds' : List Deed}
  {side : Side Dialer} {connection : Connection}

/-- The secret key that a party agrees with is the one of its secure channel. -/
theorem Party.Secures.channel {party : Party} {message : Bytes} {resolution : Resolution}
    {secret : SecretKey} {key : PublicKey} (secures : party.Secures message resolution secret key) :
    ∃ channel, party.upgrades.secureChannel? = some channel ∧ channel.secret = secret := by
  obtain ⟨envelope, -, agreed⟩ := secures.agreed
  exact (shares_of_agree agreed).2.2.1

/-- Somebody may alter the envelopes of a dialer and of a listener as he likes. But if the first
message of the handshake is heard as it was said, and the listener gets a secure connection, then
each side has heard the envelope that the other one has said: another pair of envelopes has another
transcript. Of the primitives this needs that the hash tells the inputs of the two runs apart, and
that the box that the listener opens is one that was sealed in the two runs. -/
theorem envelopes_are_bound (dialed : Dialer.Took suite dialing deeds side)
    (accepted : Listener.Took suite listening deeds' (.finished (.ok connection)))
    (secure : connection.isSecure = true) (delivered : (saids deeds)[1]? = (heards deeds')[1]?)
    (separates : suite.Separates (Dialer.hashed suite dialing deeds)
      (Listener.hashed suite listening deeds'))
    (opens_only : ∀ box, Listener.opened suite listening deeds' = some box → box.Opens suite →
      box ∈ Dialer.sealed suite dialing deeds ++ Listener.sealed suite listening deeds') :
    (∃ offer reply, (saids deeds)[0]? = some offer ∧ (heards deeds')[0]? = some offer ∧
      (saids deeds')[0]? = some reply ∧ (heards deeds)[0]? = some reply) ∧
    ∀ offer reply offer' reply' : Bytes, offer.length < 2 ^ 32 → offer'.length < 2 ^ 32 →
      transcript offer reply = transcript offer' reply' → offer = offer' ∧ reply = reply' := by
  refine ⟨?_, fun _ _ _ _ => transcript_injective⟩
  obtain ⟨offer, message, _, secret', _, responder, secures', responds, rfl⟩ :=
    accepted.secured secure
  obtain ⟨reply, _, secret, _, found, rest, secures, rfl, rfl⟩ := dialed.initiated delivered
  obtain ⟨channel, mine, rfl⟩ := secures.channel
  obtain ⟨channel', yours, rfl⟩ := secures'.channel
  -- The message starts with the ephemeral key of the dialer, so both sides hash the same one.
  have first : PublicKey.ofBytes?
      ((Dialer.initiation suite dialing reply channel.secret found).1.take Noise.keySize) =
        some (suite.publicKey dialing.ephemeral) := Noise.take_initiate _ _ _ _
  have yours : listening.upgrades.secureChannel? = some channel' := yours
  rw [Dialer.hashed_opening, Listener.hashed_opening yours first] at separates
  rw [Dialer.sealed_opening mine, Listener.sealed_opening yours responds] at opens_only
  have same := Noise.prologue_eq_of_respond? responds separates
    (opens_only _ (Listener.opened_opening yours first _))
  obtain ⟨offer_eq, reply_eq⟩ :=
    transcript_injective (dialing.length_envelope_lt suite) secures'.short same
  exact ⟨offer, reply, congrArg some offer_eq, rfl, congrArg some reply_eq.symm, rfl⟩

/-- A dialer and a listener whose envelopes nobody alters. -/
theorem envelopes_are_bound_of_expecting :
    let dialing := Meeting.expecting.dialer
    let listening := Meeting.expecting.listener
    ∃ deeds deeds' side connection, Dialer.Took .standard dialing deeds side ∧
      Listener.Took .standard listening deeds' (.finished (.ok connection)) ∧
      connection.isSecure = true ∧ (saids deeds)[1]? = (heards deeds')[1]? ∧
      Suite.standard.Separates (Dialer.hashed .standard dialing deeds)
        (Listener.hashed .standard listening deeds') ∧
      (∀ box, Listener.opened .standard listening deeds' = some box → box.Opens .standard →
        box ∈ Dialer.sealed .standard dialing deeds ++ Listener.sealed .standard listening deeds') ∧
      ∃ offer reply, (saids deeds)[0]? = some offer ∧ (heards deeds')[0]? = some offer ∧
        (saids deeds')[0]? = some reply ∧ (heards deeds)[0]? = some reply := by
  intro dialing listening
  have secrets : Meeting.expecting.secrets = some (.filled 1, .filled 2) := rfl
  obtain ⟨wire, dialed⟩ := Meeting.took_initiation Meeting.welcome_expecting secrets
  obtain ⟨wire', accepted⟩ := Meeting.took_response Meeting.sound_expecting secrets
  have mine : dialing.upgrades.secureChannel? = some (.new (.filled 1)) := rfl
  have yours : listening.upgrades.secureChannel? = some (.new (.filled 2)) := rfl
  have first : PublicKey.ofBytes? ((Meeting.expecting.initiation .standard (.filled 1)
      (.filled 2)).1.take Noise.keySize) = some (Suite.standard.publicKey dialing.ephemeral) :=
    Noise.take_initiate _ _ _ _
  -- The only ciphertext that the listener opens is the one that the dialer has sealed.
  have sealed := @Noise.presented_mem_initiated .standard
    (transcript (dialing.envelope .standard) (listening.envelope .standard)) (.filled 1) _ _
    (Meeting.sound_expecting.agrees dialing.ephemeral List.mem_cons_self (.filled 2)
      (Meeting.mem_secrets secrets).2)
  refine ⟨_, _, _, _, dialed, accepted, rfl, rfl, ?separates, ?opens_only,
    (envelopes_are_bound dialed accepted rfl rfl ?separates ?opens_only).1⟩
  case separates =>
    rw [Listener.hashed_opening yours first]
    exact Suite.separates_self _ _
  case opens_only =>
    rintro box opened -
    rw [Listener.opened_opening yours first] at opened
    obtain rfl := Option.some.inj opened
    rw [Dialer.sealed_opening mine]
    exact List.mem_append_left _ sealed

end PeerLink.Negotiation
