import Mathlib.Data.List.Induction
import PeerLink.Proofs.Negotiation.Binding
import PeerLink.Proofs.Negotiation.Sharing
import PeerLink.Proofs.Noise.Possession

/-!
# Whose key a negotiation finds

A negotiation registers the key that its peer claims, and looks for the key of its peer later on.
In between, other negotiations with the same endpoint may register theirs, and what was registered
last is what is found (`Looked`). So the identity of a secure connection is the key that was
registered last, and a listener measures an initiator by it: `identities_are_registered_last`. It is
the key that the peer itself claims unless another negotiation came in between
(`identities_are_not_always_claimed`); in the same way a dialer that expects a key may reach the
owner of another one.
-/

namespace PeerLink

/-- A registration leaves the keys of other endpoints as they are. -/
theorem Registry.get?_insert_of_ne (registry : Registry) {endpoint other : Endpoint}
    (ne : endpoint ≠ other) (key : PublicKey) :
    (registry.insert other key).get? endpoint = registry.get? endpoint := by
  have skipped (entries : List (Endpoint × PublicKey)) :
      (entries.filter (·.1 ≠ other)).lookup endpoint = entries.lookup endpoint := by
    induction entries with
    | nil => rfl
    | cons entry entries ih =>
      by_cases same : entry.1 = other
      · rw [List.filter_cons_of_neg (by simpa using same), ih, List.lookup_cons,
          beq_false_of_ne (same ▸ ne)]
      · rw [List.filter_cons_of_pos (by simpa using same), List.lookup_cons, List.lookup_cons, ih]
  rw [get?, insert, List.lookup_cons, beq_false_of_ne ne, skipped, get?]

namespace Negotiation

open Deed (heards)

/-- The public key in the material of an envelope. -/
def claimed? (message : Bytes) : Option PublicKey :=
  match Envelope.decode message with
  | .error _ => none
  | .ok envelope => envelope.material.bind (·.publicKey.toOption)

/-- The key that a party agrees with is the one in the material. -/
theorem material_of_agree {party : Party} {envelope : Envelope} {resolution : Resolution}
    {secret : SecretKey} {key : PublicKey}
    (agreed : agree party envelope = .ok ⟨resolution, some (secret, key)⟩) :
    ∃ material, envelope.material = some material ∧ material.publicKey = .ok key := by
  obtain ⟨shares, -, ⟨channel, mine, -⟩, -⟩ := shares_of_agree agreed
  rw [agree_of_shares mine shares] at agreed
  cases sent : envelope.material with
  | none => simp [sent] at agreed
  | some material =>
    cases read : material.publicKey with
    | error e => simp [sent, read] at agreed
    | ok key' =>
      cases expects : party.expected with
      | none =>
        simp only [sent, read, expects, Except.ok.injEq, Agreement.mk.injEq, Option.some.injEq,
          Prod.mk.injEq] at agreed
        exact ⟨material, rfl, by rw [read, agreed.2.2]⟩
      | some expected =>
        simp only [sent, read, expects] at agreed
        split at agreed
        · simp only [Except.ok.injEq, Agreement.mk.injEq, Option.some.injEq,
            Prod.mk.injEq] at agreed
          exact ⟨material, rfl, by rw [read, agreed.2.2]⟩
        · cases agreed

namespace Party.Secures

variable {party : Party} {message : Bytes} {resolution : Resolution} {secret : SecretKey}
  {key : PublicKey}

/-- A party agrees with the key that the other side claims. -/
theorem claimed (secures : party.Secures message resolution secret key) :
    claimed? message = some key := by
  obtain ⟨envelope, decoded, agreed⟩ := secures.agreed
  obtain ⟨material, sent, read⟩ := material_of_agree agreed
  rw [claimed?, decoded]
  simp only [sent, Option.bind_some, read]
  rfl

/-- A party agrees with no other key than the one that it expects. -/
theorem eq_of_expected (secures : party.Secures message resolution secret key)
    {expected : PublicKey} (expects : party.expected = some expected) : key = expected := by
  obtain ⟨envelope, -, agreed⟩ := secures.agreed
  rcases (shares_of_agree agreed).2.2.2 with none_expected | same
  · rw [none_expected] at expects
    cases expects
  · exact Option.some.inj (same.symm.trans expects)

end Party.Secures

/-! ## What is found -/

section Registered

variable {ι : Type} {tasks : ι → Task}

/-- The keys that are registered in front of others. -/
theorem registeredFor_append (endpoint : Endpoint) (log log' : List (ι × Deed)) :
    registeredFor tasks endpoint (log ++ log') =
      registeredFor tasks endpoint log ++ registeredFor tasks endpoint log' :=
  List.filterMap_append

/-- The registry holds the key that was registered last. -/
theorem get?_registryAfter (registry : Registry) (endpoint : Endpoint) (log : List (ι × Deed)) :
    (registryAfter tasks registry log).get? endpoint =
      (registeredFor tasks endpoint log).getLast?.or (registry.get? endpoint) := by
  induction log using List.reverseRecOn with
  | nil => rfl
  | append_singleton log entry ih =>
    obtain ⟨i, deed⟩ := entry
    have step : registryAfter tasks registry (log ++ [(i, deed)]) =
        deed.change (tasks i).remote (registryAfter tasks registry log) := by
      rw [registryAfter, List.foldl_append]
      rfl
    rw [step, registeredFor_append]
    cases deed with
    | registered key =>
      by_cases same : (tasks i).remote = endpoint
      · simp [Deed.change, registeredFor, same, Registry.get?_insert]
      · simp [Deed.change, registeredFor, same, Registry.get?_insert_of_ne _ (Ne.symm same), ih]
    | heard message => simpa [Deed.change, registeredFor] using ih
    | said message => simpa [Deed.change, registeredFor] using ih
    | found key => simpa [Deed.change, registeredFor] using ih

variable [DecidableEq ι]

/-- A negotiation has registered a key and has found one later on: the one that other negotiations
with the same endpoint have registered last in between, or its own if there is none. -/
def Looked (tasks : ι → Task) (log : List (ι × Deed)) (i : ι) (key found : PublicKey) : Prop :=
  ∃ before between after,
    log = before ++ (i, .registered key) :: (between ++ (i, .found (some found)) :: after) ∧
    (∀ other, (i, .registered other) ∉ between) ∧
    found = (registeredFor tasks (tasks i).remote between).getLast?.getD key

variable {suite : Suite} {registry registry' : Registry} {log : List (ι × Deed)}
  {sides : ι → Side Negotiator} {i : ι}

/-- What a negotiation finds after it has registered a key. -/
theorem Shared.found_eq_of_registered (shared : Shared suite tasks registry log registry' sides)
    {before between after : List Deed} {key : PublicKey} {found : Option PublicKey}
    (done : deedsOf i log = before ++ .registered key :: (between ++ .found found :: after))
    (once : ∀ other, .registered other ∉ between) :
    ∃ found', found = some found' ∧ Looked tasks log i key found' := by
  obtain ⟨log', rest, rfl, -, rest_eq⟩ := exists_of_deedsOf done
  obtain ⟨log'', rest', rfl, rfl, -⟩ := exists_of_deedsOf rest_eq
  have split : log' ++ (i, .registered key) :: (log'' ++ (i, .found found) :: rest') =
      log' ++ (i, .registered key) :: log'' ++ (i, .found found) :: rest' := by simp
  have found_eq := shared.found_eq split
  have own : registeredFor tasks (tasks i).remote [(i, .registered key)] = [key] := by
    simp [registeredFor]
  rw [get?_registryAfter, List.append_cons, registeredFor_append, registeredFor_append, own,
    List.append_assoc, List.getLast?_append, List.singleton_append, List.getLast?_cons,
    Option.some_or, Option.some_or] at found_eq
  exact ⟨_, found_eq, log', log'', rest', by rw [← found_eq],
    fun other mem => once other (mem_deedsOf.2 mem), rfl⟩

/-- The key that a negotiation expects its peer to have. -/
def Task.expected : Task → Option PublicKey
  | .dial party => party.expected
  | .listen _ => none

/-- A negotiation was told a key and has found one. -/
structure Identified (tasks : ι → Task) (log : List (ι × Deed)) (i : ι) (key found : PublicKey) :
    Prop where
  /-- The key is the one that the peer claims in its envelope. -/
  claimed : (heards (deedsOf i log)).head?.bind claimed? = some key
  /-- It is the one that is expected, if there is one. -/
  expected : ∀ expected, (tasks i).expected = some expected → key = expected
  /-- What was found is the key that was registered last. -/
  looked : Looked tasks log i key found

/-- What a dialer has been told and has found that has a secure connection. -/
theorem Shared.dialer_identified (shared : Shared suite tasks registry log registry' sides)
    {party : Party} (dials : tasks i = .dial party) {connection : Connection}
    (finished : sides i = .finished (.ok connection)) (secure : connection.isSecure = true) :
    ∃ key found, Identified tasks log i key found ∧ connection.remoteIdentity = some found := by
  obtain ⟨side, same, knows⟩ := shared.dialer_knows dials
  obtain rfl := Side.map_eq_finished.1 (same.symm.trans finished)
  have did : Dialer.Did suite party (deedsOf i log) (.ok connection) := knows
  generalize done : deedsOf i log = deeds at did
  cases did with
  | bare wire reply resolution => cases secure
  | @secure reply response resolution secret key found channel wire secures completed =>
    have before : deedsOf i log = [.said (party.envelope suite), .heard reply] ++
      .registered key :: ([] ++ .found (some found) :: _) := done
    obtain ⟨_, ⟨⟩, looked⟩ := shared.found_eq_of_registered before (by simp)
    refine ⟨key, found, ⟨?_, ?_, looked⟩, ?_⟩
    · rw [done]
      exact secures.claimed
    · intro expected expects
      rw [dials] at expects
      exact secures.eq_of_expected expects
    · exact congrArg some (Noise.Initiator.finish?_eq_some completed).1

/-- What a listener has been told and has found that has a secure connection. -/
theorem Shared.listener_identified (shared : Shared suite tasks registry log registry' sides)
    {party : Party} (listens : tasks i = .listen party) {connection : Connection}
    (finished : sides i = .finished (.ok connection)) (secure : connection.isSecure = true) :
    ∃ key found, Identified tasks log i key found ∧ connection.remoteIdentity = some found := by
  obtain ⟨side, same, knows⟩ := shared.listener_knows listens
  obtain rfl := Side.map_eq_finished.1 (same.symm.trans finished)
  have did : Listener.Did suite { party with expected := none } (deedsOf i log) (.ok connection) :=
    knows
  generalize done : deedsOf i log = deeds at did
  cases did with
  | plain wire undecoded => cases secure
  | bare wire offer resolution => cases secure
  | @secure offer message resolution secret key responder wire secures responds =>
    have before : deedsOf i log = [.heard offer, .said (party.envelope suite)] ++
      .registered key :: ([.heard message] ++ .found (some responder.initiator) :: _) := done
    obtain ⟨_, ⟨⟩, looked⟩ := shared.found_eq_of_registered before (by simp)
    refine ⟨key, responder.initiator, ⟨?_, ?_, looked⟩, rfl⟩
    · rw [done]
      exact secures.claimed
    · intro expected expects
      rw [listens] at expects
      cases expects

end Registered

section Judged

variable {ι : Type} {tasks : ι → Task} {suite : Suite} {log : List (ι × Deed)} {i : ι}

/-- What becomes of a listener by what it makes of the first message of the handshake. -/
inductive Judged (tasks : ι → Task) (log : List (ι × Deed)) (i : ι) (key : PublicKey) :
    Option Noise.Responder → Side Negotiator → Prop
  /-- The message is not authentic. -/
  | forged : Judged tasks log i key none (.finished (.error .handshake))
  /-- The listener has not looked for a key yet. -/
  | undecided (responder : Noise.Responder) (negotiator : Negotiator)
      (unfound : ∀ found, (i, .found found) ∉ log) :
      Judged tasks log i key (some responder) (.active negotiator)
  /-- The initiator does not own the key that was found. -/
  | rejected {responder : Noise.Responder} {found : PublicKey}
      (looked : Looked tasks log i key found) (other : responder.initiator ≠ found) :
      Judged tasks log i key (some responder) (.finished (.error (.rejected responder.initiator)))
  /-- The initiator owns the key that was found, and cannot be answered. -/
  | unanswered {responder : Noise.Responder} (looked : Looked tasks log i key responder.initiator)
      (e : IoError) : Judged tasks log i key (some responder) (.finished (.error (.io e)))
  /-- The initiator owns the key that was found, and is answered. -/
  | accepted {responder : Noise.Responder} {connection : Connection}
      (looked : Looked tasks log i key responder.initiator) (secure : connection.isSecure = true)
      (identity : connection.remoteIdentity = some responder.initiator) :
      Judged tasks log i key (some responder) (.finished (.ok connection))

/-- A verdict on the first message of the handshake is one on a listener that has heard it. -/
theorem exists_judged {party : Party} {offer offer' message message' : Bytes} {rest : List Deed}
    {resolution : Resolution} {secret : SecretKey} {key : PublicKey}
    {verdict : Option Noise.Responder} {side : Side Negotiator}
    (heard : heards (Listener.opening suite { party with expected := none } offer' key ++
      .heard message' :: rest) = [offer, message])
    (secures : Party.Secures { party with expected := none } offer' resolution secret key)
    (responds : Noise.respond? suite (transcript offer' (party.envelope suite)) secret message' =
      verdict)
    (judged : Judged tasks log i key verdict side) :
    ∃ channel key, party.upgrades.secureChannel? = some channel ∧ claimed? offer = some key ∧
      Judged tasks log i key (Listener.responder? suite party offer channel.secret message)
        side := by
  obtain ⟨rfl, rfl, -⟩ : offer' = offer ∧ message' = message ∧ heards rest = [] := by
    simpa [heards, Listener.opening] using heard
  obtain ⟨channel, mine, rfl⟩ := secures.channel
  have responder_eq : Listener.responder? suite party offer' channel.secret message' = verdict :=
    responds
  exact ⟨channel, key, mine, secures.claimed, by rwa [responder_eq]⟩

variable [DecidableEq ι] {registry registry' : Registry} {sides : ι → Side Negotiator}

/-- What becomes of a listener that has heard the first message of the handshake. -/
theorem Shared.judged (shared : Shared suite tasks registry log registry' sides)
    {party : Party} (listens : tasks i = .listen party) {offer message : Bytes}
    (heard : heards (deedsOf i log) = [offer, message]) :
    ∃ channel key, party.upgrades.secureChannel? = some channel ∧ claimed? offer = some key ∧
      Judged tasks log i key (Listener.responder? suite party offer channel.secret message)
        (sides i) := by
  obtain ⟨side, same, knows⟩ := shared.listener_knows listens
  rw [same]
  -- What is found after the registration, whichever of the deeds this is.
  have look {offer message : Bytes} {key : PublicKey} {found : Option PublicKey} {rest : List Deed}
      (done : deedsOf i log = Listener.opening suite { party with expected := none } offer key ++
        .heard message :: .found found :: rest) :
      ∃ found', found = some found' ∧ Looked tasks log i key found' :=
    shared.found_eq_of_registered
      (show deedsOf i log = [.heard offer, .said (party.envelope suite)] ++
        .registered key :: ([.heard message] ++ .found found :: rest) from done) (by simp)
  generalize done : deedsOf i log = deeds at heard knows look
  -- A listener in any other case has not heard two messages.
  match side, knows with
  | .active listener, knows =>
    cases knows with
    | lookingUp wire secures responds =>
      refine exists_judged heard secures responds (.undecided _ _ fun found mem => ?_)
      simpa [done, Listener.opening] using mem_deedsOf.2 mem
    | awaitingOffer wire valid => cases heard
    | registering wire secures => cases heard
    | awaitingInitiation wire secures received => cases heard
  | .finished result, knows =>
    cases knows with
    | forged secures fails => exact exists_judged heard secures fails .forged
    | unknown secures responds =>
      obtain ⟨_, ⟨⟩, -⟩ := look rfl
    | rejected secures responds other =>
      obtain ⟨_, ⟨⟩, looked⟩ := look rfl
      exact exists_judged heard secures responds (.rejected looked other)
    | unanswered secures responds e =>
      obtain ⟨_, ⟨⟩, looked⟩ := look rfl
      exact exists_judged heard secures responds (.unanswered looked e)
    | secure wire secures responds =>
      obtain ⟨_, ⟨⟩, looked⟩ := look rfl
      exact exists_judged heard secures responds (.accepted looked rfl rfl)
    | unheard e => cases heard
    | plain wire undecoded => cases heard
    | unsent offer e => cases heard
    | disagreed offer e => cases heard
    | bare wire offer resolution => cases heard
    | uninitiated secures e => cases heard

/-- Any number of negotiations may share a registry, and take their steps in any order. A secure
connection then has the identity that was registered last for the endpoint when the negotiation
looked for it: the key that the peer claims in its envelope, which is the one that a dialer expects,
unless other negotiations with the same endpoint have registered theirs since. A listener measures
the initiator of an authentic handshake by it, and rejects an initiator with another key. -/
theorem identities_are_registered_last
    (shared : Shared suite tasks registry log registry' sides) (i : ι) :
    (∀ connection, sides i = .finished (.ok connection) → connection.isSecure = true →
      ∃ key found, Identified tasks log i key found ∧ connection.remoteIdentity = some found) ∧
    ∀ party offer message, tasks i = .listen party →
      heards (deedsOf i log) = [offer, message] →
      ∃ channel key, party.upgrades.secureChannel? = some channel ∧ claimed? offer = some key ∧
        Judged tasks log i key (Listener.responder? suite party offer channel.secret message)
          (sides i) := by
  constructor
  · intro connection finished secure
    cases task : tasks i with
    | dial party => exact shared.dialer_identified task finished secure
    | listen party => exact shared.listener_identified task finished secure
  · intro party offer message listens heard
    exact shared.judged listens heard

end Judged

/-! ## Two negotiations with the same endpoint -/

namespace Shared

variable {ι : Type} [DecidableEq ι] {suite : Suite} {tasks : ι → Task}
  {registry registry' registry'' : Registry} {log : List (ι × Deed)} {sides : ι → Side Negotiator}
  {stream stream' : Stream} {deeds : List Deed}

/-- A negotiation takes a step as a dialer. -/
theorem dial (shared : Shared suite tasks registry log registry' sides) (i : ι) {dialer : Dialer}
    {move : Move Dialer} (active : sides i = .active (.dialing dialer))
    (leads : dialer.step suite registry' stream = (move, registry'', stream'))
    (does : dialer.deeds suite registry' stream = deeds) :
    Shared suite tasks registry (log ++ deeds.map (i, ·)) registry''
      (Function.update sides i (move.side.map .dialing)) := by
  have next := shared.step i active stream
  simp only [Negotiator.step, Negotiator.deeds, leads, does, Move.side_map] at next
  exact next

/-- A negotiation takes a step as a listener. -/
theorem listen (shared : Shared suite tasks registry log registry' sides) (i : ι)
    {listener : Listener} {move : Move Listener} (active : sides i = .active (.listening listener))
    (leads : listener.step suite registry' stream = (move, registry'', stream'))
    (does : listener.deeds suite registry' stream = deeds) :
    Shared suite tasks registry (log ++ deeds.map (i, ·)) registry''
      (Function.update sides i (move.side.map .listening)) := by
  have next := shared.step i active stream
  simp only [Negotiator.step, Negotiator.deeds, leads, does, Move.side_map] at next
  exact next

end Shared

namespace Crossing

/-- A dialer that claims the key of its secure channel, towards one listener. -/
def meeting (secret : SecretKey) : Meeting where
  dialer := ⟨Upgrades.empty.insert (.secureChannel (.new secret)), ⟨.v4 ⟨127, 0, 0, 1⟩, 4000⟩,
    .filled 3, none⟩
  listener := ⟨Upgrades.empty.insert (.secureChannel (.new (.filled 2))),
    ⟨.v4 ⟨127, 0, 0, 1⟩, 4001⟩, .filled 4, none⟩

/-- The key that the first peer claims, and does not own. -/
def claimed : PublicKey := Suite.standard.publicKey (.filled 4)

/-- The key that both peers own. -/
def owned : PublicKey := Suite.standard.publicKey (.filled 1)

/-- The offer of the first peer. -/
def offer : Bytes := (meeting (.filled 4)).offer .standard

/-- The offer of the second peer. -/
def offer' : Bytes := (meeting (.filled 1)).offer .standard

/-- The reply of the listener to both of them. -/
def reply : Bytes := (meeting (.filled 1)).reply .standard

/-- The first message of the handshake of the first peer. -/
def initiation : Bytes × Noise.Initiator :=
  Noise.initiate .standard (transcript offer reply) (.filled 1) (.filled 3)
    (Suite.standard.publicKey (.filled 2))

/-- The listener behind it. -/
def responder : Noise.Responder :=
  ⟨initiation.2.state, Suite.standard.publicKey (.filled 3), owned⟩

/-- The answer to the first peer. -/
def response : Bytes × Noise.Established := responder.reply .standard (.filled 4)

/-- Both peers have the same endpoint. -/
def tasks (_ : Bool) : Task := .listen (meeting (.filled 1)).listener

/-- The second peer registers its key before the listener looks for the one of the first peer. -/
def log : List (Bool × Deed) :=
  [(false, .heard offer), (false, .said reply), (false, .registered claimed),
    (true, .heard offer'), (true, .said reply), (true, .registered owned),
    (false, .heard initiation.1), (false, .found (some owned)), (false, .said response.1)]

/-- The listener reads the message. -/
theorem respond?_initiation :
    Noise.respond? .standard (transcript offer reply) (.filled 2) initiation.1 = some responder :=
  Noise.respond?_initiate Suite.opens_standard _
    (Suite.agrees_standard (.filled 1) (by simp) (.filled 2) (by simp))
    (Suite.agrees_standard (.filled 3) (by simp) (.filled 2) (by simp))

/-- The first peer gets a secure connection. -/
theorem exists_shared : ∃ registry sides connection,
    Shared .standard tasks .empty log registry sides ∧
      sides false = .finished (.ok connection) ∧ connection.isSecure = true ∧
      connection.remoteIdentity = some owned := by
  let party := (meeting (.filled 1)).listener
  have secures := @Meeting.secures_offer (meeting (.filled 4)) (.filled 4) (.filled 2) .standard rfl
  have secures' := @Meeting.secures_offer (meeting (.filled 1)) (.filled 1) (.filled 2) .standard
    rfl
  obtain ⟨wire, _, idle, hears, does⟩ :=
    Listener.step_awaitingOffer .standard party .empty Wire.idle_new secures
  obtain ⟨wire', _, -, hears', does'⟩ := Listener.step_awaitingOffer .standard party
    (Registry.empty.insert party.remote claimed) Wire.idle_new secures'
  let registry := (Registry.empty.insert party.remote claimed).insert party.remote owned
  obtain ⟨_, _, idle', reads, did⟩ := Listener.step_awaitingInitiation .standard party registry idle
    (Noise.length_initiate _ _ _ _) respond?_initiation (meeting (.filled 1)).resolution
  have found : registry.get? party.remote = some responder.initiator := Registry.get?_insert _ _ _
  obtain ⟨_, answers, answered⟩ := Listener.step_lookingUp .standard party _ idle' found
    (meeting (.filled 1)).resolution
  have registers (registry : Registry) (wire : Wire) (prologue : Bytes) (resolution : Resolution)
      (secret : SecretKey) (key : PublicKey) :
      Listener.step .standard registry ⟨party, wire, .registering prologue resolution secret key⟩
          (.delivering []) =
        (.next ⟨party, wire, .awaitingInitiation prologue resolution secret .empty⟩,
          registry.insert party.remote key, .delivering []) := rfl
  have first := (@Shared.start Bool _ .standard tasks .empty).listen false rfl hears does
  have first := first.listen false rfl (registers ..) rfl
  have second := first.listen true rfl hears' does'
  have second := second.listen true rfl (registers ..) rfl
  have first := second.listen false rfl reads did
  have first := first.listen false rfl answers answered
  exact ⟨_, _, _, first, rfl, rfl, rfl⟩

/-- The first peer claims a key that it does not own. -/
theorem claimed?_offer : claimed? offer = some claimed :=
  (@Meeting.secures_offer (meeting (.filled 4)) (.filled 4) (.filled 2) .standard rfl).claimed

/-- The two keys are different ones. -/
theorem claimed_ne_owned : claimed ≠ owned := by
  decide +kernel

/-! ### Two dials -/

/-- A dialer, towards a listener that owns a secret key. -/
def dialed (expected : Option PublicKey) (secret : SecretKey) : Meeting where
  dialer := ⟨Upgrades.empty.insert (.secureChannel (.new (.filled 1))), ⟨.v4 ⟨127, 0, 0, 1⟩, 4001⟩,
    .filled 3, expected⟩
  listener := ⟨Upgrades.empty.insert (.secureChannel (.new secret)),
    ⟨.v4 ⟨127, 0, 0, 1⟩, 4000⟩, .filled 4, none⟩

/-- The key that the first dialer expects. -/
def wanted : PublicKey := Suite.standard.publicKey (.filled 5)

/-- The key that the peer owns. -/
def peer : PublicKey := Suite.standard.publicKey (.filled 2)

/-- The first of two dials to the same endpoint expects a key, the second one none. -/
def dials : Bool → Task
  | false => .dial (dialed (some wanted) (.filled 5)).dialer
  | true => .dial (dialed none (.filled 2)).dialer

/-- The offer of both dialers. -/
def dialOffer : Bytes := (dialed none (.filled 2)).offer .standard

/-- The reply to the first dialer, which claims the key that it expects. -/
def claiming : Bytes := (dialed (some wanted) (.filled 5)).reply .standard

/-- The reply to the second dialer. -/
def owning : Bytes := (dialed none (.filled 2)).reply .standard

/-- The first message of the handshake of the first dialer, to the owner of the other key. -/
def dialInitiation : Bytes × Noise.Initiator :=
  Noise.initiate .standard (transcript dialOffer claiming) (.filled 1) (.filled 3) peer

/-- The answer to it. -/
def dialResponse : Bytes × Noise.Established :=
  (⟨dialInitiation.2.state, Suite.standard.publicKey (.filled 3),
    Suite.standard.publicKey (.filled 1)⟩ : Noise.Responder).reply .standard (.filled 4)

/-- The second dialer registers the key of the peer before the first one looks for the one that it
expects. -/
def dialLog : List (Bool × Deed) :=
  [(false, .said dialOffer), (false, .heard claiming), (false, .registered wanted),
    (true, .said dialOffer), (true, .heard owning), (true, .registered peer),
    (false, .found (some peer)), (false, .said dialInitiation.1), (false, .heard dialResponse.1)]

/-- The first dialer gets a secure connection to the owner of the other key. -/
theorem exists_dialed : ∃ registry sides connection,
    Shared .standard dials .empty dialLog registry sides ∧
      sides false = .finished (.ok connection) ∧ connection.isSecure = true ∧
      connection.remoteIdentity = some peer := by
  let party := (dialed (some wanted) (.filled 5)).dialer
  let party' := (dialed none (.filled 2)).dialer
  have welcome : (dialed (some wanted) (.filled 5)).Welcome .standard := by
    intro secret secret' secrets
    have known : some (SecretKey.filled 1, SecretKey.filled 5) = some (secret, secret') := secrets
    cases known
    exact .inr rfl
  have secures := @Meeting.secures_reply _ _ (.filled 1) (.filled 5) welcome rfl
  have secures' := @Meeting.secures_reply .standard (dialed none (.filled 2)) (.filled 1)
    (.filled 2) (fun _ _ _ => .inl rfl) rfl
  let registry := (Registry.empty.insert party.remote wanted).insert party.remote peer
  -- Two dials to one endpoint: the first goes as far as to register the key that it expects, then
  -- the second one registers another, and then the first one looks the key up.
  obtain ⟨_, offers, offered⟩ := Dialer.step_offering .standard party .empty Wire.idle_new
  obtain ⟨wire, _, idle, hears, heard⟩ :=
    Dialer.step_awaitingReply .standard party .empty Wire.idle_new secures dialOffer
  obtain ⟨_, offers', offered'⟩ := Dialer.step_offering .standard party'
    (Registry.empty.insert party.remote wanted) Wire.idle_new
  obtain ⟨wire', _, -, hears', heard'⟩ := Dialer.step_awaitingReply .standard party'
    (Registry.empty.insert party.remote wanted) Wire.idle_new secures' dialOffer
  have found : registry.get? party.remote = some peer := Registry.get?_insert _ _ _
  obtain ⟨_, initiates, initiated⟩ := Dialer.step_lookingUp .standard party _ idle found
    (transcript dialOffer claiming) (dialed (some wanted) (.filled 5)).resolution (.filled 1)
  -- The peer owns the key to which the handshake was initiated, and completes it.
  have finishes : dialInitiation.2.finish? .standard dialResponse.1 =
      some ⟨dialResponse.2.receiver, dialResponse.2.sender, peer⟩ :=
    Noise.finish?_reply Suite.opens_standard _
      (Suite.agrees_standard (.filled 1) (by simp) (.filled 4) (by simp))
      (Suite.agrees_standard (.filled 3) (by simp) (.filled 4) (by simp)) peer
  obtain ⟨_, _, answers, answered⟩ := Dialer.step_awaitingResponse .standard party registry idle
    (Noise.length_reply _ _) finishes (dialed (some wanted) (.filled 5)).resolution
  have registers (registry : Registry) (party : Party) (wire : Wire) (prologue : Bytes)
      (resolution : Resolution) (secret : SecretKey) (key : PublicKey) :
      Dialer.step .standard registry ⟨party, wire, .registering prologue resolution secret key⟩
          (.delivering []) =
        (.next ⟨party, wire, .lookingUp prologue resolution secret⟩,
          registry.insert party.remote key, .delivering []) := rfl
  -- The dials take turns.
  have first := (@Shared.start Bool _ .standard dials .empty).dial false rfl offers offered
  have first := first.dial false rfl hears heard
  have first := first.dial false rfl (registers ..) rfl
  have second := first.dial true rfl offers' offered'
  have second := second.dial true rfl hears' heard'
  have second := second.dial true rfl (registers ..) rfl
  have first := second.dial false rfl initiates initiated
  have first := first.dial false rfl answers answered
  exact ⟨_, _, _, first, rfl, rfl, rfl⟩

/-- The key that the dialer expects is not the one that the peer owns. -/
theorem wanted_ne_peer : wanted ≠ peer := by
  decide +kernel

end Crossing

/-- The first of two peers with the same endpoint gets a secure connection. -/
theorem identities_are_registered_last_of_crossing :
    ∃ registry sides connection,
      Shared .standard Crossing.tasks .empty Crossing.log registry sides ∧
      sides false = .finished (.ok connection) ∧ connection.isSecure = true ∧
      (∃ key found, Identified Crossing.tasks Crossing.log false key found ∧
        connection.remoteIdentity = some found) ∧
      ∃ channel key, claimed? Crossing.offer = some key ∧
        Judged Crossing.tasks Crossing.log false key (Listener.responder? .standard
          (Crossing.meeting (.filled 1)).listener Crossing.offer channel Crossing.initiation.1)
          (sides false) := by
  obtain ⟨registry, sides, connection, shared, finished, secure, -⟩ := Crossing.exists_shared
  have result := identities_are_registered_last shared false
  obtain ⟨channel, key, -, claimed, judged⟩ := result.2 _ _ _ rfl rfl
  exact ⟨registry, sides, connection, shared, finished, secure,
    result.1 connection finished secure, channel.secret, key, claimed, judged⟩

/-- The identity is not always the key that the peer claims, an initiator that does not own the key
that it claims is not always rejected, and a dialer does not always reach the owner of the key that
it expects: another negotiation with the same endpoint may have registered a key in between. -/
theorem identities_are_not_always_claimed :
    (¬ ∀ (tasks : Bool → Task) (registry registry' : Registry) (log : List (Bool × Deed))
      (sides : Bool → Side Negotiator) (i : Bool) (connection : Connection),
      Shared .standard tasks registry log registry' sides → sides i = .finished (.ok connection) →
      connection.isSecure = true →
      connection.remoteIdentity = (heards (deedsOf i log)).head?.bind claimed?) ∧
    (¬ ∀ (tasks : Bool → Task) (registry registry' : Registry) (log : List (Bool × Deed))
      (sides : Bool → Side Negotiator) (i : Bool) (party : Party) (offer message : Bytes)
      (channel : SecureChannel) (responder : Noise.Responder)
      (result : Except NegotiationError Connection),
      Shared .standard tasks registry log registry' sides → tasks i = .listen party →
      heards (deedsOf i log) = [offer, message] → party.upgrades.secureChannel? = some channel →
      Listener.responder? .standard party offer channel.secret message = some responder →
      claimed? offer ≠ some responder.initiator → sides i = .finished result →
      result = .error (.rejected responder.initiator)) ∧
    ¬ ∀ (tasks : Bool → Task) (registry registry' : Registry) (log : List (Bool × Deed))
      (sides : Bool → Side Negotiator) (i : Bool) (expected : PublicKey) (connection : Connection),
      Shared .standard tasks registry log registry' sides → (tasks i).expected = some expected →
      sides i = .finished (.ok connection) → connection.isSecure = true →
      connection.remoteIdentity = some expected := by
  obtain ⟨registry, sides, connection, shared, finished, secure, identity⟩ :=
    Crossing.exists_shared
  have other : claimed? Crossing.offer ≠ some Crossing.owned := by
    rw [Crossing.claimed?_offer]
    exact fun same => Crossing.claimed_ne_owned (Option.some.inj same)
  refine ⟨fun always => ?_, fun always => ?_, fun always => ?_⟩
  · have same := always _ _ _ _ _ _ _ shared finished secure
    rw [show heards (deedsOf false Crossing.log) = [Crossing.offer, Crossing.initiation.1] from rfl,
      List.head?_cons, Option.bind_some] at same
    exact other (same.symm.trans identity)
  · cases always _ _ _ _ _ _ _ _ _ (.new (.filled 2)) _ _ shared rfl rfl rfl
      Crossing.respond?_initiation other finished
  · obtain ⟨registry, sides, connection, shared, finished, secure, identity⟩ :=
      Crossing.exists_dialed
    have same := always _ _ _ _ _ _ Crossing.wanted _ shared rfl finished secure
    exact Crossing.wanted_ne_peer (Option.some.inj (same.symm.trans identity))

end Negotiation

end PeerLink
