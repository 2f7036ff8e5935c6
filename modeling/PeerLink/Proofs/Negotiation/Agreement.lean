import PeerLink.Proofs.Crypto.Standard
import PeerLink.Proofs.Negotiation.Sides
import PeerLink.Proofs.Noise.Sealing

/-!
# Two honest sides come to an agreement

A meeting passes through few stages, in each of which at most one message is in flight. `Stage`
counts the messages that are still to come; `Stage.runDialer` and `Stage.runListener` show that a
run of a side never leaves the stages, and that a side whose turn it is brings the meeting forward
unless the network holds octets back. So the meeting stays at a stage whatever happens in which
order, and once the network lets everything through it comes to its end, where both sides agree.
-/

namespace PeerLink.Negotiation

/-- The stages of a meeting, by the number of messages that are still to come at most: at an odd
number it is the dialer's turn. -/
inductive Stage (suite : Suite) (meeting : Meeting) (free : Bool) : Nat → Pair → Prop
  /-- Nothing was sent. -/
  | opening {pair : Pair}
      (dialing : Dialing suite meeting free .offering [] pair.dialer pair.dialerRegistry
        pair.link.back)
      (listening : Listening suite meeting free .awaitingOffer [] pair.listener
        pair.listenerRegistry pair.link.forth) : Stage suite meeting free 5 pair
  /-- The offer is in flight. -/
  | offered {pair : Pair}
      (dialing : Dialing suite meeting free .awaitingReply [] pair.dialer pair.dialerRegistry
        pair.link.back)
      (listening : Listening suite meeting free .awaitingOffer
        (LengthPrefixed.encode (meeting.offer suite)) pair.listener pair.listenerRegistry
        pair.link.forth) : Stage suite meeting free 4 pair
  /-- The reply is in flight, and the listener has nothing more to say. -/
  | repliedBare {pair : Pair} (secrets : meeting.secrets = none)
      (dialing : Dialing suite meeting free .awaitingReply
        (LengthPrefixed.encode (meeting.reply suite)) pair.dialer pair.dialerRegistry
        pair.link.back)
      (listening : Listening suite meeting free .done [] pair.listener pair.listenerRegistry
        pair.link.forth) : Stage suite meeting free 3 pair
  /-- The reply is in flight, and the handshake is to begin. -/
  | repliedSecure {pair : Pair} {secret secret' : SecretKey}
      (secrets : meeting.secrets = some (secret, secret'))
      (dialing : Dialing suite meeting free .awaitingReply
        (LengthPrefixed.encode (meeting.reply suite)) pair.dialer pair.dialerRegistry
        pair.link.back)
      (listening : Listening suite meeting free .awaitingInitiation [] pair.listener
        pair.listenerRegistry pair.link.forth) : Stage suite meeting free 3 pair
  /-- The first message of the handshake is in flight. -/
  | initiated {pair : Pair} {secret secret' : SecretKey}
      (secrets : meeting.secrets = some (secret, secret'))
      (dialing : Dialing suite meeting free .awaitingResponse [] pair.dialer pair.dialerRegistry
        pair.link.back)
      (listening : Listening suite meeting free .awaitingInitiation
        (meeting.initiation suite secret secret').1 pair.listener pair.listenerRegistry
        pair.link.forth) : Stage suite meeting free 2 pair
  /-- The second message of the handshake is in flight. -/
  | responded {pair : Pair} {secret secret' : SecretKey}
      (secrets : meeting.secrets = some (secret, secret'))
      (dialing : Dialing suite meeting free .awaitingResponse
        (meeting.response suite secret secret').1 pair.dialer pair.dialerRegistry pair.link.back)
      (listening : Listening suite meeting free .done [] pair.listener pair.listenerRegistry
        pair.link.forth) : Stage suite meeting free 1 pair
  /-- Both sides are done. -/
  | agreed {pair : Pair}
      (dialing : Dialing suite meeting free .done [] pair.dialer pair.dialerRegistry
        pair.link.back)
      (listening : Listening suite meeting free .done [] pair.listener pair.listenerRegistry
        pair.link.forth) : Stage suite meeting free 0 pair

/-- What may happen while two sides meet. -/
inductive Event where
  /-- The dialer runs as far as it goes. -/
  | dial
  /-- The listener runs as far as it goes. -/
  | listen
  /-- The network lets through so many octets in either direction and holds back the others. -/
  | hold (forth back : Option Nat)

/-- Two sides that have not begun, at the ends of a link whose reads have any pace. -/
def Meeting.pair (meeting : Meeting) (dialerRegistry listenerRegistry : Registry)
    (forth back : Nat → Option Nat) : Pair where
  dialer := .active (.new meeting.dialer)
  dialerRegistry := dialerRegistry
  listener := .active (.new meeting.listener)
  listenerRegistry := listenerRegistry
  link := ⟨{ Pipe.new with pace := forth }, { Pipe.new with pace := back }⟩

namespace Pair

/-- The network lets through so many octets in either direction. -/
def hold (forth back : Option Nat) (pair : Pair) : Pair :=
  { pair with
    link := ⟨{ pair.link.forth with gate := forth }, { pair.link.back with gate := back }⟩ }

/-- The pair after an event. -/
def happen (suite : Suite) (pair : Pair) : Event → Pair
  | .dial => pair.runDialer suite
  | .listen => pair.runListener suite
  | .hold forth back => pair.hold forth back

/-- The pair after some events. -/
def happenAll (suite : Suite) (pair : Pair) (events : List Event) : Pair :=
  events.foldl (happen suite) pair

/-- A run of the listener leaves the dialer as it is. -/
theorem dialer_runListener (suite : Suite) (pair : Pair) :
    (pair.runListener suite).dialer = pair.dialer := by
  obtain ⟨dialer, registry, listener, registry', link⟩ := pair
  cases listener with
  | active listener =>
    simp only [runListener]
    split <;> rfl
  | absent => rfl
  | finished result => rfl
  | abandoned => rfl

/-- A dialer that is done stays as it is. -/
theorem happen_of_finished {suite : Suite} {pair : Pair}
    {result : Except NegotiationError Connection} (finished : pair.dialer = .finished result)
    (event : Event) : (pair.happen suite event).dialer = .finished result := by
  cases event with
  | dial =>
    obtain ⟨dialer, registry, listener, registry', link⟩ := pair
    obtain rfl : dialer = .finished result := finished
    rfl
  | listen => exact (dialer_runListener suite pair).trans finished
  | hold forth back => exact finished

/-- A dialer that is done stays as it is, whatever happens. -/
theorem happenAll_of_finished {suite : Suite} {pair : Pair}
    {result : Except NegotiationError Connection} (finished : pair.dialer = .finished result)
    (events : List Event) : (pair.happenAll suite events).dialer = .finished result := by
  induction events generalizing pair with
  | nil => exact finished
  | cons event events ih => exact ih (happen_of_finished finished event)

/-- What a run of the dialer leaves. -/
theorem runDialer_eq {suite : Suite} {pair : Pair} {dialer : Dialer} {move : Move Dialer}
    {registry : Registry} {stream : Stream} (active : pair.dialer = .active dialer)
    (run : dialer.run suite pair.dialerRegistry pair.link.dialing = (move, registry, stream)) :
    pair.runDialer suite = { pair with
      dialer := move.side, dialerRegistry := registry, link := .ofDialing stream } := by
  rw [runDialer, active]
  simp only [run]
  cases move <;> rfl

/-- What a run of the listener leaves. -/
theorem runListener_eq {suite : Suite} {pair : Pair} {listener : Listener} {move : Move Listener}
    {registry : Registry} {stream : Stream} (active : pair.listener = .active listener)
    (run : listener.run suite pair.listenerRegistry pair.link.listening =
      (move, registry, stream)) :
    pair.runListener suite = { pair with
      listener := move.side, listenerRegistry := registry, link := .ofListening stream } := by
  rw [runListener, active]
  simp only [run]
  cases move <;> rfl

end Pair

namespace Stage

variable {suite : Suite} {meeting : Meeting} {free : Bool} {n : Nat} {pair : Pair}

/-! ### The dialer -/

/-- What a run of the dialer has made of the stage `n`: it leads to the same stage or to a later
one, and to a later one if it is the dialer's turn and the network lets everything through; or the
dialer has refused a listener that it does not want to reach. -/
def DialerGoesOn (suite : Suite) (meeting : Meeting) (free : Bool) (n : Nat) (pair : Pair) : Prop :=
  (∃ n', Stage suite meeting free n' pair ∧ n' ≤ n ∧ (free = true → n % 2 = 1 → n' < n)) ∨
    (¬ meeting.Welcome suite ∧ ∃ e, pair.dialer = .finished (.error e))

/-- The meeting has come to a later stage. -/
theorem DialerGoesOn.later {n' : Nat} (stage : Stage suite meeting free n' pair) (lt : n' < n) :
    DialerGoesOn suite meeting free n pair :=
  .inl ⟨n', stage, Nat.le_of_lt lt, fun _ _ => lt⟩

/-- The meeting is where it was, as it is not the dialer's turn or octets are held back. -/
theorem DialerGoesOn.same (stage : Stage suite meeting free n pair)
    (no_turn : free = true → n % 2 ≠ 1) : DialerGoesOn suite meeting free n pair :=
  .inl ⟨n, stage, Nat.le_refl n, fun is_free turn => absurd turn (no_turn is_free)⟩

section

variable {dialer : Side Dialer} {listener : Side Listener} {registry registry' : Registry}
  {forth back : Pipe}

/-- A dialer that has not begun sends its offer. -/
theorem runDialer_opening (sound : meeting.Sound suite)
    (dialing : Dialing suite meeting free .offering [] dialer registry back)
    (listening : Listening suite meeting free .awaitingOffer [] listener registry' forth) :
    DialerGoesOn suite meeting free 5
      ((Pair.mk dialer registry listener registry' ⟨forth, back⟩).runDialer suite) := by
  cases dialing with
  | offering awaits =>
    -- The offer follows what is in flight to the listener, which is nothing.
    obtain ⟨move, registry'', stream, run, gained, dialing⟩ :=
      @Dialing.run_offering suite meeting free registry ⟨back, forth⟩ _ sound listening.opened
        awaits
    rw [Pair.runDialer_eq rfl run]
    exact .later (.offered dialing (listening.gained gained)) (by decide)

/-- A dialer waits for the reply while its offer is in flight. -/
theorem runDialer_offered (sound : meeting.Sound suite)
    (dialing : Dialing suite meeting free .awaitingReply [] dialer registry back)
    (listening : Listening suite meeting free .awaitingOffer
      (LengthPrefixed.encode (meeting.offer suite)) listener registry' forth) :
    DialerGoesOn suite meeting free 4
      ((Pair.mk dialer registry listener registry' ⟨forth, back⟩).runDialer suite) := by
  cases dialing with
  | awaitingReply valid awaits =>
    obtain ⟨move, registry'', stream, run, gained, dialing⟩ :=
      @Dialing.idle_awaitingReply suite meeting free registry ⟨back, forth⟩ _ sound
        listening.opened _ valid awaits
    rw [Pair.runDialer_eq rfl run]
    have listening := listening.gained gained
    rw [List.append_nil] at listening
    exact .same (.offered dialing listening) fun _ => by decide

/-- A dialer that has the reply before it takes it, unless the network holds octets of it back. Then
it is done, if not both sides have a secure channel, or begins the handshake with a listener that
waits for it, or refuses the listener. -/
theorem runDialer_replied (sound : meeting.Sound suite) {place : AcceptPlace}
    (dialing : Dialing suite meeting free .awaitingReply
      (LengthPrefixed.encode (meeting.reply suite)) dialer registry back)
    (listening : Listening suite meeting free place [] listener registry' forth)
    (bare : meeting.secrets = none → place = .done)
    (secure : ∀ both, meeting.secrets = some both → place = .awaitingInitiation) :
    DialerGoesOn suite meeting free 3
      ((Pair.mk dialer registry listener registry' ⟨forth, back⟩).runDialer suite) := by
  cases dialing with
  | awaitingReply valid awaits =>
    obtain ⟨move, registry'', stream, run, taken⟩ :=
      @Dialing.run_awaitingReply suite meeting free _ registry ⟨back, forth⟩ _ sound
        listening.opened _ valid awaits [] (List.append_nil _)
    rw [Pair.runDialer_eq rfl run]
    rcases taken with ⟨-, none, gained, dialing⟩ | ⟨_, _, -, both, gained, dialing⟩ |
      ⟨-, unwelcome, refused⟩ | ⟨held, gained, dialing⟩
    · obtain rfl := bare none
      exact .later (.agreed dialing (listening.gained gained)) (by decide)
    · obtain rfl := secure _ both
      exact .later (.initiated both dialing (listening.gained gained)) (by decide)
    · exact .inr ⟨unwelcome, refused⟩
    · -- The meeting stays where it is, and only a network that holds octets back makes it.
      refine .same ?_ fun is_free => absurd rfl (held is_free)
      have listening := listening.gained gained
      cases secrets : meeting.secrets with
      | none =>
        obtain rfl := bare secrets
        exact .repliedBare secrets dialing listening
      | some both =>
        obtain rfl := secure both secrets
        exact .repliedSecure secrets dialing listening

/-- A dialer waits for the response while its initiation is in flight. -/
theorem runDialer_initiated (sound : meeting.Sound suite) {secret secret' : SecretKey}
    (secrets : meeting.secrets = some (secret, secret'))
    (dialing : Dialing suite meeting free .awaitingResponse [] dialer registry back)
    (listening : Listening suite meeting free .awaitingInitiation
      (meeting.initiation suite secret secret').1 listener registry' forth) :
    DialerGoesOn suite meeting free 2
      ((Pair.mk dialer registry listener registry' ⟨forth, back⟩).runDialer suite) := by
  cases dialing with
  | awaitingResponse secrets' registered awaits =>
    obtain ⟨move, stream, run, outbound, dialing⟩ :=
      @Dialing.idle_awaitingResponse suite meeting free registry ⟨back, forth⟩ _ sound _ _
        secrets' registered _ awaits
    rw [Pair.runDialer_eq rfl run]
    change stream.outbound = forth at outbound
    rw [← outbound] at listening
    exact .same (.initiated secrets dialing listening) fun _ => by decide

/-- A dialer that has the response before it is done, unless the network holds octets of it back. -/
theorem runDialer_responded (sound : meeting.Sound suite) {secret secret' : SecretKey}
    (secrets : meeting.secrets = some (secret, secret'))
    (dialing : Dialing suite meeting free .awaitingResponse
      (meeting.response suite secret secret').1 dialer registry back)
    (listening : Listening suite meeting free .done [] listener registry' forth) :
    DialerGoesOn suite meeting free 1
      ((Pair.mk dialer registry listener registry' ⟨forth, back⟩).runDialer suite) := by
  cases dialing with
  | awaitingResponse secrets' registered awaits =>
    obtain ⟨rfl, rfl⟩ := Prod.mk.inj (Option.some.inj (secrets.symm.trans secrets'))
    obtain ⟨move, stream, run, outbound, taken⟩ :=
      @Dialing.run_awaitingResponse suite meeting free _ registry ⟨back, forth⟩ _ sound _ _
        secrets registered _ awaits [] (List.append_nil _)
    rw [Pair.runDialer_eq rfl run]
    change stream.outbound = forth at outbound
    rw [← outbound] at listening
    rcases taken with ⟨-, dialing⟩ | ⟨held, dialing⟩
    · exact .later (.agreed dialing listening) (by decide)
    · exact .same (.responded secrets dialing listening) fun is_free => absurd rfl (held is_free)

/-- A dialer that is done stays where it is. -/
theorem runDialer_agreed
    (dialing : Dialing suite meeting free .done [] dialer registry back)
    (listening : Listening suite meeting free .done [] listener registry' forth) :
    DialerGoesOn suite meeting free 0
      ((Pair.mk dialer registry listener registry' ⟨forth, back⟩).runDialer suite) := by
  have finished : (Pair.mk dialer registry listener registry' ⟨forth, back⟩).runDialer suite =
      ⟨dialer, registry, listener, registry', ⟨forth, back⟩⟩ := by
    cases dialing <;> rfl
  rw [finished]
  exact .same (.agreed dialing listening) fun _ => by decide

end

/-- A run of the dialer goes on from every stage, or the dialer refuses the listener. -/
theorem runDialer_or_refuse (sound : meeting.Sound suite) (h : Stage suite meeting free n pair) :
    DialerGoesOn suite meeting free n (pair.runDialer suite) := by
  obtain ⟨dialer, registry, listener, registry', ⟨forth, back⟩⟩ := pair
  cases h with
  | opening dialing listening => exact runDialer_opening sound dialing listening
  | offered dialing listening => exact runDialer_offered sound dialing listening
  | repliedBare secrets dialing listening =>
    refine runDialer_replied sound dialing listening (fun _ => rfl) fun both some_secrets => ?_
    exact absurd (secrets.symm.trans some_secrets) (Option.some_ne_none both).symm
  | repliedSecure secrets dialing listening =>
    refine runDialer_replied sound dialing listening (fun no_secrets => ?_) fun _ _ => rfl
    exact absurd (secrets.symm.trans no_secrets) (Option.some_ne_none _)
  | initiated secrets dialing listening => exact runDialer_initiated sound secrets dialing listening
  | responded secrets dialing listening => exact runDialer_responded sound secrets dialing listening
  | agreed dialing listening => exact runDialer_agreed dialing listening

/-- A run of the dialer leads to the same stage or to a later one if the listener is welcome. -/
theorem runDialer (sound : meeting.Sound suite) (welcome : meeting.Welcome suite)
    (h : Stage suite meeting free n pair) :
    ∃ n', Stage suite meeting free n' (pair.runDialer suite) ∧ n' ≤ n ∧
      (free = true → n % 2 = 1 → n' < n) := by
  rcases h.runDialer_or_refuse sound with stage | ⟨unwelcome, -⟩
  · exact stage
  · exact absurd welcome unwelcome

/-! ### The listener -/

/-- What a run of the listener has made of the stage `n`: it leads to the same stage or to a later
one, and to a later one if it is the listener's turn and the network lets everything through. -/
def ListenerGoesOn (suite : Suite) (meeting : Meeting) (free : Bool) (n : Nat) (pair : Pair) :
    Prop :=
  ∃ n', Stage suite meeting free n' pair ∧ n' ≤ n ∧ (free = true → 0 < n → n % 2 = 0 → n' < n)

/-- The meeting has come to a later stage. -/
theorem ListenerGoesOn.later {n' : Nat} (stage : Stage suite meeting free n' pair) (lt : n' < n) :
    ListenerGoesOn suite meeting free n pair :=
  ⟨n', stage, Nat.le_of_lt lt, fun _ _ _ => lt⟩

/-- The meeting is where it was, as it is not the listener's turn or octets are held back. -/
theorem ListenerGoesOn.same (stage : Stage suite meeting free n pair)
    (no_turn : free = true → 0 < n → n % 2 ≠ 0) : ListenerGoesOn suite meeting free n pair :=
  ⟨n, stage, Nat.le_refl n, fun is_free some_left turn => absurd turn (no_turn is_free some_left)⟩

section

variable {dialer : Side Dialer} {listener : Side Listener} {registry registry' : Registry}
  {forth back : Pipe}

/-- A listener that is done stays where it is. -/
theorem runListener_done {flight : Bytes}
    (listening : Listening suite meeting free .done flight listener registry' forth) :
    (Pair.mk dialer registry listener registry' ⟨forth, back⟩).runListener suite =
      ⟨dialer, registry, listener, registry', ⟨forth, back⟩⟩ := by
  cases listening <;> rfl

/-- A listener waits for the offer before there is one. -/
theorem runListener_opening (sound : meeting.Sound suite)
    (dialing : Dialing suite meeting free .offering [] dialer registry back)
    (listening : Listening suite meeting free .awaitingOffer [] listener registry' forth) :
    ListenerGoesOn suite meeting free 5
      ((Pair.mk dialer registry listener registry' ⟨forth, back⟩).runListener suite) := by
  cases listening with
  | awaitingOffer valid awaits =>
    obtain ⟨move, registry'', stream, run, taken⟩ :=
      @Listening.run_awaitingOffer suite meeting free [] registry' ⟨forth, back⟩ _ sound
        dialing.opened _ valid awaits _ (List.nil_append _)
    rw [Pair.runListener_eq rfl run]
    rcases taken with ⟨nothing, -⟩ | ⟨-, gained, listening⟩
    · exact absurd nothing (LengthPrefixed.encode_ne_nil _)
    · exact .same (.opening (dialing.gained gained) listening) fun _ _ => by decide

/-- A listener that has the offer before it replies, unless the network holds octets of it back. -/
theorem runListener_offered (sound : meeting.Sound suite)
    (dialing : Dialing suite meeting free .awaitingReply [] dialer registry back)
    (listening : Listening suite meeting free .awaitingOffer
      (LengthPrefixed.encode (meeting.offer suite)) listener registry' forth) :
    ListenerGoesOn suite meeting free 4
      ((Pair.mk dialer registry listener registry' ⟨forth, back⟩).runListener suite) := by
  cases listening with
  | awaitingOffer valid awaits =>
    obtain ⟨move, registry'', stream, run, taken⟩ :=
      @Listening.run_awaitingOffer suite meeting free _ registry' ⟨forth, back⟩ _ sound
        dialing.opened _ valid awaits [] (List.append_nil _)
    rw [Pair.runListener_eq rfl run]
    -- Behind the reply it is done, or the handshake is to begin.
    rcases taken with ⟨-, gained, ⟨none, listening⟩ | ⟨⟨_, _, both⟩, listening⟩⟩ |
      ⟨held, gained, listening⟩
    · exact .later (.repliedBare none (dialing.gained gained) listening) (by decide)
    · exact .later (.repliedSecure both (dialing.gained gained) listening) (by decide)
    · exact .same (.offered (dialing.gained gained) listening) fun is_free _ =>
        absurd rfl (held is_free)

/-- A listener waits for the initiation while its reply is in flight. -/
theorem runListener_replied (sound : meeting.Sound suite) {secret secret' : SecretKey}
    (secrets : meeting.secrets = some (secret, secret'))
    (dialing : Dialing suite meeting free .awaitingReply
      (LengthPrefixed.encode (meeting.reply suite)) dialer registry back)
    (listening : Listening suite meeting free .awaitingInitiation [] listener registry' forth) :
    ListenerGoesOn suite meeting free 3
      ((Pair.mk dialer registry listener registry' ⟨forth, back⟩).runListener suite) := by
  cases listening with
  | awaitingInitiation secrets' registered awaits =>
    obtain ⟨move, stream, run, gained, listening⟩ :=
      @Listening.idle_awaitingInitiation suite meeting free registry' ⟨forth, back⟩ _ sound
        dialing.opened _ _ secrets' registered _ awaits
    rw [Pair.runListener_eq rfl run]
    have dialing := dialing.gained gained
    rw [List.append_nil] at dialing
    exact .same (.repliedSecure secrets dialing listening) fun _ _ => by decide

/-- A listener that has the initiation before it responds and is done, unless the network holds
octets of it back. -/
theorem runListener_initiated (sound : meeting.Sound suite) {secret secret' : SecretKey}
    (secrets : meeting.secrets = some (secret, secret'))
    (dialing : Dialing suite meeting free .awaitingResponse [] dialer registry back)
    (listening : Listening suite meeting free .awaitingInitiation
      (meeting.initiation suite secret secret').1 listener registry' forth) :
    ListenerGoesOn suite meeting free 2
      ((Pair.mk dialer registry listener registry' ⟨forth, back⟩).runListener suite) := by
  cases listening with
  | awaitingInitiation secrets' registered awaits =>
    obtain ⟨rfl, rfl⟩ := Prod.mk.inj (Option.some.inj (secrets.symm.trans secrets'))
    obtain ⟨move, stream, run, taken⟩ :=
      @Listening.run_awaitingInitiation suite meeting free _ registry' ⟨forth, back⟩ _ sound
        dialing.opened _ _ secrets registered _ awaits [] (List.append_nil _)
    rw [Pair.runListener_eq rfl run]
    rcases taken with ⟨-, gained, listening⟩ | ⟨held, gained, listening⟩
    · exact .later (.responded secrets (dialing.gained gained) listening) (by decide)
    · exact .same (.initiated secrets (dialing.gained gained) listening) fun is_free _ =>
        absurd rfl (held is_free)

end

/-- A run of the listener goes on from every stage. -/
theorem runListener (sound : meeting.Sound suite) (h : Stage suite meeting free n pair) :
    ListenerGoesOn suite meeting free n (pair.runListener suite) := by
  obtain ⟨dialer, registry, listener, registry', ⟨forth, back⟩⟩ := pair
  cases h with
  | opening dialing listening => exact runListener_opening sound dialing listening
  | offered dialing listening => exact runListener_offered sound dialing listening
  | repliedBare secrets dialing listening =>
    rw [runListener_done listening]
    exact .same (.repliedBare secrets dialing listening) fun _ _ => by decide
  | repliedSecure secrets dialing listening =>
    exact runListener_replied sound secrets dialing listening
  | initiated secrets dialing listening =>
    exact runListener_initiated sound secrets dialing listening
  | responded secrets dialing listening =>
    rw [runListener_done listening]
    exact .same (.responded secrets dialing listening) fun _ _ => by decide
  | agreed dialing listening =>
    rw [runListener_done listening]
    exact .same (.agreed dialing listening) fun _ none_left => absurd none_left (by decide)

/-! ### Events -/

/-- The network may hold octets back, or let all of them through. -/
theorem gated {free' : Bool} {forth back : Option Nat} (h : Stage suite meeting free n pair)
    (ungated : free' = true → forth = none ∧ back = none) :
    Stage suite meeting free' n (pair.hold forth back) := by
  have ungated_forth (is_free : free' = true) : forth = none := (ungated is_free).1
  have ungated_back (is_free : free' = true) : back = none := (ungated is_free).2
  cases h with
  | opening dialing listening =>
    exact .opening (dialing.gated ungated_back) (listening.gated ungated_forth)
  | offered dialing listening =>
    exact .offered (dialing.gated ungated_back) (listening.gated ungated_forth)
  | repliedBare secrets dialing listening =>
    exact .repliedBare secrets (dialing.gated ungated_back) (listening.gated ungated_forth)
  | repliedSecure secrets dialing listening =>
    exact .repliedSecure secrets (dialing.gated ungated_back) (listening.gated ungated_forth)
  | initiated secrets dialing listening =>
    exact .initiated secrets (dialing.gated ungated_back) (listening.gated ungated_forth)
  | responded secrets dialing listening =>
    exact .responded secrets (dialing.gated ungated_back) (listening.gated ungated_forth)
  | agreed dialing listening =>
    exact .agreed (dialing.gated ungated_back) (listening.gated ungated_forth)

/-- The network may always hold octets back: the gates stay as they are. -/
theorem of_free (h : Stage suite meeting free n pair) : Stage suite meeting false n pair :=
  @gated suite meeting free n pair false pair.link.forth.gate pair.link.back.gate h (by rintro ⟨⟩)

/-- An event leads to the same stage or to a later one, or the dialer has refused the listener. -/
theorem happen (sound : meeting.Sound suite) (event : Event)
    (h : Stage suite meeting false n pair) :
    (∃ n', Stage suite meeting false n' (pair.happen suite event) ∧ n' ≤ n) ∨
    (¬ meeting.Welcome suite ∧ ∃ e, (pair.happen suite event).dialer = .finished (.error e)) := by
  cases event with
  | dial =>
    rcases h.runDialer_or_refuse sound with ⟨n', h', le, -⟩ | refused
    · exact .inl ⟨n', h', le⟩
    · exact .inr refused
  | listen =>
    obtain ⟨n', h', le, -⟩ := h.runListener sound
    exact .inl ⟨n', h', le⟩
  | hold forth back => exact .inl ⟨n, h.gated (by rintro ⟨⟩), Nat.le_refl n⟩

/-- Whatever happens in which order, a meeting stays at a stage unless the dialer refuses the
listener. -/
theorem happenAll (sound : meeting.Sound suite) (events : List Event)
    (h : Stage suite meeting false n pair) :
    (∃ n', Stage suite meeting false n' (pair.happenAll suite events) ∧ n' ≤ n) ∨
    (¬ meeting.Welcome suite ∧
      ∃ e, (pair.happenAll suite events).dialer = .finished (.error e)) := by
  induction events generalizing n pair with
  | nil => exact .inl ⟨n, h, Nat.le_refl n⟩
  | cons event events ih =>
    rcases h.happen sound event with ⟨n', h', le⟩ | ⟨unwelcome, e, refused⟩
    · rcases ih h' with ⟨n'', h'', le'⟩ | refused
      · exact .inl ⟨n'', h'', Nat.le_trans le' le⟩
      · exact .inr refused
    · exact .inr ⟨unwelcome, e, Pair.happenAll_of_finished refused events⟩

/-- A turn of both sides brings a meeting forward when the network holds nothing back. -/
theorem turn (sound : meeting.Sound suite) (welcome : meeting.Welcome suite)
    (h : Stage suite meeting true n pair) :
    ∃ n', Stage suite meeting true n' ((pair.runDialer suite).runListener suite) ∧
      n' ≤ n - 1 := by
  obtain ⟨m, h', le, forward⟩ := h.runDialer sound welcome
  obtain ⟨n', h'', le', forward'⟩ := h'.runListener sound
  refine ⟨n', h'', ?_⟩
  rcases Nat.mod_two_eq_zero_or_one n with even | odd
  · -- The dialer may have done nothing: it is the turn of the listener.
    rcases Nat.lt_or_ge m n with less | ge
    · omega
    · obtain rfl : m = n := by omega
      have := forward' rfl
      omega
  · have := forward rfl odd
    omega

/-- Enough turns bring a meeting to its end when the network holds nothing back. -/
theorem takeTurns (sound : meeting.Sound suite) (welcome : meeting.Welcome suite) {turns : Nat}
    (enough : n ≤ turns) (h : Stage suite meeting true n pair) :
    Stage suite meeting true 0 (pair.takeTurns suite turns) := by
  induction turns generalizing n pair with
  | zero =>
    obtain rfl : n = 0 := by omega
    exact h
  | succ turns ih =>
    obtain ⟨n', h', le⟩ := h.turn sound welcome
    exact ih (by omega) h'

/-- There are enough turns in a run. -/
theorem run (sound : meeting.Sound suite) (welcome : meeting.Welcome suite)
    (enough : n ≤ Pair.maxTurns) (h : Stage suite meeting true n pair) :
    Stage suite meeting true 0 (pair.run suite) := by
  have last := h.takeTurns sound welcome enough
  have nobody_abandoned : pair.run suite = pair.takeTurns suite Pair.maxTurns := by
    rw [Pair.run]
    generalize pair.takeTurns suite Pair.maxTurns = pair at last ⊢
    obtain ⟨dialer, registry, listener, registry', link⟩ := pair
    cases last with
    | agreed dialing listening => cases dialing <;> cases listening <;> rfl
  rw [nobody_abandoned]
  exact last

end Stage

/-- Two sides that have not begun are at the first stage. -/
theorem Meeting.stage_pair (suite : Suite) (meeting : Meeting)
    (dialerRegistry listenerRegistry : Registry) (forth back : Nat → Option Nat) :
    Stage suite meeting false 5 (meeting.pair dialerRegistry listenerRegistry forth back) :=
  .opening (.offering ⟨rfl, rfl, .of_new back, by rintro ⟨⟩⟩)
    (.awaitingOffer (by rintro n ⟨⟩) ⟨rfl, rfl, .of_new forth, by rintro ⟨⟩⟩)

/-- Whatever happens before the network lets everything through, a meeting comes to its end. -/
theorem Meeting.stage_run {suite : Suite} {meeting : Meeting} (sound : meeting.Sound suite)
    (welcome : meeting.Welcome suite) (dialerRegistry listenerRegistry : Registry)
    (forth back : Nat → Option Nat) (events : List Event) :
    Stage suite meeting true 0
      ((((meeting.pair dialerRegistry listenerRegistry forth back).happenAll suite events).hold
        none none).run suite) := by
  have first := meeting.stage_pair suite dialerRegistry listenerRegistry forth back
  rcases first.happenAll sound events with ⟨n, stage, le⟩ | ⟨unwelcome, -⟩
  · have free : Stage suite meeting true n _ := stage.gated (fun _ => ⟨rfl, rfl⟩)
    refine free.run sound welcome (Nat.le_trans le ?_)
    decide
  · exact absurd welcome unwelcome

/-- Turns are events. -/
theorem Pair.takeTurns_eq (suite : Suite) (turns : Nat) (pair : Pair) :
    pair.takeTurns suite turns =
      pair.happenAll suite (List.replicate turns [Event.dial, .listen]).flatten := by
  induction turns generalizing pair with
  | zero => rfl
  | succ turns ih =>
    rw [takeTurns, ih, List.replicate_succ, List.flatten_cons]
    rfl

/-- Some events bring a meeting to its end. -/
theorem Meeting.exists_events {suite : Suite} {meeting : Meeting} (sound : meeting.Sound suite)
    (welcome : meeting.Welcome suite) (dialerRegistry listenerRegistry : Registry)
    (forth back : Nat → Option Nat) :
    ∃ events, Stage suite meeting false 0
      ((meeting.pair dialerRegistry listenerRegistry forth back).happenAll suite events) := by
  have first := meeting.stage_pair suite dialerRegistry listenerRegistry forth back
  have free : Stage suite meeting true 5 _ := first.gated (fun _ => ⟨rfl, rfl⟩)
  have last := free.takeTurns sound welcome (Nat.le_refl 5)
  rw [Pair.takeTurns_eq] at last
  exact ⟨.hold none none :: (List.replicate 5 [Event.dial, .listen]).flatten, last.of_free⟩

/-- A meeting after which the dialer has a connection is at its end. -/
theorem Meeting.stage_of_connection {suite : Suite} {meeting : Meeting}
    (sound : meeting.Sound suite) {dialerRegistry listenerRegistry : Registry}
    {forth back : Nat → Option Nat} {events : List Event} {connection : Connection}
    (done : ((meeting.pair dialerRegistry listenerRegistry forth back).happenAll suite
      events).dialer = .finished (.ok connection)) :
    Stage suite meeting false 0
      ((meeting.pair dialerRegistry listenerRegistry forth back).happenAll suite events) := by
  have first := meeting.stage_pair suite dialerRegistry listenerRegistry forth back
  rcases first.happenAll sound events with ⟨n, stage, -⟩ | ⟨-, e, refused⟩
  · generalize (meeting.pair dialerRegistry listenerRegistry forth back).happenAll suite events =
      pair at stage done ⊢
    obtain ⟨dialer, registry, listener, registry', link⟩ := pair
    obtain rfl : dialer = .finished (.ok connection) := done
    -- A dialer with a connection stands at the last place, and so the meeting at the last stage.
    cases stage with
    | opening dialing listening => cases dialing
    | offered dialing listening => cases dialing
    | repliedBare secrets dialing listening => cases dialing
    | repliedSecure secrets dialing listening => cases dialing
    | initiated secrets dialing listening => cases dialing
    | responded secrets dialing listening => cases dialing
    | agreed dialing listening => exact .agreed dialing listening
  · rw [done] at refused
    simp at refused

/-- What two sides have agreed on when both are done. -/
inductive Agreed (suite : Suite) (meeting : Meeting) (pair : Pair) : Prop
  /-- One of them has no secure channel, and both have a bare connection. -/
  | bare {connection connection' : Connection}
      (missing : meeting.dialer.upgrades.secureChannel? = none ∨
        meeting.listener.upgrades.secureChannel? = none)
      (dialer : pair.dialer = .finished (.ok connection))
      (listener : pair.listener = .finished (.ok connection'))
      (resolution : connection.resolution = .bare)
      (resolution' : connection'.resolution = .bare)
      (channel : connection.channel = .bare none)
      (channel' : connection'.channel = .bare none)
  /-- Both have the secure channel: each side knows the other one, and what one of them seals next
  the other one unseals. -/
  | secure {connection connection' : Connection} {channel channel' : SecureChannel}
      {layer layer' : SecureLayer}
      (mine : meeting.dialer.upgrades.secureChannel? = some channel)
      (yours : meeting.listener.upgrades.secureChannel? = some channel')
      (dialer : pair.dialer = .finished (.ok connection))
      (listener : pair.listener = .finished (.ok connection'))
      (resolution : connection.resolution = .resolved [.secureChannel])
      (resolution' : connection'.resolution = .resolved [.secureChannel])
      (identity : connection.remoteIdentity = some (channel'.identity suite))
      (identity' : connection'.remoteIdentity = some (channel.identity suite))
      (registered : pair.dialerRegistry.get? meeting.dialer.remote =
        some (channel'.identity suite))
      (registered' : pair.listenerRegistry.get? meeting.listener.remote =
        some (channel.identity suite))
      (secured : connection.channel = .secure layer)
      (secured' : connection'.channel = .secure layer')
      (forth : layer.sender.Pairs suite layer'.frames.receiver)
      (back : layer'.sender.Pairs suite layer.frames.receiver)

/-- The secret keys of both sides are the ones of their secure channels. -/
theorem Meeting.channels_of_some {meeting : Meeting} {secret secret' : SecretKey}
    (h : meeting.secrets = some (secret, secret')) :
    ∃ channel channel', meeting.dialer.upgrades.secureChannel? = some channel ∧
      meeting.listener.upgrades.secureChannel? = some channel' ∧ channel.secret = secret ∧
      channel'.secret = secret' := by
  unfold secrets at h
  cases mine : meeting.dialer.upgrades.secureChannel? with
  | none => simp [mine] at h
  | some channel =>
    cases yours : meeting.listener.upgrades.secureChannel? with
    | none => simp [mine, yours] at h
    | some channel' =>
      simp only [mine, yours, Option.some.injEq, Prod.mk.injEq] at h
      exact ⟨channel, channel', rfl, rfl, h.1, h.2⟩

/-- Without the secret keys one side has no secure channel. -/
theorem Meeting.missing_of_none {meeting : Meeting} (h : meeting.secrets = none) :
    meeting.dialer.upgrades.secureChannel? = none ∨
      meeting.listener.upgrades.secureChannel? = none := by
  unfold secrets at h
  cases mine : meeting.dialer.upgrades.secureChannel? with
  | none => exact .inl rfl
  | some channel =>
    cases yours : meeting.listener.upgrades.secureChannel? with
    | none => exact .inr rfl
    | some channel' => simp [mine, yours] at h

/-- At the end of a meeting both sides agree. -/
theorem Stage.agreed_of_zero {suite : Suite} (opens : suite.Opens) {meeting : Meeting}
    {free : Bool} {pair : Pair} (h : Stage suite meeting free 0 pair) :
    Agreed suite meeting pair := by
  obtain ⟨dialer, registry, listener, registry', link⟩ := pair
  cases h with
  | agreed dialing listening =>
    dsimp only at dialing listening
    cases dialing with
    | bare secrets awaits =>
      cases listening with
      | bare secrets' awaits' =>
        have resolution : meeting.resolution = .bare := by rw [Meeting.resolution, secrets]
        exact .bare (Meeting.missing_of_none secrets) rfl rfl resolution resolution rfl rfl
      | secure secrets' registered' awaits' =>
        rw [secrets] at secrets'
        simp at secrets'
    | secure secrets registered awaits =>
      cases listening with
      | bare secrets' awaits' =>
        rw [secrets] at secrets'
        simp at secrets'
      | secure secrets' registered' awaits' =>
        obtain ⟨rfl, rfl⟩ := Prod.mk.inj (Option.some.inj (secrets.symm.trans secrets'))
        -- What one side sends with is what the other one receives with.
        obtain ⟨channel, channel', mine, yours, rfl, rfl⟩ := Meeting.channels_of_some secrets
        have resolution : meeting.resolution = .resolved [.secureChannel] := by
          rw [Meeting.resolution, secrets]
        exact .secure mine yours rfl rfl resolution resolution rfl rfl registered registered' rfl
          rfl (Sealing.pairs_self opens _) (Sealing.pairs_self opens _)

/-- Whatever two honest sides bring along, at any pace of the stream and whatever happens in which
order before the network lets everything through, both come to an end and agree. -/
theorem honest_sides_agree {suite : Suite} {meeting : Meeting} (sound : meeting.Sound suite)
    (welcome : meeting.Welcome suite) (dialerRegistry listenerRegistry : Registry)
    (forth back : Nat → Option Nat) (events : List Event) :
    Agreed suite meeting
      ((((meeting.pair dialerRegistry listenerRegistry forth back).happenAll suite events).hold
        none none).run suite) := by
  have last := Meeting.stage_run sound welcome dialerRegistry listenerRegistry forth back events
  exact last.agreed_of_zero sound.opens

/-- A dialer that wants to reach just the owner of a key, and this owner. -/
def Meeting.expecting : Meeting where
  dialer := ⟨Upgrades.empty.insert (.secureChannel (.new (.filled 1))), ⟨.v4 ⟨127, 0, 0, 1⟩, 4000⟩,
    .filled 3, some (Suite.standard.publicKey (.filled 2))⟩
  listener := ⟨Upgrades.empty.insert (.secureChannel (.new (.filled 2))),
    ⟨.v4 ⟨127, 0, 0, 1⟩, 4001⟩, .filled 4, none⟩

/-- The owner of the key is welcome. -/
theorem Meeting.welcome_expecting : expecting.Welcome .standard := by
  intro mine yours secrets
  obtain ⟨-, rfl⟩ := Prod.mk.inj (Option.some.inj secrets)
  exact .inr rfl

/-- Both sides understand each other by the suite in use. -/
theorem Meeting.sound_expecting : expecting.Sound .standard :=
  ⟨Suite.opens_standard, Suite.agrees_standard⟩

/-- Both sides have a secure channel, and the octets come one at a time. -/
theorem honest_sides_agree_of_expecting :
    Meeting.expecting.Sound .standard ∧ Meeting.expecting.Welcome .standard ∧
      Agreed .standard .expecting
        ((((Meeting.expecting.pair .empty .empty (fun _ => some 1) (fun _ => some 1)).happenAll
          .standard [.hold (some 3) none, .dial, .listen]).hold none none).run .standard) := by
  have sound := Meeting.sound_expecting
  have welcome := Meeting.welcome_expecting
  exact ⟨sound, welcome, honest_sides_agree sound welcome .empty .empty
    (fun _ => some 1) (fun _ => some 1) [.hold (some 3) none, .dial, .listen]⟩

end PeerLink.Negotiation
