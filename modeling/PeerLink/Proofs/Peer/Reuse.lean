import PeerLink.Proofs.Connection.Incoming
import PeerLink.Proofs.Peer.Bootstrap
import PeerLink.Proofs.Peer.Capacity
import PeerLink.Proofs.Peer.Service

/-!
# What a bootstrap leaves of the store

A node that bootstraps takes the connection to its bootstrap peer out of the store, or dials the
peer if there is none, asks for peers over it, and registers it again when there is an answer. If
there is none, the store is left without this one entry and nobody else is dialed; otherwise the
store has the connection as the exchange left it, right behind the reply (`Exchanged`). Nothing
happens to the connections to others.

A session is *in step* with the peer at its other end if the requests that the peer has not read and
the replies that the session has not read are on their way in whole frames (`Session.InStep`). An
exchange takes the first reply and adds a request, so that a session that is registered again can be
used by the next bootstrap, and by the one after it (`Rounds`).
-/

namespace PeerLink

/-! ## Exchanges -/

/-- A session that was asked for peers, and what it is when there is an answer. -/
structure Exchanged (suite : Suite) (asked : Session) (answer : List PeerAddress)
    (kept : Session) : Prop where
  /-- The session is the one that the request leaves. -/
  left : requestPeers suite asked.connection asked.stream =
    (.done answer, kept.connection, kept.stream)
  /-- The request was put on the stream in one piece. -/
  request : ∃ octets, kept.stream.outbound.sent = octets :: asked.stream.outbound.sent
  /-- Nothing of it is kept back. -/
  idle : kept.connection.keeps = false
  /-- The reply is the first frame of what the peer has sent, and the session is right behind it,
  whatever follows. -/
  reply : ∃ text, Message.decoder.decode text = .ok (.bootstrap answer) ∧
    ∀ more, ((asked.connection.incoming asked.stream).append more).cut suite =
      some (text, (kept.connection.incoming kept.stream).append more)

section Exchanges

variable {suite : Suite} {asked kept : Session} {answer : List PeerAddress}

/-- A request with an answer is written, and then a frame is read. -/
theorem calls_of_requestPeers (left : requestPeers suite asked.connection asked.stream =
      (.done answer, kept.connection, kept.stream)) :
    ∃ connection stream text,
      asked.connection.writeObject suite Message.request.toJson asked.stream =
        (.ok (), connection, stream) ∧
      connection.readFrame suite stream = (.done (some text), kept.connection, kept.stream) ∧
      Message.decoder.decode text = .ok (.bootstrap answer) := by
  rcases written : asked.connection.writeObject suite Message.request.toJson asked.stream with
    ⟨_ | ⟨⟩, connection, stream⟩
  · simp [requestPeers, written] at left
  · rcases read : connection.readObject suite Message.decoder stream with
      ⟨⟨addresses⟩ | _ | _, connection', stream'⟩
    all_goals simp only [requestPeers, written, read, Outcome.map, Outcome.mapError] at left
    · simp only [Prod.mk.injEq, Outcome.done.injEq, Message.peerAddresses] at left
      obtain ⟨rfl, rfl, rfl⟩ := left
      obtain ⟨text, framed, decoded⟩ := readFrame_of_message read
      exact ⟨connection, stream, text, rfl, framed, decoded⟩
    · simp at left
    · simp at left

/-- What a request with an answer comes to. -/
theorem exchanged_of_requestPeers (left : requestPeers suite asked.connection asked.stream =
    (.done answer, kept.connection, kept.stream)) : Exchanged suite asked answer kept := by
  obtain ⟨connection, stream, text, written, framed, decoded⟩ := calls_of_requestPeers left
  obtain ⟨writes, same_outbound⟩ := Connection.readFrame_writesAlike framed
  obtain ⟨reads, same_inbound⟩ := Connection.writeText_readsAlike written
  refine ⟨left, ?_, ?_, text, decoded, fun more => Incoming.cut_append ?_ more⟩
  · rw [same_outbound]
    exact Connection.sent_of_writeObject written
  · -- Writing leaves nothing back, and reading has no part in that.
    have told := asked.connection.write_standing suite (.object Message.request.toJson)
      asked.stream
    rw [Connection.write, written] at told
    have behind : (kept.connection.standing kept.stream).keeps =
        (connection.standing stream).keeps :=
      congrArg Standing.keeps (writes.standing_eq same_outbound)
    exact behind.trans (Standing.keeps_of_object told)
  · -- Writing has no part in what was received, and the text that is read is not an empty one.
    have some_octets : text ≠ [] := by
      rintro rfl
      exact Message.decode_nil _ decoded
    rw [← reads.incoming_eq same_inbound]
    exact Connection.incoming_of_readFrame framed some_octets

/-- A session over which a request can be written gets the reply that is there. -/
theorem exists_exchanged {text : Bytes} {rest : Incoming}
    (accepts : asked.stream.outbound.refuses = false)
    (first : (asked.connection.incoming asked.stream).cut suite = some (text, rest))
    (decoded : Message.decoder.decode text = .ok (.bootstrap answer)) :
    ∃ kept, Exchanged suite asked answer kept := by
  have opened : (asked.connection.standing asked.stream).closed = false := by
    obtain ⟨⟨_ | wire, channel, address, resolution⟩, stream⟩ := asked
    · simp [Connection.incoming, Incoming.cut] at first
    · rfl
  have small : Message.request.toJson.encode.length ≤ asked.connection.capacity := by
    have size : Message.request.toJson.encode.length = 39 := Message.length_encode []
    rw [size, Connection.capacity]
    split_ifs <;> decide
  rcases @Connection.writeObject_cases suite _ _ opened accepts Message.request.toJson with
    ⟨-, connection, stream, written⟩ | ⟨large, -⟩
  · obtain ⟨reads, same⟩ := Connection.writeText_readsAlike written
    rw [← reads.incoming_eq same] at first
    obtain ⟨connection', stream', framed⟩ := Connection.exists_readFrame first
    refine ⟨⟨connection', stream'⟩, exchanged_of_requestPeers ?_⟩
    rw [requestPeers, written]
    simp only [readObject_of_text framed, decoded]
    rfl
  · exact absurd small (Nat.not_le.2 large)

end Exchanges

/-! ## Sessions in step -/

/-- A session is in step with the connection of the peer at its other end: the `requests` that the
peer has not read and the `replies` that the session has not read are on their way, each in a frame.
The peer may have ended its direction behind the replies, and the network holds none of them
back. -/
structure Session.InStep (suite : Suite) (limit : Nat) (ended : Bool) (peer : Connection)
    (requests replies : List Bytes) (session : Session) : Prop where
  /-- The requests are on their way to the peer. -/
  asks : ∃ free, Line.Sends suite limit requests false free
    ⟨session.connection, peer, .ofDialing session.stream⟩
  /-- The replies are on their way to the session. -/
  tells : Line.Sends suite limit replies ended true
    ⟨peer, session.connection, .ofListening session.stream⟩

namespace Session.InStep

variable {suite : Suite} {limit : Nat} {ended : Bool} {peer : Connection}
  {requests replies : List Bytes} {text : Bytes} {session : Session}

/-- A request fits a frame. -/
theorem fits (inStep : session.InStep suite limit ended peer requests replies) :
    Message.request.toJson.encode.length ≤ limit := by
  obtain ⟨free, writer, -, carries⟩ := inStep.asks
  have size : Message.request.toJson.encode.length = 39 := Message.length_encode []
  rw [size, ← carries.limit_eq.1, Line.limit]
  split_ifs <;> omega

/-- A session that is in step is asked for peers: the first reply is the answer, and the session is
in step afterwards, with one more request and one reply less. -/
theorem exchanged (opens : suite.Opens)
    (inStep : session.InStep suite limit ended peer requests (text :: replies))
    {answer : List PeerAddress} (decoded : Message.decoder.decode text = .ok (.bootstrap answer)) :
    ∃ kept, Exchanged suite session answer kept ∧
      kept.InStep suite limit ended peer (requests ++ [Message.request.toJson.encode]) replies := by
  obtain ⟨free, asks⟩ := inStep.asks
  rcases asks.writeText Message.request.toJson.encode with
    ⟨-, writer, stream, written, asks'⟩ | ⟨large, -⟩
  · -- Writing the request leaves the replies on their way, and reading leaves the requests.
    have tells := inStep.tells.behind_writeText written
    obtain ⟨outcome, reader, stream', framed, ⟨rfl, tells'⟩ | ⟨-, held, -⟩⟩ :=
      tells.readFrame_cons opens
    · refine ⟨⟨reader, stream'⟩, exchanged_of_requestPeers ?_, ⟨free, ?_⟩, tells'⟩
      · rw [requestPeers_eq]
        change session.connection.writeText suite _ session.stream = _ at written
        change writer.readFrame suite stream = _ at framed
        simp only [written, awaitPeers, readObject_of_text framed, decoded]
        rfl
      · exact @Line.Sends.behind_readFrame suite limit ⟨peer, writer, .ofListening stream⟩ _ _ _
          asks' _ _ _ framed
    · simp at held
  · exact absurd inStep.fits (Nat.not_le.2 large)

/-- A session at the end of a line that is connected is in step, if the network holds nothing
back. -/
theorem of_connected (opens : suite.Opens) {line : Line} (connected : line.Connected suite) :
    Session.InStep suite line.limit false line.reader [] []
      ⟨line.writer, ⟨{ line.link.back with gate := none }, line.link.forth⟩⟩ := by
  have asks := Line.Sends.of_start (connected.carries opens)
  have carries := connected.turned.carries opens
  rw [(connected.carries opens).limit_eq.2] at carries
  have tells := Line.Sends.of_start carries
  exact ⟨⟨_, asks.alike (fun _ => .refl _) (.refl _) _⟩, tells.hold none⟩

/-- The peer puts another reply on its way. -/
theorem told (inStep : session.InStep suite limit false peer requests replies)
    (small : text.length ≤ limit) :
    ∃ peer' stream, Session.InStep suite limit false peer' requests (replies ++ [text])
      ⟨session.connection, stream⟩ := by
  rcases inStep.tells.writeText text with ⟨-, peer', stream, written, tells⟩ | ⟨large, -⟩
  · obtain ⟨free, asks⟩ := inStep.asks
    refine ⟨peer', ⟨stream.outbound, stream.inbound⟩, ⟨free, ?_⟩, tells⟩
    exact @Line.Sends.behind_writeText suite limit ⟨peer, session.connection, _⟩ _ _ _ _ asks _ _ _
      written
  · exact absurd small (Nat.not_le.2 large)

end Session.InStep

/-! ## The connections to others -/

/-- Only addresses of the list that is dialed come to anything. -/
theorem Dialing.Faithful.mem_of_mem_outcomes {κ : Type} {dialing : Dialing κ}
    (faithful : dialing.Faithful) {limits : DialLimits} {first : Nat}
    {addresses : List PeerAddress} {outcome : PeerAddress × Except TransportError κ}
    (mem : outcome ∈ (dialing.course limits first addresses).outcomes) :
    outcome.1 ∈ addresses := by
  obtain ⟨dial, ended, rfl⟩ := List.mem_map.1 mem
  have listed : dial ∈ (dialing.course limits first addresses).dials :=
    List.mem_append_left _ (List.mem_reverse.1 ended)
  rw [Dialing.course, (FanOut.dials_run _ _ _).mem_iff] at listed
  rw [← faithful.targets first addresses]
  exact List.mem_map_of_mem listed

namespace Peerstore

/-- The connection of an address is not touched by what other addresses come to. -/
theorem get?_registerAll_of_others {κ : Type} {store : Peerstore κ} {address : PeerAddress}
    {outcomes : List (PeerAddress × Except TransportError κ)}
    (others : ∀ outcome ∈ outcomes, outcome.1 ≠ address) :
    (store.registerAll outcomes).1.get? address = store.get? address := by
  induction outcomes using List.reverseRecOn with
  | nil => rfl
  | append_singleton outcomes last ih =>
    have before := ih fun outcome mem => others outcome (List.mem_append_left _ mem)
    have other := others last (List.mem_append_right _ List.mem_cons_self)
    obtain ⟨address', cause | connection⟩ := last
    · rw [registerAll_concat]
      exact before
    · rw [registerAll_concat]
      dsimp only
      rw [get?_register, if_neg (Ne.symm other), before]

variable {suite : Suite} {store : Peerstore Session} {dialing : Dialing Session}
  {bootstrap : PeerAddress} {limits : DialLimits}

/-- The connection of an address that is not dialed is not touched. -/
theorem get?_dialAll_of_not_mem (faithful : dialing.Faithful) {first : Nat}
    {addresses : List PeerAddress} {address : PeerAddress} (absent : address ∉ addresses) :
    (store.dialAll dialing first addresses limits).1.get? address = store.get? address :=
  get?_registerAll_of_others fun outcome mem same => by
    rw [← same] at absent
    exact absent (faithful.mem_of_mem_outcomes mem)

/-! ## Who is asked -/

/-- The session over which a node asks its bootstrap peer, and who is dialed for that. -/
inductive Obtains (store : Peerstore Session) (dialing : Dialing Session)
    (bootstrap : PeerAddress) : List PeerAddress → Session → Prop where
  /-- It is taken out of the store. -/
  | cached {session : Session} (registered : store.get? bootstrap = some session) :
      Obtains store dialing bootstrap [] session
  /-- There is none in the store, and the peer is dialed. -/
  | dialed {session : Session} (absent : store.contains bootstrap = false)
      (ends : (dialing 0 bootstrap).duration.isSome = true)
      (dialed : (dialing 0 bootstrap).outcome = .ok session) :
      Obtains store dialing bootstrap [bootstrap] session

/-- The bootstrap peer answers over the session. -/
theorem Obtains.asked {before : List PeerAddress} {session kept : Session}
    (obtains : store.Obtains dialing bootstrap before session) {answer : List PeerAddress}
    (exchanged : Exchanged suite session answer kept) :
    Asked suite store dialing bootstrap answer before kept := by
  cases obtains with
  | cached registered =>
    have taken : store.take bootstrap = .ok (session, store.erase bootstrap.text) := by
      rw [take, registered]
    exact .again taken exchanged.left
  | dialed absent ends dialed => exact .anew absent ends dialed exchanged.left

/-- Only a peer without an entry is dialed to be asked. -/
theorem Obtains.before_eq {before : List PeerAddress} {session : Session}
    (obtains : store.Obtains dialing bootstrap before session) :
    before = if store.contains bootstrap then [] else [bootstrap] := by
  cases obtains with
  | cached registered => rw [contains, registered, Option.isSome, if_pos rfl]
  | dialed absent ends dialed => rw [absent, if_neg Bool.false_ne_true]

/-- A node asks over some session, while the store is without the entry of the bootstrap peer, or
the bootstrap peer has no entry and is dialed in vain. -/
theorem bootstrap_eq (suite : Suite) (store : Peerstore Session) (dialing : Dialing Session)
    (bootstrap : PeerAddress) (limits : DialLimits) :
    (∃ before session, store.Obtains dialing bootstrap before session ∧
        store.bootstrap suite dialing bootstrap limits = (store.erase bootstrap.text).bootstrapOver
          suite dialing bootstrap limits before session) ∨
      ∃ result, (∀ n, result ≠ .done n) ∧ store.contains bootstrap = false ∧
        store.bootstrap suite dialing bootstrap limits =
          ⟨result, store.erase bootstrap.text, [bootstrap], 1⟩ := by
  cases registered : store.get? bootstrap with
  | some session =>
    refine .inl ⟨[], session, .cached registered, ?_⟩
    rw [Peerstore.bootstrap, take, registered]
  | none =>
    -- There is nothing to erase.
    have absent := store.get?_eq_none_iff.1 registered
    rw [store.erase_of_absent absent, Peerstore.bootstrap, take, registered]
    dsimp only
    cases ends : (dialing 0 bootstrap).duration with
    | none => exact .inr ⟨.waiting, by simp, absent, rfl⟩
    | some duration =>
      cases dialed : (dialing 0 bootstrap).outcome with
      | error cause => exact .inr ⟨.failed (.connect bootstrap cause), by simp, absent, rfl⟩
      | ok session =>
        refine .inl ⟨[bootstrap], session, .dialed absent ?_ dialed, rfl⟩
        rw [ends, Option.isSome]

/-- There is an exchange over a session, or nothing comes of it. -/
theorem bootstrapOver_cases (suite : Suite) (store : Peerstore Session)
    (dialing : Dialing Session) (bootstrap : PeerAddress) (limits : DialLimits)
    (before : List PeerAddress) (session : Session) :
    (∃ answer kept, Exchanged suite session answer kept) ∨
      ∃ result, (∀ n, result ≠ .done n) ∧
        store.bootstrapOver suite dialing bootstrap limits before session =
          ⟨result, store, before, before.length⟩ := by
  rcases left : requestPeers suite session.connection session.stream with
    ⟨answer | cause | _, connection, stream⟩
  · exact .inl ⟨answer, ⟨connection, stream⟩, exchanged_of_requestPeers left⟩
  · refine .inr ⟨.failed (.request bootstrap cause), by simp, ?_⟩
    rw [bootstrapOver, left]
  · refine .inr ⟨.waiting, by simp, ?_⟩
    rw [bootstrapOver, left]

/-- Nothing has become of a bootstrap but that the entry of the bootstrap peer is gone. -/
structure Spared (store : Peerstore Session) (bootstrap : PeerAddress) (ended : Bootstrapping) :
    Prop where
  /-- The store is without this entry. -/
  erased : ended.store = store.erase bootstrap.text
  /-- Nobody was dialed but the bootstrap peer, once, and only if it had no entry. -/
  dialed : ended.dialed = if store.contains bootstrap then [] else [bootstrap]

/-- There is an exchange with the bootstrap peer, or the store loses its entry and nothing else
happens. -/
theorem bootstrap_cases (suite : Suite) (store : Peerstore Session) (dialing : Dialing Session)
    (bootstrap : PeerAddress) (limits : DialLimits) :
    (∃ before session answer kept, store.Obtains dialing bootstrap before session ∧
        Exchanged suite session answer kept) ∨
      (∀ n, (store.bootstrap suite dialing bootstrap limits).result ≠ .done n) ∧
        store.Spared bootstrap (store.bootstrap suite dialing bootstrap limits) := by
  rcases bootstrap_eq suite store dialing bootstrap limits with
    ⟨before, session, obtains, asks⟩ | ⟨result, not_done, absent, in_vain⟩
  · rcases bootstrapOver_cases suite (store.erase bootstrap.text) dialing bootstrap limits before
      session with ⟨answer, kept, exchanged⟩ | ⟨result, not_done, nothing⟩
    · exact .inl ⟨before, session, answer, kept, obtains, exchanged⟩
    · rw [asks, nothing]
      exact .inr ⟨not_done, rfl, obtains.before_eq⟩
  · rw [in_vain]
    refine .inr ⟨not_done, rfl, ?_⟩
    rw [absent, if_neg Bool.false_ne_true]

/-! ## What a bootstrap leaves -/

section Exchange

variable (limits) {before : List PeerAddress} {session kept : Session} {answer : List PeerAddress}
  (obtains : store.Obtains dialing bootstrap before session)
  (exchanged : Exchanged suite session answer kept)

include obtains exchanged

/-- A bootstrap with an answer succeeds. -/
theorem exists_done_of_exchanged :
    ∃ n, (store.bootstrap suite dialing bootstrap limits).result = .done n := by
  rw [bootstrap_of_asked (obtains.asked exchanged)]
  exact ⟨_, rfl⟩

/-- The session is registered as the exchange has left it, and the connections to others are
there. -/
theorem get?_bootstrap (faithful : dialing.Faithful) :
    (store.bootstrap suite dialing bootstrap limits).store.get? bootstrap = some kept ∧
      ∀ address ≠ bootstrap, ∀ other, store.get? address = some other →
        (store.bootstrap suite dialing bootstrap limits).store.get? address = some other := by
  rw [bootstrap_of_asked (obtains.asked exchanged)]
  dsimp only
  constructor
  · -- The bootstrap peer is not among the addresses that are dialed.
    have absent : bootstrap ∉ store.unknown bootstrap answer := fun mem =>
      (mem_unknown_iff.1 mem).2.1 rfl
    rw [get?_dialAll_of_not_mem faithful absent, get?_register, if_pos rfl]
  · intro address different other registered
    -- Neither is anyone who has a connection.
    have absent : address ∉ store.unknown bootstrap answer := by
      intro mem
      have none_there := store.get?_eq_none_iff.2 (mem_unknown_iff.1 mem).2.2
      exact absurd (registered.symm.trans none_there) (Option.some_ne_none _)
    rw [get?_dialAll_of_not_mem faithful absent, get?_register, if_neg different, registered]

end Exchange

/-! ## One bootstrap after the other -/

/-- A bootstrap, and the reply that is to come. -/
structure Round where
  /-- How the dials go. -/
  dialing : Dialing Session
  /-- Whoever is to be dialed is dialed. -/
  faithful : dialing.Faithful
  /-- How many dials may run at once, and for how long. -/
  limits : DialLimits
  /-- The text of the reply. -/
  text : Bytes
  /-- The addresses in it. -/
  answer : List PeerAddress
  /-- The text is read as these addresses. -/
  decoded : Message.decoder.decode text = .ok (.bootstrap answer)

/-- Bootstraps from a peer, one after the other: each of them asks over the connection in the store,
gets its reply and succeeds. -/
inductive Rounds (suite : Suite) (bootstrap : PeerAddress) :
    Peerstore Session → List Round → Peerstore Session → Prop where
  /-- No bootstrap. -/
  | nil {store : Peerstore Session} : Rounds suite bootstrap store [] store
  /-- A bootstrap and some more. -/
  | cons {store last : Peerstore Session} {round : Round} {rounds : List Round}
      {session kept : Session} (registered : store.get? bootstrap = some session)
      (exchanged : Exchanged suite session round.answer kept)
      (done : ∃ n, (store.bootstrap suite round.dialing bootstrap round.limits).result = .done n)
      (later : Rounds suite bootstrap
        (store.bootstrap suite round.dialing bootstrap round.limits).store rounds last) :
      Rounds suite bootstrap store (round :: rounds) last

/-- Over a session in step there is one bootstrap after the other, as long as there are replies. -/
theorem exists_rounds (opens : suite.Opens) {limit : Nat} {ended : Bool} {peer : Connection}
    {requests replies : List Bytes} {session : Session} {rounds : List Round}
    (registered : store.get? bootstrap = some session)
    (inStep : session.InStep suite limit ended peer requests
      (rounds.map Round.text ++ replies)) :
    ∃ last kept, Rounds suite bootstrap store rounds last ∧ last.get? bootstrap = some kept ∧
      kept.InStep suite limit ended peer
        (requests ++ List.replicate rounds.length Message.request.toJson.encode) replies := by
  -- The session that a round leaves in the store is the one over which the next round asks.
  induction rounds generalizing store session requests with
  | nil =>
    refine ⟨store, session, .nil, registered, ?_⟩
    rw [List.length_nil, List.replicate_zero, List.append_nil]
    exact inStep
  | cons round rounds ih =>
    obtain ⟨kept, exchanged, inStep'⟩ := inStep.exchanged opens round.decoded
    have obtains : store.Obtains round.dialing bootstrap [] session := .cached registered
    have again := (get?_bootstrap round.limits obtains exchanged round.faithful).1
    obtain ⟨last, kept', rounds', registered', inStep''⟩ := ih again inStep'
    refine ⟨last, kept', .cons registered exchanged ?_ rounds', registered', ?_⟩
    · exact exists_done_of_exchanged round.limits obtains exchanged
    · rw [List.length_cons, List.replicate_succ, ← List.singleton_append, ← List.append_assoc]
      exact inStep''

/-- What a bootstrap does to a store, whatever its bootstrap peer does. -/
structure TouchesOneEntry (suite : Suite) (store : Peerstore Session) (dialing : Dialing Session)
    (bootstrap : PeerAddress) (ended : Bootstrapping) : Prop where
  /-- No connection to another address is removed or replaced. -/
  others : ∀ address ≠ bootstrap, ∀ session, store.get? address = some session →
    ended.store.get? address = some session
  /-- If the bootstrap does not succeed, the entry of the bootstrap peer is gone and nothing else
  has happened. -/
  spared : (∀ n, ended.result ≠ .done n) → store.Spared bootstrap ended
  /-- If it does, the bootstrap peer has the session over which it was asked, right behind the
  reply. -/
  kept : ∀ n, ended.result = .done n → ∃ before session answer kept,
    store.Obtains dialing bootstrap before session ∧ Exchanged suite session answer kept ∧
      ended.store.get? bootstrap = some kept
  /-- It does if the request can be written and a reply is there. -/
  succeeds : ∀ before session text rest answer,
    store.Obtains dialing bootstrap before session → session.stream.outbound.refuses = false →
    (session.connection.incoming session.stream).cut suite = some (text, rest) →
    Message.decoder.decode text = .ok (.bootstrap answer) → ∃ n, ended.result = .done n
  /-- If the session is in step with the peer, the bootstrap succeeds, and so do further ones that
  exchange their requests and replies over it. -/
  again : suite.Opens → ∀ before session limit finished peer requests replies text answer rounds,
    store.Obtains dialing bootstrap before session →
    Message.decoder.decode text = .ok (.bootstrap answer) →
    session.InStep suite limit finished peer requests
      (text :: (rounds.map Round.text ++ replies)) →
    (∃ n, ended.result = .done n) ∧ ∃ last kept, Rounds suite bootstrap ended.store rounds last ∧
      last.get? bootstrap = some kept ∧
      kept.InStep suite limit finished peer
        (requests ++ List.replicate (rounds.length + 1) Message.request.toJson.encode) replies

/-- A bootstrap touches no other entry of a store than the one of the bootstrap peer. -/
theorem bootstrap_touches_one_entry (suite : Suite) (store : Peerstore Session)
    (faithful : dialing.Faithful) (bootstrap : PeerAddress) (limits : DialLimits) :
    TouchesOneEntry suite store dialing bootstrap
      (store.bootstrap suite dialing bootstrap limits) where
  others address different other registered := by
    rcases bootstrap_cases suite store dialing bootstrap limits with
      ⟨before, session, answer, kept, obtains, exchanged⟩ | ⟨-, spared⟩
    · have stays := (get?_bootstrap limits obtains exchanged faithful).2
      exact stays address different other registered
    · rw [spared.erased, get?_erase, if_neg different, registered]
  spared not_done := by
    rcases bootstrap_cases suite store dialing bootstrap limits with
      ⟨before, session, answer, kept, obtains, exchanged⟩ | ⟨-, spared⟩
    · obtain ⟨n, done⟩ := exists_done_of_exchanged limits obtains exchanged
      exact absurd done (not_done n)
    · exact spared
  kept n done := by
    rcases bootstrap_cases suite store dialing bootstrap limits with
      ⟨before, session, answer, kept, obtains, exchanged⟩ | ⟨not_done, -⟩
    · exact ⟨before, session, answer, kept, obtains, exchanged,
        (get?_bootstrap limits obtains exchanged faithful).1⟩
    · exact absurd done (not_done n)
  succeeds before session text rest answer obtains accepts first decoded := by
    obtain ⟨kept, exchanged⟩ := exists_exchanged accepts first decoded
    exact exists_done_of_exchanged limits obtains exchanged
  again opens before session limit finished peer requests replies text answer rounds obtains
      decoded inStep := by
    obtain ⟨kept, exchanged, inStep'⟩ := inStep.exchanged opens decoded
    have registered := (get?_bootstrap limits obtains exchanged faithful).1
    -- The first round leaves the session in step, and the others follow from it.
    obtain ⟨last, kept', rounds', registered', inStep''⟩ := exists_rounds opens registered inStep'
    refine ⟨exists_done_of_exchanged limits obtains exchanged, last, kept', rounds', registered',
      ?_⟩
    rw [List.replicate_succ, ← List.singleton_append, ← List.append_assoc]
    exact inStep''

/-- A bootstrap whose reply lists some addresses. -/
def Round.learning (answer : List PeerAddress) : Round where
  dialing := dialingNeighbours []
  faithful := faithful_dialingNeighbours []
  limits := ⟨8, 60000⟩
  text := (Message.bootstrap answer).toJson.encode
  answer := answer
  decoded := Message.decode_encode _

/-- A node bootstraps twice over a secure connection in its store. -/
theorem bootstrap_touches_one_entry_of_cached :
    (dialingNeighbours []).Faithful ∧ ∃ (store : Peerstore Session) (session : Session)
      (limit : Nat) (peer : Connection),
      store.Obtains (dialingNeighbours []) (neighbour 1) [] session ∧
      session.InStep .standard limit false peer []
        [(Message.bootstrap [neighbour 2]).toJson.encode, (Round.learning [neighbour 3]).text] ∧
      TouchesOneEntry .standard store (dialingNeighbours []) (neighbour 1)
        (store.bootstrap .standard (dialingNeighbours []) (neighbour 1) ⟨8, 60000⟩) ∧
      ∃ last kept, Rounds .standard (neighbour 1)
          (store.bootstrap .standard (dialingNeighbours []) (neighbour 1) ⟨8, 60000⟩).store
          [Round.learning [neighbour 3]] last ∧
        last.get? (neighbour 1) = some kept ∧
        kept.InStep .standard limit false peer
          (List.replicate 2 Message.request.toJson.encode) [] := by
  have opens := Suite.opens_standard
  obtain ⟨line, connected, secure⟩ := Line.exists_connected_secure
  have limit : line.limit = 65517 := by rw [Line.limit, secure, if_pos rfl]
  -- The peer has sent two replies in advance.
  have inStep := Session.InStep.of_connected opens connected
  rw [limit] at inStep
  have small : (Message.bootstrap [neighbour 2]).toJson.encode.length ≤ 65517 := by decide +kernel
  obtain ⟨peer, stream, inStep⟩ := inStep.told small
  have small : (Message.bootstrap [neighbour 3]).toJson.encode.length ≤ 65517 := by decide +kernel
  obtain ⟨peer', stream', inStep'⟩ := inStep.told small
  have registered : (acquainted.register (neighbour 1) ⟨line.writer, stream'⟩).get?
      (neighbour 1) = some ⟨line.writer, stream'⟩ := by
    rw [get?_register, if_pos rfl]
  have faithful := faithful_dialingNeighbours []
  have touches := bootstrap_touches_one_entry .standard
    (acquainted.register (neighbour 1) ⟨line.writer, stream'⟩) faithful (neighbour 1) ⟨8, 60000⟩
  have rounds := touches.again opens [] _ _ _ _ _ [] _ _ [Round.learning [neighbour 3]]
    (.cached registered) (Message.decode_encode (.bootstrap [neighbour 2])) inStep'
  exact ⟨faithful, _, _, _, _, .cached registered, inStep', touches, rounds.2⟩

end Peerstore

end PeerLink
