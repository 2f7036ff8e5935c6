import Mathlib.Algebra.Order.BigOperators.Group.List
import Mathlib.Algebra.Order.Ring.Nat
import Mathlib.Data.List.Induction
import PeerLink.Crypto.Standard
import PeerLink.Peer.Bootstrap
import PeerLink.Proofs.Negotiation.Unhindered
import PeerLink.Proofs.Peer.FanOut
import PeerLink.Proofs.Peer.Message
import PeerLink.Proofs.Peer.Store

/-!
# How often a peer is dialed and counted

A node that bootstraps leaves out of the answer of its bootstrap peer the addresses that it knows,
and dials the others, each of them as often as the answer lists it: nothing takes out the
repetitions, and a connection that replaces one of the same call is counted once more. So the number
that a bootstrap gives is the one of the new peers exactly if the answer lists no new address twice
(`CountsOnce`).
-/

namespace PeerLink

namespace Dialing

variable {κ : Type} (dialing : Dialing κ)

/-- The dials to the addresses of a list, the first of them the `first`-th dial of the node. -/
def dials (first : Nat) (addresses : List PeerAddress) :
    List (Dial PeerAddress (Except TransportError κ)) :=
  addresses.mapIdx fun i address => dialing (first + i) address

/-- How the dialing of a list goes. -/
def course (limits : DialLimits) (first : Nat) (addresses : List PeerAddress) :
    FanOut PeerAddress (Except TransportError κ) :=
  (FanOut.new (dialing.dials first addresses)).run (max limits.concurrency 1) limits.deadline

/-- The addresses of a list to which a dial leads to a connection, one for each such dial. -/
def connected (first : Nat) (addresses : List PeerAddress) : List PeerAddress :=
  ((dialing.dials first addresses).filter fun dial => dial.outcome.isOk).map Dial.target

/-- Whoever is to be dialed is dialed. -/
def Faithful : Prop :=
  ∀ n address, (dialing n address).target = address

variable {dialing}

/-- The targets of the dials are the addresses of the list. -/
theorem Faithful.targets (faithful : dialing.Faithful) (first : Nat)
    (addresses : List PeerAddress) :
    (dialing.dials first addresses).map Dial.target = addresses := by
  refine List.ext_getElem ?_ fun i _ _ => ?_
  · rw [dials, List.length_map, List.length_mapIdx]
  · rw [List.getElem_map]
    simp only [dials, List.getElem_mapIdx, faithful _ _]

/-- Only addresses of the list are connected to, and none more often than it is there. -/
theorem Faithful.connected_sublist (faithful : dialing.Faithful) (first : Nat)
    (addresses : List PeerAddress) : (dialing.connected first addresses).Sublist addresses := by
  have sublist := (List.filter_sublist (p := fun dial => dial.outcome.isOk)
    (l := dialing.dials first addresses)).map Dial.target
  rwa [faithful.targets] at sublist

end Dialing

namespace Peerstore

section Registering

variable {κ : Type} (store : Peerstore κ)

/-- Who a connection was opened to. -/
def reached (outcomes : List (PeerAddress × Except TransportError κ)) : List PeerAddress :=
  (outcomes.filter fun outcome => outcome.2.isOk).map (·.1)

/-- A dial that comes to a connection reaches one more. -/
theorem reached_concat_ok (outcomes : List (PeerAddress × Except TransportError κ))
    (address : PeerAddress) (connection : κ) :
    reached (outcomes ++ [(address, .ok connection)]) = reached outcomes ++ [address] := by
  simp [reached, Except.isOk, Except.toBool]

/-- A dial that fails reaches nobody. -/
theorem reached_concat_error (outcomes : List (PeerAddress × Except TransportError κ))
    (address : PeerAddress) (cause : TransportError) :
    reached (outcomes ++ [(address, .error cause)]) = reached outcomes := by
  simp [reached, Except.isOk, Except.toBool]

/-- Every connection is registered and counted, behind the ones before it. -/
theorem registerAll_concat (outcomes : List (PeerAddress × Except TransportError κ))
    (address : PeerAddress) (outcome : Except TransportError κ) :
    store.registerAll (outcomes ++ [(address, outcome)]) =
      match outcome with
      | .ok connection => ((store.registerAll outcomes).1.register address connection,
          (store.registerAll outcomes).2 + 1)
      | .error _ => store.registerAll outcomes := by
  rw [registerAll, List.foldl_append]
  cases outcome <;> rfl

/-- Every connection counts. -/
theorem count_registerAll (outcomes : List (PeerAddress × Except TransportError κ)) :
    (store.registerAll outcomes).2 = (reached outcomes).length := by
  induction outcomes using List.reverseRecOn with
  | nil => rfl
  | append_singleton outcomes last ih =>
    obtain ⟨address, cause | connection⟩ := last
    · rw [registerAll_concat, reached_concat_error]
      exact ih
    · rw [registerAll_concat, reached_concat_ok, List.length_append]
      exact congrArg (· + 1) ih

/-- Whoever a connection was opened to is registered, besides the ones that were before. -/
theorem contains_registerAll (outcomes : List (PeerAddress × Except TransportError κ))
    (address : PeerAddress) :
    (store.registerAll outcomes).1.contains address = true ↔
      store.contains address = true ∨ address ∈ reached outcomes := by
  induction outcomes using List.reverseRecOn with
  | nil => simp [registerAll, reached]
  | append_singleton outcomes last ih =>
    obtain ⟨other, cause | connection⟩ := last
    · rw [registerAll_concat, reached_concat_error]
      exact ih
    · simp only [registerAll_concat, contains_register, ih, reached_concat_ok, List.mem_append,
        List.mem_singleton]
      tauto

end Registering

variable {suite : Suite} {store : Peerstore Session} {dialing : Dialing Session}
  {bootstrap : PeerAddress} {limits : DialLimits} {first : Nat} {addresses : List PeerAddress}

/-- When every dial of a list has ended, each was made in its turn, and every connection it came to
counts and is registered. -/
theorem dialAll_of_over (store : Peerstore Session)
    (settled : (dialing.course limits first addresses).Over) :
    ∃ after, store.dialAll dialing first addresses limits =
        (after, (dialing.connected first addresses).length,
          dialing.course limits first addresses) ∧
      (dialing.course limits first addresses).started.reverse =
        (dialing.dials first addresses).map Dial.target ∧
      ∀ address, after.contains address = true ↔
        store.contains address = true ∨ address ∈ dialing.connected first addresses := by
  -- The dials that have ended are the ones of the list, in another order.
  have perm : (reached (dialing.course limits first addresses).outcomes).Perm
      (dialing.connected first addresses) := by
    rw [reached, FanOut.outcomes, List.filter_map, List.map_map]
    exact (((List.reverse_perm _).trans settled.ended).filter _).map _
  refine ⟨(store.registerAll (dialing.course limits first addresses).outcomes).1, ?_,
    settled.started, fun address => ?_⟩
  · rw [← perm.length_eq, ← count_registerAll]
    rfl
  · rw [contains_registerAll, perm.mem_iff]

/-- The bootstrap peer answers with a list of addresses, over a connection that is then the one of
the store; the first list are the dials that it took to ask. -/
inductive Asked (suite : Suite) (store : Peerstore Session) (dialing : Dialing Session)
    (bootstrap : PeerAddress) (answer : List PeerAddress) : List PeerAddress → Session → Prop where
  /-- Over the connection that is in the store. -/
  | again {session : Session} {rest : Peerstore Session} {connection : Connection} {stream : Stream}
      (taken : store.take bootstrap = .ok (session, rest))
      (answered : requestPeers suite session.connection session.stream =
        (.done answer, connection, stream)) :
      Asked suite store dialing bootstrap answer [] ⟨connection, stream⟩
  /-- Over a new one. -/
  | anew {session : Session} {connection : Connection} {stream : Stream}
      (unknown : store.contains bootstrap = false)
      (ends : (dialing 0 bootstrap).duration.isSome = true)
      (dialed : (dialing 0 bootstrap).outcome = .ok session)
      (answered : requestPeers suite session.connection session.stream =
        (.done answer, connection, stream)) :
      Asked suite store dialing bootstrap answer [bootstrap] ⟨connection, stream⟩

/-- The bootstrap peer itself is not among the addresses to dial, whether it is registered or
not. -/
theorem unknown_register (session : Session) (answer : List PeerAddress) :
    (store.register bootstrap session).unknown bootstrap answer =
      store.unknown bootstrap answer := by
  refine List.filter_congr fun address _ => ?_
  by_cases same : address = bootstrap
  · simp [same]
  · have registered := @contains_register _ store bootstrap address session
    simp only [same, false_or] at registered
    rw [Bool.eq_iff_iff.2 registered]

/-- When its bootstrap peer has answered, a node registers it, and dials what is new in the
answer. -/
theorem bootstrap_of_asked {answer before : List PeerAddress} {session : Session}
    (asked : Asked suite store dialing bootstrap answer before session) :
    store.bootstrap suite dialing bootstrap limits =
      let dialed := (store.register bootstrap session).dialAll dialing before.length
        (store.unknown bootstrap answer) limits
      ⟨.done dialed.2.1, dialed.1, before ++ dialed.2.2.started.reverse,
        max before.length dialed.2.2.mostAtOnce⟩ := by
  cases asked with
  | again taken answered =>
    have erased : ∀ session', (store.erase bootstrap.text).register bootstrap session' =
        store.register bootstrap session' := store.register_erase bootstrap
    unfold Peerstore.bootstrap
    rw [taken]
    rw [take] at taken
    split at taken
    · simp at taken
    · simp only [Except.ok.injEq, Prod.mk.injEq] at taken
      obtain ⟨rfl, rfl⟩ := taken
      simp only [bootstrapOver, answered, erased, unknown_register]
  | anew absent ends dialed answered =>
    obtain ⟨duration, ends⟩ := Option.isSome_iff_exists.1 ends
    have none_there : store.take bootstrap = .error (.notFound bootstrap.text) := by
      rw [contains, Option.isSome_eq_false_iff, Option.isNone_iff_eq_none] at absent
      rw [take, absent]
    unfold Peerstore.bootstrap
    rw [none_there]
    simp only [ends, dialed, bootstrapOver, answered, unknown_register]

/-- Who is dialed to ask the bootstrap peer is the bootstrap peer. -/
theorem Asked.eq_bootstrap {answer before : List PeerAddress} {session : Session}
    (asked : Asked suite store dialing bootstrap answer before session) :
    ∀ address ∈ before, address = bootstrap := by
  cases asked with
  | again => simp
  | anew => simp

/-- What is new in an answer. -/
theorem mem_unknown_iff {answer : List PeerAddress} {address : PeerAddress} :
    address ∈ store.unknown bootstrap answer ↔
      address ∈ answer ∧ address ≠ bootstrap ∧ store.contains address = false := by
  simp [unknown]

/-- Nothing is twice in what is new in an answer exactly if no new address is listed twice. -/
theorem nodup_unknown_iff {answer : List PeerAddress} :
    (store.unknown bootstrap answer).Nodup ↔
      ∀ address, address ≠ bootstrap → store.contains address = false →
        answer.count address ≤ 1 := by
  rw [List.nodup_iff_count_le_one]
  refine forall_congr' fun address => ?_
  by_cases new : address ≠ bootstrap ∧ store.contains address = false
  · rw [unknown, List.count_filter (by simp [new.1, new.2])]
    simp [new.1, new.2]
  · have absent : address ∉ store.unknown bootstrap answer := fun mem =>
      new (mem_unknown_iff.1 mem).2
    rw [List.count_eq_zero_of_not_mem absent]
    simp only [Nat.zero_le, true_iff]
    exact fun other absent => absurd ⟨other, absent⟩ new

/-! ## What is dialed and counted -/

/-- What a bootstrap makes of the answer of its bootstrap peer, which it was asked for with the
dials of the list `before`. -/
structure CountsAsListed (store : Peerstore Session) (dialing : Dialing Session)
    (bootstrap : PeerAddress) (answer before : List PeerAddress) (ended : Bootstrapping) :
    Prop where
  /-- What is new in the answer is dialed in its order, and as often as it is listed. -/
  dialed : ended.dialed = before ++ store.unknown bootstrap answer
  /-- Each dial that leads to a connection counts. -/
  result : ended.result =
    .done (dialing.connected before.length (store.unknown bootstrap answer)).length
  /-- Who is connected to is registered, and nobody else but the bootstrap peer. -/
  registered : ∀ address, ended.store.contains address = true ↔
    address = bootstrap ∨ store.contains address = true ∨
      address ∈ dialing.connected before.length (store.unknown bootstrap answer)

/-- Each new peer is dialed once and counted once. -/
structure CountsOnce (store : Peerstore Session) (bootstrap : PeerAddress)
    (answer : List PeerAddress) (ended : Bootstrapping) : Prop where
  /-- Each new address of the answer is dialed exactly once. -/
  once : ∀ address ∈ answer, address ≠ bootstrap → store.contains address = false →
    ended.dialed.count address = 1
  /-- Nobody else is dialed, the bootstrap peer aside. -/
  others : ∀ address ∈ ended.dialed, address = bootstrap ∨
    address ∈ answer ∧ store.contains address = false
  /-- The number is the one of the addresses that the store holds and did not hold before, the one
  of the bootstrap peer aside. -/
  counted : ended.result = .done (store.unknown bootstrap ended.store.addresses).length

section Asked

variable {answer before : List PeerAddress} {session : Session} (faithful : dialing.Faithful)
  (asked : Asked suite store dialing bootstrap answer before session)
  (settled : (dialing.course limits before.length (store.unknown bootstrap answer)).Over)

include faithful asked settled

/-- When all dials have ended in time, they were made and counted as the answer lists their
addresses. -/
theorem countsAsListed : CountsAsListed store dialing bootstrap answer before
    (store.bootstrap suite dialing bootstrap limits) := by
  obtain ⟨after, dialed, started, registered⟩ :=
    dialAll_of_over (store.register bootstrap session) settled
  rw [bootstrap_of_asked asked, dialed]
  refine ⟨?_, rfl, fun address => ?_⟩
  · dsimp only
    rw [started, faithful.targets]
  · rw [registered, contains_register, or_assoc]

/-- A peer is dialed and counted once exactly if the answer lists it once. -/
theorem countsOnce_iff : CountsOnce store bootstrap answer
      (store.bootstrap suite dialing bootstrap limits) ↔
    ∀ address, address ≠ bootstrap → store.contains address = false →
      answer.count address ≤ 1 := by
  obtain ⟨dialed, result, registered⟩ := countsAsListed faithful asked settled
  generalize store.bootstrap suite dialing bootstrap limits = ended at dialed result registered
  -- The bootstrap peer is no new one, so that only the dials of the answer count.
  have count (address : PeerAddress) (other : address ≠ bootstrap) :
      ended.dialed.count address = (store.unknown bootstrap answer).count address := by
    have absent : address ∉ before := fun mem => other (asked.eq_bootstrap address mem)
    rw [dialed, List.count_append, List.count_eq_zero_of_not_mem absent, Nat.zero_add]
  rw [← nodup_unknown_iff]
  constructor
  · intro once
    rw [List.nodup_iff_count_eq_one]
    intro address mem
    obtain ⟨listed, other, new⟩ := mem_unknown_iff.1 mem
    rw [← count address other]
    exact once.once address listed other new
  · intro nodup
    refine ⟨fun address listed other new => ?_, fun address mem => ?_, ?_⟩
    · rw [count address other]
      exact List.count_eq_one_of_mem nodup (mem_unknown_iff.2 ⟨listed, other, new⟩)
    · rw [dialed, List.mem_append] at mem
      rcases mem with mem | mem
      · exact .inl (asked.eq_bootstrap address mem)
      · exact .inr ⟨(mem_unknown_iff.1 mem).1, (mem_unknown_iff.1 mem).2.2⟩
    · -- Both lists have the same members, and each of them once.
      have sublist := faithful.connected_sublist before.length (store.unknown bootstrap answer)
      have once : (store.unknown bootstrap ended.store.addresses).Nodup :=
        ended.store.nodup_addresses.filter _
      have gained : (store.unknown bootstrap ended.store.addresses).Perm
          (dialing.connected before.length (store.unknown bootstrap answer)) := by
        refine (List.perm_ext_iff_of_nodup once (nodup.sublist sublist)).2 fun address => ?_
        have new := fun mem => (mem_unknown_iff.1 (sublist.subset mem : address ∈ _)).2
        rw [mem_unknown_iff, mem_addresses_iff, registered]
        constructor
        · rintro ⟨rfl | known | mem, other, absent⟩
          · exact absurd rfl other
          · rw [known] at absent
            simp at absent
          · exact mem
        · exact fun mem => ⟨.inr (.inr mem), new mem⟩
      rw [result, gained.length_eq]

/-- When all dials of a bootstrap have ended in time, the peers were dialed and counted as often as
the answer lists them, and so once exactly if it lists no new address twice. -/
theorem peers_are_counted_once_iff : CountsAsListed store dialing bootstrap answer before
      (store.bootstrap suite dialing bootstrap limits) ∧
    (CountsOnce store bootstrap answer (store.bootstrap suite dialing bootstrap limits) ↔
      ∀ address, address ≠ bootstrap → store.contains address = false →
        answer.count address ≤ 1) :=
  ⟨countsAsListed faithful asked settled, countsOnce_iff faithful asked settled⟩

end Asked

/-! ## An answer with two addresses -/

/-- A connection over which a peer has answered. -/
def answering (answer : List PeerAddress) : Session where
  connection := .bare none
  stream := .delivering (LengthPrefixed.encode (Message.bootstrap answer).toJson.encode)

/-- A peer that has answered is asked. -/
theorem requestPeers_answering (suite : Suite) {answer : List PeerAddress}
    (acceptable : (Message.bootstrap answer).toJson.encode.length ≤ LengthPrefixed.maxSize) :
    ∃ connection stream,
      requestPeers suite (answering answer).connection (answering answer).stream =
        (.done answer, connection, stream) := by
  have size : Message.request.toJson.encode.length = 39 := Message.length_encode []
  have small : ¬ LengthPrefixed.maxSize < Message.request.toJson.encode.length := by
    rw [size]
    decide
  -- The request is written, and the answer is what was there to read all the time.
  obtain ⟨stream, written, inbound, -⟩ := @Wire.flush_put
    (LengthPrefixed.encode Message.request.toJson.encode) .new rfl _
    (Stream.opened_delivering (LengthPrefixed.encode (Message.bootstrap answer).toJson.encode))
  have asked : (answering answer).connection.writeObject suite Message.request.toJson
      (answering answer).stream = (.ok (), .bare none, stream) := by
    simp only [Connection.writeObject, answering, Connection.bare, Connection.flushWire, written,
      if_neg small]
    rfl
  have octets : LengthPrefixed.head none ++ Wire.new.ahead stream =
      LengthPrefixed.encode (Message.bootstrap answer).toJson.encode ++ [] := by
    rw [Wire.ahead, inbound, Pipe.arrived_of_gate_eq_none rfl, List.append_nil]
    exact Buffer.toBytes_ofBytes _
  obtain ⟨wire, stream', read, -, -⟩ := LengthPrefixed.readFrame_whole ConnectionError.io
    (by rintro n ⟨⟩) acceptable octets
  refine ⟨{ Connection.bare none with wire := some wire }, stream', ?_⟩
  rw [requestPeers, asked]
  simp only [Connection.readObject, Connection.readFrame, Connection.bare, read,
    Message.decode_encode]
  rfl

/-- The address of a peer on this host. -/
def neighbour (port : UInt16) : PeerAddress :=
  .tcp (.v4 ⟨127, 0, 0, 1⟩) port

/-- A node whose peer at port 1 answers with some list, and whose other dials take five
milliseconds each. -/
def dialingNeighbours (answer : List PeerAddress) : Dialing Session :=
  fun _ address => ⟨address, some 5, .ok (answering answer)⟩

/-- Nobody but the address itself is dialed. -/
theorem faithful_dialingNeighbours (answer : List PeerAddress) :
    (dialingNeighbours answer).Faithful :=
  fun _ _ => rfl

/-- An answer with few addresses fits a frame. -/
theorem acceptable_of_length_le {answer : List PeerAddress} (few : answer.length ≤ 100)
    (short : ∀ address ∈ answer, address.toJson.encode.length ≤ 100) :
    (Message.bootstrap answer).toJson.encode.length ≤ LengthPrefixed.maxSize := by
  have texts : (answer.map fun address => address.toJson.encode.length).sum ≤
      answer.length * 100 := by
    have each := List.sum_le_card_nsmul (answer.map fun address => address.toJson.encode.length)
      100 (by simpa using short)
    rw [List.length_map] at each
    exact each
  have large : LengthPrefixed.maxSize = 8388608 := rfl
  rw [Message.length_encode]
  omega

/-- The two dials of a list with two addresses end in time. -/
theorem over_dialingNeighbours (answer : List PeerAddress) (address address' : PeerAddress) :
    ((dialingNeighbours answer).course ⟨8, 60000⟩ 1 [address, address']).Over :=
  FanOut.over_run (by decide) (by simp [Dialing.dials, dialingNeighbours, Dial.time])
    (by simp [Dialing.dials, dialingNeighbours, Dial.time])

/-- The bootstrap peer of a node that does not know it answers when it is dialed. -/
theorem exists_asked {store : Peerstore Session} {answer : List PeerAddress}
    (absent : store.contains (neighbour 1) = false)
    (acceptable : (Message.bootstrap answer).toJson.encode.length ≤ LengthPrefixed.maxSize) :
    ∃ session, Asked .standard store (dialingNeighbours answer) (neighbour 1) answer [neighbour 1]
      session := by
  obtain ⟨connection, stream, answered⟩ := requestPeers_answering .standard acceptable
  exact ⟨⟨connection, stream⟩, .anew absent rfl rfl answered⟩

/-- A node that knows one peer. -/
def acquainted : Peerstore Session :=
  .register .empty (neighbour 3) (answering [])

/-- A node with one peer learns of its bootstrap peer, of its own peer and of two new ones. -/
theorem peers_are_counted_once_iff_of_acquainted :
    ∃ session, (dialingNeighbours ([1, 2, 3, 4].map neighbour)).Faithful ∧
      Asked .standard acquainted (dialingNeighbours ([1, 2, 3, 4].map neighbour)) (neighbour 1)
        ([1, 2, 3, 4].map neighbour) [neighbour 1] session ∧
      ((dialingNeighbours ([1, 2, 3, 4].map neighbour)).course ⟨8, 60000⟩ 1
        (acquainted.unknown (neighbour 1) ([1, 2, 3, 4].map neighbour))).Over ∧
      CountsAsListed acquainted (dialingNeighbours ([1, 2, 3, 4].map neighbour)) (neighbour 1)
        ([1, 2, 3, 4].map neighbour) [neighbour 1] (acquainted.bootstrap .standard
          (dialingNeighbours ([1, 2, 3, 4].map neighbour)) (neighbour 1) ⟨8, 60000⟩) ∧
      CountsOnce acquainted (neighbour 1) ([1, 2, 3, 4].map neighbour) (acquainted.bootstrap
        .standard (dialingNeighbours ([1, 2, 3, 4].map neighbour)) (neighbour 1) ⟨8, 60000⟩) := by
  have new : acquainted.unknown (neighbour 1) ([1, 2, 3, 4].map neighbour) =
      [neighbour 2, neighbour 4] := by decide
  have settled := over_dialingNeighbours ([1, 2, 3, 4].map neighbour) (neighbour 2) (neighbour 4)
  rw [← new] at settled
  have faithful := faithful_dialingNeighbours ([1, 2, 3, 4].map neighbour)
  obtain ⟨session, asked⟩ := @exists_asked acquainted
    ([1, 2, 3, 4].map neighbour) (by decide)
    (acceptable_of_length_le (by decide) (by decide))
  obtain ⟨listed, once⟩ := peers_are_counted_once_iff faithful asked settled
  refine ⟨session, faithful, asked, settled, listed, once.2 fun address _ _ => ?_⟩
  exact List.nodup_iff_count_le_one.1 (by decide) address

/-- A bootstrap peer that lists a new address twice has it dialed and counted twice. -/
theorem peers_are_not_always_counted_once :
    ¬ ∀ (suite : Suite) (store : Peerstore Session) (dialing : Dialing Session)
      (bootstrap : PeerAddress) (limits : DialLimits) (answer before : List PeerAddress)
      (session : Session), dialing.Faithful →
        Asked suite store dialing bootstrap answer before session →
        (dialing.course limits before.length (store.unknown bootstrap answer)).Over →
        CountsOnce store bootstrap answer (store.bootstrap suite dialing bootstrap limits) := by
  intro always
  have new : (Peerstore.empty : Peerstore Session).unknown (neighbour 1) ([2, 2].map neighbour) =
      [neighbour 2, neighbour 2] := by decide
  have settled := over_dialingNeighbours ([2, 2].map neighbour) (neighbour 2) (neighbour 2)
  rw [← new] at settled
  have faithful := faithful_dialingNeighbours ([2, 2].map neighbour)
  obtain ⟨session, asked⟩ := @exists_asked .empty ([2, 2].map neighbour) rfl
    (acceptable_of_length_le (by decide) (by decide))
  have once := always .standard .empty _ (neighbour 1) ⟨8, 60000⟩ _ [neighbour 1] session faithful
    asked settled
  have listed := (countsOnce_iff faithful asked settled).1 once (neighbour 2) (by decide) rfl
  revert listed
  decide

end Peerstore

end PeerLink
