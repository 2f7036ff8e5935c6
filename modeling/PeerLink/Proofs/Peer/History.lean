import Mathlib.Data.Set.Function
import Mathlib.Data.Set.List
import PeerLink.Proofs.Peer.Store

/-!
# The history of a store

The tasks of a node share one store, and a call of it is done while no other task has hold of the
store. A `History` tells who has called what, in the order in which the store was held, and what
the answers were: the calls of one task stand between those of the others in any way, and which call
a task makes next may depend on the answers that it has got.

What a store holds can be read off its history: it is the map from the addresses to the connections
that were registered last and have not been taken since (`IsMap`, `History.isMap`). Nothing is
lost because the store goes by the texts of the addresses.
-/

namespace PeerLink.Peerstore

/-! ## Calls -/

/-- A call of a store. -/
inductive Call (κ : Type) where
  /-- Registers a connection. -/
  | register (address : PeerAddress) (connection : κ)
  /-- Takes the connection to a peer out of the store. -/
  | take (address : PeerAddress)
  /-- Asks whether there is a connection to a peer. -/
  | contains (address : PeerAddress)
  /-- Asks for the addresses of the peers. -/
  | addresses
  /-- Asks for the number of connections. -/
  | size

/-- What a call is answered. -/
inductive Answer (κ : Type) where
  /-- The connection is registered. -/
  | registered
  /-- The connection that was taken, or why there is none. -/
  | taken (result : Except PeerstoreError κ)
  /-- Whether there is a connection. -/
  | contained (whether : Bool)
  /-- The addresses of the peers. -/
  | listed (addresses : List PeerAddress)
  /-- The number of connections. -/
  | counted (size : Nat)

/-- A call of one of the tasks `ι`, and its answer. -/
structure Event (ι κ : Type) where
  /-- The task. -/
  task : ι
  /-- What it has called. -/
  call : Call κ
  /-- What it was answered. -/
  answer : Answer κ

variable {ι κ : Type}

/-- What a store answers, and what it is afterwards. -/
def answer (store : Peerstore κ) : Call κ → Answer κ × Peerstore κ
  | .register address connection => (.registered, store.register address connection)
  | .take address =>
    match store.take address with
    | .ok (connection, rest) => (.taken (.ok connection), rest)
    | .error error => (.taken (.error error), store)
  | .contains address => (.contained (store.contains address), store)
  | .addresses => (.listed store.addresses, store)
  | .size => (.counted store.size, store)

/-- The calls of a store that was empty, the first one first, and what has become of the store. -/
inductive History : List (Event ι κ) → Peerstore κ → Prop
  /-- Nobody has called. -/
  | start : History [] .empty
  /-- One of the tasks makes a call. -/
  | call {log : List (Event ι κ)} {store : Peerstore κ} (history : History log store) (task : ι)
      (call : Call κ) :
      History (log ++ [⟨task, call, (store.answer call).1⟩]) (store.answer call).2

/-- A call that registers or takes the connection of an address. -/
def Call.Moves (address : PeerAddress) : Call κ → Prop
  | register other _ => other = address
  | take other => other = address
  | _ => False

/-- A call moves the connection of an address by registering one or by taking it. -/
theorem Call.moves_iff {call : Call κ} {address : PeerAddress} :
    call.Moves address ↔ (∃ connection, call = .register address connection) ∨
      call = .take address := by
  cases call <;> simp [Moves]

/-! ## What one call does -/

section Steps

variable {store : Peerstore κ} {address : PeerAddress} {connection : κ}

/-- A connection that is there can be taken. -/
theorem take_of_get? (here : store.get? address = some connection) :
    store.take address = .ok (connection, store.erase address.text) := by
  rw [take, here]

/-- A connection that is not there cannot be taken. -/
theorem take_of_absent (absent : store.get? address = none) :
    store.take address = .error (.notFound address.text) := by
  rw [take, absent]

/-- The connection of an address after a call. -/
theorem get?_answer {call : Call κ} :
    (store.answer call).2.get? address = some connection ↔
      call = .register address connection ∨
        ¬ call.Moves address ∧ store.get? address = some connection := by
  cases call with
  | register other registered =>
    rw [answer, get?_register]
    by_cases same : address = other
    · simp [same, Call.Moves]
    · simp [same, Ne.symm same, Call.Moves]
  | take other =>
    have kept : (store.answer (.take other)).2.get? address =
        if address = other then none else store.get? address := by
      cases here : store.get? other with
      | none =>
        simp only [answer, take_of_absent here]
        split_ifs with same
        · rw [same, here]
        · rfl
      | some taken => simp only [answer, take_of_get? here, get?_erase]
    rw [kept]
    by_cases same : address = other
    · simp [same, Call.Moves]
    · simp [same, Ne.symm same, Call.Moves]
  | contains other => simp [answer, Call.Moves]
  | addresses => simp [answer, Call.Moves]
  | size => simp [answer, Call.Moves]

/-- An address is registered if it has a connection. -/
theorem contains_iff_exists :
    store.contains address = true ↔ ∃ connection, store.get? address = some connection := by
  rw [contains, Option.isSome_iff_exists]

/-- Whether an address is registered after a call. -/
theorem contains_answer {call : Call κ} :
    (store.answer call).2.contains address = true ↔
      (∃ connection, call = .register address connection) ∨
        call ≠ .take address ∧ store.contains address = true := by
  rw [contains_iff_exists, contains_iff_exists]
  simp only [get?_answer, exists_or, exists_and_left, Call.moves_iff, not_or]
  tauto

/-- A connection is handed out by taking it. -/
theorem answer_eq_taken_iff {call : Call κ} :
    (store.answer call).1 = .taken (.ok connection) ↔
      ∃ address, call = .take address ∧ store.get? address = some connection := by
  cases call with
  | take address =>
    cases here : store.get? address with
    | none => simp [answer, take_of_absent here, here]
    | some taken => simp [answer, take_of_get? here, here]
  | register => simp [answer]
  | contains => simp [answer]
  | addresses => simp [answer]
  | size => simp [answer]

/-- A store that goes by texts of addresses only. -/
def Addressed (store : Peerstore κ) : Prop :=
  ∀ entry ∈ store.entries, ∃ address : PeerAddress, address.text = entry.1

/-- What is left of a store goes by texts of addresses. -/
theorem Addressed.erase (addressed : store.Addressed) (text : String) :
    (store.erase text).Addressed :=
  fun entry mem => addressed entry (List.mem_of_mem_filter mem)

/-- After a call, a store goes by texts of addresses as before. -/
theorem Addressed.answer (addressed : store.Addressed) (call : Call κ) :
    (store.answer call).2.Addressed := by
  cases call with
  | register address connection =>
    intro entry mem
    rcases List.mem_append.1 mem with mem | mem
    · exact addressed.erase address.text entry mem
    · exact ⟨address, by rw [List.mem_singleton.1 mem]⟩
  | take address =>
    cases here : store.get? address with
    | none => simpa only [Peerstore.answer, take_of_absent here] using addressed
    | some taken => simpa only [Peerstore.answer, take_of_get? here] using addressed.erase _
  | contains => exact addressed
  | addresses => exact addressed
  | size => exact addressed

/-- Each entry of a store that goes by texts of addresses is in the list of its addresses. -/
theorem Addressed.length_addresses (addressed : store.Addressed) :
    store.addresses.length = store.size := by
  have texts : ∀ text ∈ store.entries.map (·.1), ∃ address : PeerAddress, address.text = text := by
    intro text mem
    obtain ⟨entry, here, rfl⟩ := List.mem_map.1 mem
    exact addressed entry here
  obtain ⟨addresses, same⟩ : ∃ addresses : List PeerAddress,
      addresses.map PeerAddress.text = store.entries.map (·.1) :=
    Set.mem_range.1 (Set.range_list_map PeerAddress.text ▸ texts)
  rw [store.addresses_of_texts same.symm, size, ← List.length_map PeerAddress.text, same,
    List.length_map]

end Steps

/-! ## What a history tells -/

/-- A time of the log from which on all events are of a kind. -/
def Since (first later : Event ι κ → Prop) (log : List (Event ι κ)) : Prop :=
  ∃ before event after, log = before ++ event :: after ∧ first event ∧ ∀ event ∈ after, later event

/-- The address was registered after it was taken for the last time. -/
def Registered (log : List (Event ι κ)) (address : PeerAddress) : Prop :=
  Since (fun event => ∃ connection, event.call = .register address connection)
    (fun event => event.call ≠ .take address) log

/-- The connection was registered for the address last, and not taken since. -/
def Latest (log : List (Event ι κ)) (address : PeerAddress) (connection : κ) : Prop :=
  Since (fun event => event.call = .register address connection)
    (fun event => ¬ event.call.Moves address) log

/-- A connection was registered at a place of the log. -/
def RegisteredAt (log : List (Event ι κ)) (place : Nat) (address : PeerAddress)
    (connection : κ) : Prop :=
  ∃ event, log[place]? = some event ∧ event.call = .register address connection

/-- A connection was handed out at a place of the log. -/
def HandedOutAt (log : List (Event ι κ)) (place : Nat) (address : PeerAddress)
    (connection : κ) : Prop :=
  ∃ event, log[place]? = some event ∧ event.call = .take address ∧
    event.answer = .taken (.ok connection)

section Logs

variable {log : List (Event ι κ)} {first later : Event ι κ → Prop} {store : Peerstore κ}
  {address : PeerAddress} {connection : κ}

/-- Nothing has come first in a log without events. -/
theorem not_since_nil : ¬ Since first later ([] : List (Event ι κ)) := by
  rintro ⟨before, event, after, split, -⟩
  cases before <;> cases split

/-- The last event of a log is the first one of its kind, or one of the later ones. -/
theorem since_concat {event : Event ι κ} :
    Since first later (log ++ [event]) ↔ first event ∨ later event ∧ Since first later log := by
  constructor
  · rintro ⟨before, event', after, split, starts, goes⟩
    rcases List.eq_nil_or_concat after with rfl | ⟨after, last, rfl⟩
    · obtain ⟨rfl, same⟩ := List.append_inj' split rfl
      exact .inl ((List.cons.inj same).1 ▸ starts)
    · rw [List.concat_eq_append, ← List.cons_append, ← List.append_assoc] at split
      obtain ⟨rfl, same⟩ := List.append_inj' split rfl
      obtain ⟨rfl, -⟩ := List.cons.inj same
      exact .inr ⟨goes _ (by simp), before, event', after, rfl, starts,
        fun event mem => goes event (by simp [mem])⟩
  · rintro (starts | ⟨goes, before, event', after, rfl, starts, earlier⟩)
    · exact ⟨log, event, [], rfl, starts, by simp⟩
    · refine ⟨before, event', after ++ [event], by simp, starts, fun event' mem => ?_⟩
      rcases List.mem_append.1 mem with mem | mem
      · exact earlier event' mem
      · exact List.mem_singleton.1 mem ▸ goes

/-- A connection that is the latest one was registered at some place, and not moved since. -/
theorem Latest.exists_place (latest : Latest log address connection) :
    ∃ place, RegisteredAt log place address connection ∧ place < log.length ∧
      ∀ place' event, place < place' → log[place']? = some event →
        ¬ event.call.Moves address := by
  obtain ⟨before, event, after, rfl, registers, unmoved⟩ := latest
  refine ⟨before.length, ⟨event, by simp, registers⟩, by simp, fun place' event' behind here => ?_⟩
  refine unmoved event' (List.mem_of_getElem? (i := place' - before.length - 1) ?_)
  rw [← here, List.getElem?_append_right behind.le,
    List.getElem?_cons, if_neg (Nat.sub_ne_zero_of_lt behind)]

/-- The store has the connection that was registered last. -/
theorem History.get?_eq_some_iff (history : History log store) :
    store.get? address = some connection ↔ Latest log address connection := by
  induction history with
  | start => simp [Latest, not_since_nil, empty, get?]
  | call history task call ih => rw [get?_answer, Latest, since_concat, ih, Latest]

/-- The store has the addresses that were registered. -/
theorem History.contains_iff (history : History log store) :
    store.contains address = true ↔ Registered log address := by
  induction history with
  | start => simp [Registered, not_since_nil, empty, contains, get?]
  | call history task call ih => rw [contains_answer, Registered, since_concat, ih, Registered]

/-- A store goes by texts of addresses. -/
theorem History.addressed (history : History log store) : store.Addressed := by
  induction history with
  | start => exact fun entry mem => absurd mem (List.not_mem_nil)
  | call history task call ih => exact ih.answer call

/-- Each call was answered by the store that the calls before it have left. -/
theorem History.before (history : History log store) {before after : List (Event ι κ)}
    {event : Event ι κ} (split : log = before ++ event :: after) :
    ∃ earlier, History before earlier ∧ event.answer = (earlier.answer event.call).1 := by
  induction history generalizing after with
  | start => cases before <;> cases split
  | call history task call ih =>
    rcases List.eq_nil_or_concat after with rfl | ⟨after, last, rfl⟩
    · obtain ⟨rfl, same⟩ := List.append_inj' split rfl
      obtain ⟨rfl, -⟩ := List.cons.inj same
      exact ⟨_, history, rfl⟩
    · rw [List.concat_eq_append, ← List.cons_append, ← List.append_assoc] at split
      exact ih (List.append_inj' split rfl).1

/-- A connection that is handed out is the one that was registered last at that time. -/
theorem History.latest_of_handedOut (history : History log store) {place : Nat}
    (handedOut : HandedOutAt log place address connection) :
    Latest (log.take place) address connection := by
  obtain ⟨event, here, takes, answered⟩ := handedOut
  obtain ⟨lt, rfl⟩ := List.getElem?_eq_some_iff.1 here
  have split : log = log.take place ++ log[place] :: log.drop (place + 1) := by
    rw [← List.drop_eq_getElem_cons lt, List.take_append_drop]
  obtain ⟨earlier, history, answer⟩ := history.before split
  obtain ⟨address', takes', found⟩ := answer_eq_taken_iff.1 (answer.symm.trans answered)
  obtain rfl := Call.take.inj (takes.symm.trans takes')
  exact history.get?_eq_some_iff.1 found

/-- What a store is, given its history: a map from addresses to connections. -/
structure IsMap (log : List (Event ι κ)) (store : Peerstore κ) : Prop where
  /-- An address is in the store if it was registered after it was taken for the last time. -/
  contains_iff : ∀ address, store.contains address = true ↔ Registered log address
  /-- Such an address has a connection that was registered last. -/
  latest : ∀ address, Registered log address → ∃ connection, Latest log address connection
  /-- Taking it gives this connection, and only the entry of this address is gone. -/
  take_eq : ∀ address connection, Latest log address connection →
    ∃ rest, store.answer (.take address) = (.taken (.ok connection), rest) ∧
      ∀ other, rest.get? other = if other = address then none else store.get? other
  /-- Without a connection, taking it says so and leaves the store as it is. -/
  take_error : ∀ address, ¬ Registered log address →
    store.answer (.take address) = (.taken (.error (.notFound address.text)), store)
  /-- No address is listed twice. -/
  nodup : store.addresses.Nodup
  /-- The addresses that were registered are listed, and no others. -/
  mem_iff : ∀ address, address ∈ store.addresses ↔ Registered log address
  /-- The number of connections is the one of the addresses. -/
  size_eq : store.size = store.addresses.length
  /-- Each call was answered by the store that the calls before it have left. -/
  answered : ∀ before event after, log = before ++ event :: after →
    ∃ earlier, History before earlier ∧ event.answer = (earlier.answer event.call).1
  /-- What was handed out is what was registered last. -/
  handedOut : ∀ place address connection, HandedOutAt log place address connection →
    Latest (log.take place) address connection
  /-- No registration is handed out twice. -/
  once : ∃ origin : Nat → Nat,
    (∀ place address connection, HandedOutAt log place address connection →
      origin place < place ∧ RegisteredAt log (origin place) address connection) ∧
    Set.InjOn origin {place | ∃ address connection, HandedOutAt log place address connection}

/-- Each connection that was handed out was registered before, and for one time only. -/
theorem History.exists_origin (history : History log store) : ∃ origin : Nat → Nat,
    (∀ place address connection, HandedOutAt log place address connection →
      origin place < place ∧ RegisteredAt log (origin place) address connection) ∧
    Set.InjOn origin {place | ∃ address connection, HandedOutAt log place address connection} := by
  have registered (place : Nat) : ∃ origin, ∀ address connection,
      HandedOutAt log place address connection →
        origin < place ∧ RegisteredAt log origin address connection ∧
          ∀ place' event, origin < place' → place' < place → log[place']? = some event →
            ¬ event.call.Moves address := by
    by_cases handedOut : ∃ address connection, HandedOutAt log place address connection
    · obtain ⟨address, connection, event, here, takes, answered⟩ := handedOut
      obtain ⟨origin, ⟨first, there, registers⟩, before, unmoved⟩ :=
        (history.latest_of_handedOut ⟨event, here, takes, answered⟩).exists_place
      have lt : origin < place := lt_of_lt_of_le before (List.length_take_le ..)
      rw [List.getElem?_take_of_lt lt] at there
      refine ⟨origin, fun address' connection' again => ?_⟩
      obtain ⟨event', here', takes', answered'⟩ := again
      obtain rfl := Option.some.inj (here.symm.trans here')
      obtain rfl := Call.take.inj (takes.symm.trans takes')
      obtain rfl := Except.ok.inj (Answer.taken.inj (answered.symm.trans answered'))
      refine ⟨lt, ⟨first, there, registers⟩, fun place' event' behind ahead here' => ?_⟩
      exact unmoved place' event' behind (by rwa [List.getElem?_take_of_lt ahead])
    · exact ⟨0, fun address connection given => absurd ⟨address, connection, given⟩ handedOut⟩
  choose origin spec using registered
  refine ⟨origin, fun place address connection given =>
    ⟨(spec place address connection given).1, (spec place address connection given).2.1⟩, ?_⟩
  -- The earlier one of two places would lie between the registration and the later one.
  have apart (place place' : Nat) {address address' : PeerAddress} {connection connection' : κ}
      (given : HandedOutAt log place address connection)
      (given' : HandedOutAt log place' address' connection')
      (same : origin place = origin place') : ¬ place < place' := by
    intro lt
    obtain ⟨behind, ⟨first, there, registers⟩, -⟩ := spec place address connection given
    obtain ⟨-, ⟨first', there', registers'⟩, unmoved⟩ := spec place' address' connection' given'
    rw [same] at there behind
    obtain rfl := Option.some.inj (there.symm.trans there')
    obtain ⟨rfl, -⟩ := Call.register.inj (registers.symm.trans registers')
    obtain ⟨event, here, takes, -⟩ := given
    exact unmoved place event behind lt here (Call.moves_iff.2 (.inr takes))
  rintro place ⟨address, connection, given⟩ place' ⟨address', connection', given'⟩ same
  exact Nat.le_antisymm (Nat.not_lt.1 (apart place' place given' given same.symm))
    (Nat.not_lt.1 (apart place place' given given' same))

/-- What a store holds is what its history tells. -/
theorem History.isMap (history : History log store) : IsMap log store where
  contains_iff _ := history.contains_iff
  latest address registered := by
    obtain ⟨connection, here⟩ := contains_iff_exists.1 (history.contains_iff.2 registered)
    exact ⟨connection, history.get?_eq_some_iff.1 here⟩
  take_eq address connection latest := by
    refine ⟨store.erase address.text, ?_, fun other => store.get?_erase⟩
    rw [answer, take_of_get? (history.get?_eq_some_iff.2 latest)]
  take_error address unregistered := by
    have absent : store.get? address = none :=
      store.get?_eq_none_iff.2 (Bool.eq_false_iff.2 (mt history.contains_iff.1 unregistered))
    rw [answer, take_of_absent absent]
  nodup := store.nodup_addresses
  mem_iff _ := store.mem_addresses_iff.trans history.contains_iff
  size_eq := history.addressed.length_addresses.symm
  answered _ _ _ := history.before
  handedOut _ _ _ := history.latest_of_handedOut
  once := history.exists_origin

/-- A task registers a connection, another one replaces it, and then both want to have it. -/
def contended (address : PeerAddress) : List (Event Bool Nat) :=
  [⟨true, .register address 1, .registered⟩, ⟨false, .register address 2, .registered⟩,
    ⟨true, .take address, .taken (.ok 2)⟩,
    ⟨false, .take address, .taken (.error (.notFound address.text))⟩]

/-- The connection that was registered last is given to one of the two tasks. -/
theorem history_contended (address : PeerAddress) :
    ∃ store, History (contended address) store := by
  have registered := (History.start.call true (.register address 1)).call false
    (.register address 2)
  have here : ((empty.register address 1).register address 2).get? address = some 2 := by
    rw [get?_register, if_pos rfl]
  have taken := registered.call true (.take address)
  simp only [answer, take_of_get? here] at taken
  have gone := taken.call false (.take address)
  have absent : (((empty.register address 1).register address 2).erase address.text).get? address =
      none := by
    rw [get?_erase, if_pos rfl]
  simp only [answer, take_of_absent absent] at gone
  exact ⟨_, gone⟩

/-- Two tasks that contend for the connection to one peer. -/
theorem History.isMap_of_contended :
    ∃ store, History (contended (.tcp (.v4 ⟨127, 0, 0, 1⟩) 1)) store ∧
      IsMap (contended (.tcp (.v4 ⟨127, 0, 0, 1⟩) 1)) store :=
  let ⟨store, history⟩ := history_contended (.tcp (.v4 ⟨127, 0, 0, 1⟩) 1)
  ⟨store, history, History.isMap history⟩

end Logs

end PeerLink.Peerstore
