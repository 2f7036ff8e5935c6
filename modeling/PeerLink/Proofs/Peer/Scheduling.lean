import Mathlib.Logic.Relation
import PeerLink.Proofs.Peer.Bootstrap

/-!
# The dials of a list in any order

A node that dials the addresses of a list lets some of the dials run at the same time, and handles
the result of each when it has ended: it registers and counts a connection, and only reports a
failure. `Gathering.Step` leaves open when dials start and in which order they end, and the node may
stop behind any step, which is what a deadline makes it do.

`Gathering.Invariant` says that registering and counting never come apart: the store and the number
are the ones of the results that were handled. Since the addresses are new and different, it follows
that the store holds its previous entries and exactly the connections that were handled
(`Gathered`). The dialing with a clock, `Peerstore.dialAll`, takes such steps, and its deadline cuts
off the dials that do not end in time and no others (`Clocked`).
-/

namespace PeerLink

/-- How far a node has come with the dials of a list, each of them with what it comes to. -/
structure Gathering (κ : Type) where
  /-- The dials that have not started, in order. -/
  waiting : List (PeerAddress × Except TransportError κ)
  /-- The dials that have started and not ended. -/
  running : List (PeerAddress × Except TransportError κ)
  /-- The dials that have ended and are not handled, in the order in which they ended. -/
  completed : List (PeerAddress × Except TransportError κ)
  /-- The dials that are handled, in this order. -/
  handled : List (PeerAddress × Except TransportError κ)
  /-- The store. -/
  store : Peerstore κ
  /-- The number of connections that were registered. -/
  count : Nat

namespace Gathering

variable {κ : Type}

/-- A node that has not begun to dial. -/
def start (store : Peerstore κ) (dials : List (PeerAddress × Except TransportError κ)) :
    Gathering κ where
  waiting := dials
  running := []
  completed := []
  handled := []
  store := store
  count := 0

/-- A step of a node that has a place for `limit` dials. A dial keeps its place until its result is
handled. -/
inductive Step (limit : Nat) (gathering : Gathering κ) : Gathering κ → Prop
  /-- The first dial that waits starts. -/
  | start {dial : PeerAddress × Except TransportError κ}
      {waiting : List (PeerAddress × Except TransportError κ)}
      (first : gathering.waiting = dial :: waiting)
      (place : gathering.running.length + gathering.completed.length < limit) :
      Step limit gathering { gathering with waiting, running := gathering.running ++ [dial] }
  /-- Any of the running dials ends. -/
  | complete {dial : PeerAddress × Except TransportError κ}
      {running : List (PeerAddress × Except TransportError κ)}
      (runs : gathering.running.Perm (dial :: running)) :
      Step limit gathering { gathering with running, completed := gathering.completed ++ [dial] }
  /-- The result of the dial that ended first is handled: a connection is registered and counted. -/
  | handle {dial : PeerAddress × Except TransportError κ}
      {completed : List (PeerAddress × Except TransportError κ)}
      (first : gathering.completed = dial :: completed) :
      Step limit gathering
        { gathering with
          completed
          handled := gathering.handled ++ [dial]
          store := (gathering.store.registerAll [dial]).1
          count := gathering.count + (gathering.store.registerAll [dial]).2 }

/-- Some steps lead from one gathering to another one. -/
abbrev Steps (limit : Nat) : Gathering κ → Gathering κ → Prop :=
  Relation.ReflTransGen (Step limit)

/-- Every dial is handled. -/
structure Finished (gathering : Gathering κ) : Prop where
  /-- No dial waits. -/
  waiting : gathering.waiting = []
  /-- No dial runs. -/
  running : gathering.running = []
  /-- No result is left. -/
  completed : gathering.completed = []

/-- The number of steps that may still follow: each dial starts, ends and is handled. -/
def remaining (gathering : Gathering κ) : Nat :=
  3 * gathering.waiting.length + 2 * gathering.running.length + gathering.completed.length

variable {limit : Nat} {gathering next : Gathering κ} {store : Peerstore κ}
  {dials : List (PeerAddress × Except TransportError κ)}

/-- Every step leaves fewer steps. -/
theorem remaining_lt_of_step (step : Step limit gathering next) :
    next.remaining < gathering.remaining := by
  cases step with
  | start first place =>
    simp only [remaining, first, List.length_append, List.length_cons, List.length_nil]
    omega
  | complete runs =>
    have length := runs.length_eq
    simp only [List.length_cons] at length
    simp only [remaining, length, List.length_append, List.length_cons, List.length_nil]
    omega
  | handle first =>
    simp only [remaining, first, List.length_cons]
    omega

/-- As long as a dial is not handled, there is a next step. -/
theorem finished_or_step (place : 0 < limit) (gathering : Gathering κ) :
    gathering.Finished ∨ ∃ next, Step limit gathering next := by
  cases completed : gathering.completed with
  | cons dial rest => exact .inr ⟨_, .handle completed⟩
  | nil =>
    cases running : gathering.running with
    | cons dial rest => exact .inr ⟨_, .complete (.of_eq running)⟩
    | nil =>
      cases waiting : gathering.waiting with
      | cons dial rest => exact .inr ⟨_, .start waiting (by rw [running, completed]; exact place)⟩
      | nil => exact .inl ⟨waiting, running, completed⟩

/-! ## What every step keeps -/

/-- A store and a number after some results are the ones after one more result. -/
theorem registerAll_append_singleton (outcomes : List (PeerAddress × Except TransportError κ))
    (dial : PeerAddress × Except TransportError κ) :
    store.registerAll (outcomes ++ [dial]) =
      (((store.registerAll outcomes).1.registerAll [dial]).1, (store.registerAll outcomes).2 +
        ((store.registerAll outcomes).1.registerAll [dial]).2) := by
  obtain ⟨address, cause | connection⟩ := dial
  all_goals rw [Peerstore.registerAll_concat]; rfl

/-- What is so at every point of the dialing of a list. -/
structure Invariant (limit : Nat) (store : Peerstore κ)
    (dials : List (PeerAddress × Except TransportError κ)) (gathering : Gathering κ) : Prop where
  /-- Each dial of the list is in one place. -/
  each : (gathering.handled ++ (gathering.completed ++ (gathering.running ++
    gathering.waiting))).Perm dials
  /-- No more dials have a place than there are places. -/
  place : gathering.running.length + gathering.completed.length ≤ limit
  /-- The results that are handled are registered and counted, and no others. -/
  registered : store.registerAll gathering.handled = (gathering.store, gathering.count)

/-- A step keeps the invariant. -/
theorem Invariant.step (h : gathering.Invariant limit store dials)
    (step : Step limit gathering next) : next.Invariant limit store dials := by
  cases step with
  | @start dial waiting first place =>
    refine ⟨?_, ?_, h.registered⟩
    · -- The dial moves from the front of the ones that wait to the end of the running ones.
      have each := h.each
      rw [first] at each
      simpa only [List.append_assoc, List.singleton_append] using each
    · simp only [List.length_append, List.length_singleton]
      omega
  | @complete dial running runs =>
    refine ⟨?_, ?_, h.registered⟩
    · have moved : (gathering.completed ++ [dial] ++ (running ++ gathering.waiting)).Perm
          (gathering.completed ++ (gathering.running ++ gathering.waiting)) := by
        rw [List.append_assoc, List.singleton_append]
        exact ((runs.symm.append_right gathering.waiting)).append_left gathering.completed
      exact (moved.append_left gathering.handled).trans h.each
    · have place := h.place
      have length := runs.length_eq
      simp only [List.length_cons] at length
      simp only [List.length_append, List.length_singleton]
      omega
  | @handle dial completed first =>
    refine ⟨?_, ?_, ?_⟩
    · have each := h.each
      rw [first] at each
      simpa only [List.append_assoc, List.cons_append, List.nil_append] using each
    · have place := h.place
      rw [first, List.length_cons] at place
      exact Nat.le_of_lt place
    · rw [registerAll_append_singleton, h.registered]

/-- The invariant holds at every point. -/
theorem Invariant.of_steps (steps : Steps limit (start store dials) gathering) :
    gathering.Invariant limit store dials := by
  induction steps with
  | refl => exact ⟨.refl _, Nat.zero_le _, rfl⟩
  | tail _ step ih => exact ih.step step

/-! ## The store after results -/

/-- The entries of the connections that dials came to. -/
def connections (outcomes : List (PeerAddress × Except TransportError κ)) : List (String × κ) :=
  outcomes.filterMap fun outcome => outcome.2.toOption.map (outcome.1.text, ·)

/-- An entry is the one of a dial that came to its connection. -/
theorem mem_connections_iff {outcomes : List (PeerAddress × Except TransportError κ)}
    {address : PeerAddress} {connection : κ} :
    (address.text, connection) ∈ connections outcomes ↔ (address, .ok connection) ∈ outcomes := by
  rw [connections, List.mem_filterMap]
  constructor
  · rintro ⟨⟨other, cause | found⟩, mem, same⟩
    · cases same
    · simp only [Except.toOption, Option.map_some, Option.some.injEq, Prod.mk.injEq] at same
      obtain ⟨text, rfl⟩ := same
      rwa [← PeerAddress.text_injective text]
  · exact fun mem => ⟨_, mem, rfl⟩

/-- Each connection counts once. -/
theorem count_registerAll_eq (store : Peerstore κ)
    (outcomes : List (PeerAddress × Except TransportError κ)) :
    (store.registerAll outcomes).2 = (connections outcomes).length := by
  rw [Peerstore.count_registerAll, Peerstore.reached, List.length_map,
    ← List.countP_eq_length_filter, connections, List.length_filterMap_eq_countP]
  refine List.countP_congr fun outcome _ => ?_
  obtain ⟨address, cause | connection⟩ := outcome <;> rfl

/-- The connections to new and different addresses are entries behind the previous ones. -/
theorem entries_registerAll {outcomes : List (PeerAddress × Except TransportError κ)}
    (distinct : (outcomes.map (·.1)).Nodup)
    (new : ∀ outcome ∈ outcomes, store.contains outcome.1 = false) :
    (store.registerAll outcomes).1.entries = store.entries ++ connections outcomes := by
  induction outcomes using List.reverseRecOn with
  | nil => exact (List.append_nil _).symm
  | append_singleton outcomes last ih =>
    obtain ⟨address, outcome⟩ := last
    rw [List.map_append, List.nodup_append] at distinct
    have before := ih distinct.1 fun outcome mem => new outcome (List.mem_append_left _ mem)
    have split : connections (outcomes ++ [(address, outcome)]) =
        connections outcomes ++ connections [(address, outcome)] := List.filterMap_append
    rw [Peerstore.registerAll_concat, split, ← List.append_assoc, ← before]
    cases outcome with
    | error cause => exact (List.append_nil _).symm
    | ok connection =>
      -- None of the connections before this one is to the same address, so that none is replaced.
      have absent : (store.registerAll outcomes).1.contains address = false := by
        refine Bool.eq_false_iff.2 fun known => ?_
        rcases (store.contains_registerAll outcomes address).1 known with known | reached
        · rw [new (address, .ok connection) (by simp)] at known
          cases known
        · obtain ⟨outcome, mem, same⟩ := List.mem_map.1 reached
          exact distinct.2.2 _ (List.mem_map_of_mem (List.mem_filter.1 mem).1) address (by simp)
            same
      exact Peerstore.entries_register_of_absent _ absent

/-! ## What the dialing of a list comes to -/

/-- What the dialing of a list has come to at some point, if the addresses are new and different. -/
structure Gathered (limit : Nat) (store : Peerstore κ)
    (dials : List (PeerAddress × Except TransportError κ)) (gathering : Gathering κ) : Prop where
  /-- Each dial of the list is handled, or has ended, or runs, or waits, and is so once. -/
  each : (gathering.handled ++ (gathering.completed ++ (gathering.running ++
    gathering.waiting))).Perm dials
  /-- No more dials run than may. -/
  place : gathering.running.length ≤ limit
  /-- The store holds its previous entries and the connections that were handled. -/
  entries : gathering.store.entries = store.entries ++ connections gathering.handled
  /-- The connection of an address is the one from before, or else the one of its own dial. -/
  connection : ∀ address connection, gathering.store.get? address = some connection ↔
    store.get? address = some connection ∨ (address, .ok connection) ∈ gathering.handled
  /-- The number is the one of the connections that were handled. -/
  count : gathering.count = (connections gathering.handled).length
  /-- In the end every dial was handled, and the store and the number are the same as after one dial
  after the other. -/
  finished : gathering.Finished → gathering.handled.Perm dials ∧
    gathering.count = (store.registerAll dials).2 ∧
    ∀ address, gathering.store.get? address = (store.registerAll dials).1.get? address
  /-- Until then there is a next step. -/
  proceeds : gathering.Finished ∨ ∃ next, Step limit gathering next
  /-- No step can be followed by others forever. -/
  shrinks : ∀ next, Step limit gathering next → next.remaining < gathering.remaining

section Distinct

variable (distinct : (dials.map (·.1)).Nodup)
  (new : ∀ dial ∈ dials, store.contains dial.1 = false)

include distinct new

/-- The connection of an address is the one from before, or else the one of its own dial. -/
theorem get?_registerAll_iff {address : PeerAddress} {connection : κ} :
    (store.registerAll dials).1.get? address = some connection ↔
      store.get? address = some connection ∨ (address, .ok connection) ∈ dials := by
  rw [Peerstore.get?_eq_some_iff, entries_registerAll distinct new, List.mem_append,
    mem_connections_iff, ← Peerstore.get?_eq_some_iff]

/-- The dialing of a list has come to the same at some point, whatever the order was. -/
theorem gathered_of_steps (place : 0 < limit)
    (steps : Steps limit (start store dials) gathering) :
    gathering.Gathered limit store dials := by
  have h := Invariant.of_steps steps
  have registered := h.registered
  -- What is handled is a part of the list.
  have distinct_handled : (gathering.handled.map (·.1)).Nodup := by
    have together := (h.each.map (·.1)).nodup_iff.2 distinct
    rw [List.map_append] at together
    exact together.of_append_left
  have new_handled : ∀ dial ∈ gathering.handled, store.contains dial.1 = false :=
    fun dial mem => new dial (h.each.subset (List.mem_append_left _ mem))
  have connection (address : PeerAddress) (connection : κ) :
      gathering.store.get? address = some connection ↔
        store.get? address = some connection ∨ (address, .ok connection) ∈ gathering.handled := by
    rw [← get?_registerAll_iff distinct_handled new_handled, registered]
  have count : gathering.count = (connections gathering.handled).length := by
    rw [← count_registerAll_eq store, registered]
  refine ⟨h.each, Nat.le_of_add_right_le h.place, ?_, connection, count, fun finished => ?_,
    finished_or_step place gathering, fun _ => remaining_lt_of_step⟩
  · rw [← entries_registerAll distinct_handled new_handled, registered]
  · have all : gathering.handled.Perm dials := by
      have each := h.each
      rwa [finished.completed, finished.running, finished.waiting, List.append_nil,
        List.append_nil, List.append_nil] at each
    refine ⟨all, ?_, fun address => Option.ext fun found => ?_⟩
    · rw [count, count_registerAll_eq]
      exact (all.filterMap _).length_eq
    · rw [connection, all.mem_iff, get?_registerAll_iff distinct new]

end Distinct

/-! ## The dialing with a clock -/

/-- What a dial comes to, with who is dialed. -/
def resultOf (dial : Dial PeerAddress (Except TransportError κ)) :
    PeerAddress × Except TransportError κ :=
  (dial.target, dial.outcome)

/-- A dialing with a clock has come as far as a gathering. -/
structure Matches (clocked : FanOut PeerAddress (Except TransportError κ))
    (gathering : Gathering κ) : Prop where
  /-- The same dials wait. -/
  waiting : gathering.waiting = clocked.waiting.map resultOf
  /-- The same dials run. -/
  running : gathering.running = clocked.running.map (resultOf ·.dial)
  /-- A dial is handled at the instant when it ends. -/
  completed : gathering.completed = []
  /-- The same dials have ended, in the same order. -/
  handled : gathering.handled = clocked.outcomes

/-- A step of a dialing with a clock is the start of a dial, or the end of one and then the handling
of its result. -/
theorem Matches.step {deadline : Nat}
    {clocked clocked' : FanOut PeerAddress (Except TransportError κ)}
    (h : Matches clocked gathering) (stepped : clocked.step limit deadline = some clocked') :
    ∃ next, Steps limit gathering next ∧ Matches clocked' next := by
  rcases FanOut.step_cases stepped with
    ⟨dial, waiting, first, place, rfl⟩ | ⟨time, dial, running, first, -, rfl⟩
  · have waits : gathering.waiting = resultOf dial :: waiting.map resultOf := by
      rw [h.waiting, first, List.map_cons]
    have room : gathering.running.length + gathering.completed.length < limit := by
      rw [h.running, h.completed, List.length_map, List.length_nil, Nat.add_zero]
      exact place
    refine ⟨_, .single (.start waits room), ⟨rfl, ?_, h.completed, h.handled⟩⟩
    simp only [h.running, FanOut.start, List.map_append, List.map_cons, List.map_nil]
  · have runs : gathering.running.Perm (resultOf dial :: running.map (resultOf ·.dial)) := by
      rw [h.running]
      exact (perm_of_takeFirstEnding first).map (resultOf ·.dial)
    have ends : gathering.completed ++ [resultOf dial] = [resultOf dial] := by
      rw [h.completed, List.nil_append]
    refine ⟨_, .tail (.single (.complete runs)) (.handle ends), ⟨h.waiting, rfl, rfl, ?_⟩⟩
    simp only [h.handled, FanOut.outcomes, FanOut.finish, List.reverse_cons, List.map_append,
      List.map_cons, List.map_nil, resultOf]

/-- A dialing with a clock goes through steps. -/
theorem Matches.run {deadline : Nat} {clocked : FanOut PeerAddress (Except TransportError κ)}
    (h : Matches clocked gathering) :
    ∃ next, Steps limit gathering next ∧ Matches (clocked.run limit deadline) next := by
  fun_induction FanOut.run limit deadline clocked generalizing gathering with
  | case1 clocked stopped => exact ⟨gathering, .refl, h⟩
  | case2 clocked clocked' stepped _ ih =>
    obtain ⟨next, steps, matched⟩ := h.step stepped
    obtain ⟨last, steps', matched'⟩ := ih matched
    exact ⟨last, steps.trans steps', matched'⟩

/-- A gathering is finished exactly if the dialing with a clock is over. -/
theorem Matches.finished_iff {clocked : FanOut PeerAddress (Except TransportError κ)}
    (h : Matches clocked gathering) : gathering.Finished ↔ clocked.Over := by
  constructor
  · rintro ⟨waiting, running, -⟩
    rw [h.waiting, List.map_eq_nil_iff] at waiting
    rw [h.running, List.map_eq_nil_iff] at running
    exact ⟨waiting, running⟩
  · rintro ⟨waiting, running⟩
    exact ⟨by rw [h.waiting, waiting, List.map_nil], by rw [h.running, running, List.map_nil],
      h.completed⟩

end Gathering

namespace Dialing

variable {κ : Type} (dialing : Dialing κ)

/-- What the dials to the addresses of a list come to, each with its address. -/
def results (first : Nat) (addresses : List PeerAddress) :
    List (PeerAddress × Except TransportError κ) :=
  (dialing.dials first addresses).map Gathering.resultOf

/-- The results are the ones of the addresses of the list. -/
theorem Faithful.map_results {dialing : Dialing κ} (faithful : dialing.Faithful) (first : Nat)
    (addresses : List PeerAddress) : (dialing.results first addresses).map (·.1) = addresses := by
  rw [results, List.map_map]
  exact faithful.targets first addresses

end Dialing

namespace Peerstore

open Gathering

variable {store : Peerstore Session} {dialing : Dialing Session} {addresses : List PeerAddress}

/-- A gathering that has come as far as the dialing of a list with a clock: what the list comes to
is the store and the number of the gathering, and the deadline cuts off what does not end in
time. -/
structure Clocked (store : Peerstore Session) (dialing : Dialing Session) (limits : DialLimits)
    (first : Nat) (addresses : List PeerAddress) (gathering : Gathering Session) : Prop where
  /-- The gathering is one of the list. -/
  steps : Steps (max limits.concurrency 1) (start store (dialing.results first addresses)) gathering
  /-- It has the store and the number. -/
  dialed : store.dialAll dialing first addresses limits =
    (gathering.store, gathering.count, dialing.course limits first addresses)
  /-- The dials that were handled are the ones that have ended. -/
  handled : gathering.handled = (dialing.course limits first addresses).outcomes
  /-- Every dial is handled exactly if all is over. -/
  finished_iff : gathering.Finished ↔ (dialing.course limits first addresses).Over
  /-- The dials that have ended are the ones that did so in time. -/
  timely : FanOut.Timely (max limits.concurrency 1) limits.deadline (dialing.dials first addresses)
    (dialing.course limits first addresses)

/-- Dialing a list with a clock goes through steps. -/
theorem exists_clocked (store : Peerstore Session) (dialing : Dialing Session)
    (limits : DialLimits) (first : Nat) (addresses : List PeerAddress) :
    ∃ gathering, Clocked store dialing limits first addresses gathering := by
  have begun : Matches (FanOut.new (dialing.dials first addresses))
      (start store (dialing.results first addresses)) := ⟨rfl, rfl, rfl, rfl⟩
  obtain ⟨gathering, steps, matched⟩ :=
    @Matches.run _ (max limits.concurrency 1) _ limits.deadline _ begun
  have registered := (Invariant.of_steps steps).registered
  rw [matched.handled] at registered
  refine ⟨gathering, steps, ?_, matched.handled, matched.finished_iff,
    FanOut.timely_run (Nat.le_max_right _ 1) _ _⟩
  have dialed : store.dialAll dialing first addresses limits =
      ((store.registerAll (dialing.course limits first addresses).outcomes).1,
        (store.registerAll (dialing.course limits first addresses).outcomes).2,
        dialing.course limits first addresses) := rfl
  rw [dialed, Dialing.course, registered]

/-- The dialing of new and different addresses comes to the same in any order in which the dials
end, and wherever it is stopped: the store holds its previous entries and the connections of the
dials that were handled, each under its own address, and the number is the one of these connections;
a dial that fails takes no part in it. If it is not stopped, this is what one dial after the other
comes to. The dialing with a clock and a deadline is such a dialing. It is not stopped exactly if
every dial ends and the last one does so in time, and otherwise it has handled the dials that ended
in time and no others. -/
theorem dialing_does_not_depend_on_order (faithful : dialing.Faithful) (limits : DialLimits)
    (first : Nat) (distinct : addresses.Nodup)
    (new : ∀ address ∈ addresses, store.contains address = false) :
    (∀ gathering,
      Steps (max limits.concurrency 1) (start store (dialing.results first addresses)) gathering →
        gathering.Gathered (max limits.concurrency 1) store (dialing.results first addresses)) ∧
      ∃ gathering, Clocked store dialing limits first addresses gathering := by
  have map_results := faithful.map_results first addresses
  have new_results : ∀ dial ∈ dialing.results first addresses, store.contains dial.1 = false := by
    intro dial mem
    refine new dial.1 ?_
    rw [← map_results]
    exact List.mem_map_of_mem mem
  refine ⟨fun gathering steps => ?_, exists_clocked store dialing limits first addresses⟩
  exact gathered_of_steps (map_results.symm ▸ distinct) new_results (Nat.le_max_right _ 1) steps

/-- Dials that take longer the earlier they start; the one to the port 4 fails, and the one to the
port 6 never ends. -/
def dialingUnevenly : Dialing Session := fun n address =>
  if address = neighbour 4 then
    ⟨address, some (50 - n), .error (.connect ⟨.v4 ⟨127, 0, 0, 1⟩, 4⟩)⟩
  else if address = neighbour 6 then
    ⟨address, none, .error (.timeout ⟨.v4 ⟨127, 0, 0, 1⟩, 6⟩)⟩
  else ⟨address, some (50 - n), .ok (answering [])⟩

/-- A node with one peer dials three others, one of which refuses, and has handled all of them in
the end, also with as few dials at once as can be; with a fourth one, which is silent, it is
stopped. -/
theorem dialing_does_not_depend_on_order_of_acquainted :
    let three := [2, 4, 5].map neighbour
    let four := [2, 4, 5, 6].map neighbour
    dialingUnevenly.Faithful ∧ three.Nodup ∧ four.Nodup ∧
      (∀ address ∈ four, acquainted.contains address = false) ∧
      (∀ gathering, Steps 1 (start acquainted (dialingUnevenly.results 1 three)) gathering →
        gathering.Gathered 1 acquainted (dialingUnevenly.results 1 three)) ∧
      (∃ gathering, Clocked acquainted dialingUnevenly ⟨0, 60000⟩ 1 three gathering ∧
        gathering.Finished) ∧
      ∃ gathering, Clocked acquainted dialingUnevenly ⟨2, 60000⟩ 1 four gathering ∧
        ¬ gathering.Finished := by
  intro three four
  have faithful : dialingUnevenly.Faithful := by
    intro n address
    unfold dialingUnevenly
    split_ifs <;> rfl
  have distinct : three.Nodup := by decide
  have distinct' : four.Nodup := by decide
  have new : ∀ address ∈ four, acquainted.contains address = false := by decide
  obtain ⟨gathered, gathering, clocked⟩ := dialing_does_not_depend_on_order faithful ⟨0, 60000⟩ 1
    distinct fun address mem => new address (List.subset_append_left three _ mem)
  obtain ⟨-, gathering', clocked'⟩ :=
    dialing_does_not_depend_on_order faithful ⟨2, 60000⟩ 1 distinct' new
  refine ⟨faithful, distinct, distinct', new, gathered, ⟨gathering, clocked, ?_⟩,
    gathering', clocked', fun finished => ?_⟩
  · -- Every dial ends, and all of them one after the other would be in time.
    have ends : ∀ dial ∈ dialingUnevenly.dials 1 three, dial.duration = some dial.time := by decide
    refine clocked.finished_iff.2 (clocked.timely.over_iff.2 ⟨ends, ?_⟩)
    exact Nat.le_trans (clocked.timely.span_le ends) (by decide)
  · have ends := (clocked'.timely.over_iff.1 (clocked'.finished_iff.1 finished)).1
    have silent : dialingUnevenly 4 (neighbour 6) ∈ dialingUnevenly.dials 1 four :=
      List.mem_of_getElem? (i := 3) rfl
    exact absurd (ends _ silent) (by decide)

end Peerstore

end PeerLink
