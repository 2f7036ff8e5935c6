import Mathlib.Data.List.Basic
import PeerLink.Stream.Basic

/-!
# What a read of a stream takes

A read takes octets from the front of what has arrived: as many as the pace allows, but at least
one. `Pipe.arrived` is the view of a pipe that matters to its reader, and `Pipe.verge` is what the
reader finds behind it. `Pipe.read_of_arrived` and `Pipe.read_of_not_arrived` say what a single read
does to the view; everything about chunks of octets rests on these two.
-/

namespace PeerLink

/-- A buffer is empty exactly if its view is. -/
theorem Buffer.isEmpty_iff {buffer : Buffer} : buffer.isEmpty = true ↔ buffer.toBytes = [] := by
  rw [isEmpty, beq_iff_eq, size_eq_length, List.length_eq_zero_iff]

/-- There is one empty buffer. -/
theorem Buffer.eq_empty {buffer : Buffer} (h : buffer.isEmpty = true) : buffer = empty := by
  obtain ⟨front, back, size, size_eq⟩ := buffer
  simp only [isEmpty, beq_iff_eq] at h
  obtain rfl : front = [] := List.length_eq_zero_iff.1 (by omega)
  obtain rfl : back = [] := List.length_eq_zero_iff.1 (by omega)
  subst h
  rfl

namespace Pipe

/-- The queued octets that the network does not hold back. -/
def arrived (pipe : Pipe) : Bytes :=
  pipe.queue.toBytes.take (atMost pipe.gate pipe.queue.size)

/-- The queued octets that the network holds back. -/
def late (pipe : Pipe) : Bytes :=
  pipe.queue.toBytes.drop (atMost pipe.gate pipe.queue.size)

/-- What a read gives once everything that has arrived is read. -/
def verge (pipe : Pipe) : ReadResult :=
  if pipe.arrived.length < pipe.queue.size then .wait
  else if pipe.reset then .failed .connectionReset
  else if pipe.ended then .stop
  else .wait

/-- There are no octets behind the ones that have arrived. -/
theorem verge_ne_data (pipe : Pipe) (bytes : Bytes) : pipe.verge ≠ .data bytes := by
  rw [verge]
  split_ifs <;> simp

/-- `pipe'` is `pipe` after `n` of the octets that have arrived were read. -/
structure Advanced (n : Nat) (pipe pipe' : Pipe) : Prop where
  /-- No more are read than have arrived. -/
  le : n ≤ pipe.arrived.length
  /-- They are taken from the front of the queue. -/
  queue : pipe'.queue.toBytes = pipe.queue.toBytes.drop n
  /-- They count towards what the network lets through. -/
  gate : pipe'.gate = pipe.gate.map (· - n)
  /-- Nothing else of the pipe changes but the count of the reads. -/
  same : pipe' = { pipe with queue := pipe'.queue, gate := pipe'.gate, reads := pipe'.reads }

/-- A bound makes a number no larger. -/
theorem atMost_le (bound : Option Nat) (n : Nat) : atMost bound n ≤ n := by
  cases bound with
  | none => exact Nat.le_refl n
  | some limit => exact Nat.min_le_right limit n

/-- As many octets have arrived as the network lets through. -/
theorem length_arrived (pipe : Pipe) :
    pipe.arrived.length = atMost pipe.gate pipe.queue.size := by
  have bound := atMost_le pipe.gate pipe.queue.size
  rw [arrived, List.length_take, ← Buffer.size_eq_length]
  exact Nat.min_eq_left bound

/-- What is queued has arrived or is held back. -/
theorem arrived_append_late (pipe : Pipe) : pipe.arrived ++ pipe.late = pipe.queue.toBytes :=
  List.take_append_drop _ _

/-- Without a gate nothing is held back. -/
theorem late_of_gate_eq_none {pipe : Pipe} (h : pipe.gate = none) : pipe.late = [] := by
  rw [late, h]
  exact List.drop_of_length_le (by simp only [atMost, Buffer.size_eq_length, Nat.le_refl])

/-- Without a gate everything that is queued has arrived. -/
theorem arrived_of_gate_eq_none {pipe : Pipe} (h : pipe.gate = none) :
    pipe.arrived = pipe.queue.toBytes := by
  rw [arrived, h]
  exact List.take_of_length_le (by simp only [atMost, Buffer.size_eq_length, Nat.le_refl])

/-- Nothing is read by reading nothing. -/
theorem Advanced.refl (pipe : Pipe) : Advanced 0 pipe pipe where
  le := Nat.zero_le _
  queue := by simp
  gate := by cases pipe.gate <;> simp
  same := rfl

/-- The octets that a read takes are no longer among the ones that have arrived. -/
theorem Advanced.arrived {n : Nat} {pipe pipe' : Pipe} (h : Advanced n pipe pipe') :
    pipe'.arrived = pipe.arrived.drop n := by
  have le := h.le
  rw [length_arrived] at le
  rw [Pipe.arrived, Pipe.arrived, h.gate, Buffer.size_eq_length, h.queue, List.drop_take,
    List.length_drop, Buffer.size_eq_length]
  congr 1
  cases hg : pipe.gate with
  | none => rfl
  | some limit =>
    rw [hg] at le
    simp only [atMost, Buffer.size_eq_length, Option.map_some] at le ⊢
    omega

/-- What the network holds back stays there. -/
theorem Advanced.late {n : Nat} {pipe pipe' : Pipe} (h : Advanced n pipe pipe') :
    pipe'.late = pipe.late := by
  have parts := pipe'.arrived_append_late
  have le := h.le
  rw [h.arrived, h.queue, ← pipe.arrived_append_late, List.drop_append_of_le_length le] at parts
  exact List.append_cancel_left parts

/-- What is behind the octets that have arrived does not depend on how many of them were read. -/
theorem Advanced.verge {n : Nat} {pipe pipe' : Pipe} (h : Advanced n pipe pipe') :
    pipe'.verge = pipe.verge := by
  have le := h.le
  have length := congrArg List.length h.arrived
  have size := congrArg List.length h.queue
  have held : pipe'.arrived.length < pipe'.queue.size ↔ pipe.arrived.length < pipe.queue.size := by
    simp only [List.length_drop, ← Buffer.size_eq_length] at length size
    omega
  have reset : pipe'.reset = pipe.reset := by rw [h.same]
  have ended : pipe'.ended = pipe.ended := by rw [h.same]
  simp only [Pipe.verge, held, reset, ended]

/-- Reads one after the other take the sum of what they take. -/
theorem Advanced.trans {m n : Nat} {pipe pipe' pipe'' : Pipe} (h : Advanced m pipe pipe')
    (h' : Advanced n pipe' pipe'') : Advanced (m + n) pipe pipe'' where
  le := by
    have le := h'.le
    rw [h.arrived, List.length_drop] at le
    have := h.le
    omega
  queue := by rw [h'.queue, h.queue, List.drop_drop]
  gate := by
    rw [h'.gate, h.gate, Option.map_map]
    congr 1
    funext limit
    exact Nat.sub_sub limit m n
  same := by rw [h'.same, h.same]

/-- A read of a pipe at which nothing has arrived gives what is behind, and changes nothing. -/
theorem read_of_not_arrived {pipe : Pipe} (h : pipe.arrived = []) (n : Nat) :
    pipe.read n = (pipe.verge, pipe) := by
  have none_arrived := pipe.length_arrived
  rw [h, List.length_nil] at none_arrived
  have size : pipe.readable n = 0 := by
    rw [readable, ← none_arrived]
    exact Nat.zero_min _
  have held : pipe.arrived.length < pipe.queue.size ↔ pipe.queue.isEmpty = false := by
    simp [h, Buffer.isEmpty]
    omega
  rw [read, verge, size, if_neg (Nat.lt_irrefl 0)]
  cases empty : pipe.queue.isEmpty with
  | true =>
    have not_held : ¬ pipe.arrived.length < pipe.queue.size := by rw [held, empty]; simp
    rw [if_neg not_held]
    cases pipe.reset <;> cases pipe.ended <;> rfl
  | false =>
    rw [if_pos (held.2 empty)]
    rfl

/-- A read of a pipe at which something has arrived takes from the front of it. -/
theorem read_of_arrived {pipe : Pipe} (h : pipe.arrived ≠ []) {n : Nat} (hn : 0 < n) :
    ∃ k pipe', 0 < k ∧ k ≤ n ∧ Advanced k pipe pipe' ∧
      pipe.read n = (.data (pipe.arrived.take k), pipe') := by
  have some_arrived : 0 < pipe.arrived.length := List.length_pos_iff.2 h
  -- However slow the pace is, a read asks for an octet at least.
  have paced : 0 < atMost ((pipe.pace pipe.reads).map (max 1)) n ∧
      atMost ((pipe.pace pipe.reads).map (max 1)) n ≤ n := by
    refine ⟨?_, atMost_le _ n⟩
    cases pipe.pace pipe.reads with
    | none => exact hn
    | some limit =>
      simp only [Option.map_some, atMost]
      omega
  have size : pipe.readable n =
      min pipe.arrived.length (atMost ((pipe.pace pipe.reads).map (max 1)) n) := by
    rw [readable, length_arrived]
  have positive : 0 < pipe.readable n := by omega
  refine ⟨pipe.readable n,
    { pipe with
      queue := pipe.queue.drop (pipe.readable n)
      gate := pipe.gate.map (· - pipe.readable n)
      reads := pipe.reads + 1 }, positive, by omega, ?_, ?_⟩
  · exact ⟨by omega, Buffer.toBytes_drop _ _, rfl, rfl⟩
  · have within : pipe.readable n ≤ atMost pipe.gate pipe.queue.size := by
      rw [← length_arrived]
      omega
    rw [read, if_pos positive, Buffer.take_eq, arrived, List.take_take, Nat.min_eq_left within]

end Pipe

namespace Stream

/-- `stream'` is `stream` after `n` of the octets that have arrived were read. -/
structure Advanced (n : Nat) (stream stream' : Stream) : Prop where
  /-- They are read from the pipe that leads here. -/
  inbound : Pipe.Advanced n stream.inbound stream'.inbound
  /-- Reading writes nothing. -/
  outbound : stream'.outbound = stream.outbound

/-- Nothing is read by reading nothing. -/
theorem Advanced.refl (stream : Stream) : Advanced 0 stream stream :=
  ⟨Pipe.Advanced.refl _, rfl⟩

/-- Reads one after the other take the sum of what they take. -/
theorem Advanced.trans {m n : Nat} {stream stream' stream'' : Stream}
    (h : Advanced m stream stream') (h' : Advanced n stream' stream'') :
    Advanced (m + n) stream stream'' :=
  ⟨h.inbound.trans h'.inbound, h'.outbound.trans h.outbound⟩

/-- A read of a stream at which nothing has arrived gives what is behind, and changes nothing. -/
theorem read_of_not_arrived {stream : Stream} (h : stream.inbound.arrived = []) (n : Nat) :
    stream.read n = (stream.inbound.verge, stream) := by
  rw [read, Pipe.read_of_not_arrived h n]

/-- A read of a stream at which something has arrived takes from the front of it. -/
theorem read_of_arrived {stream : Stream} (h : stream.inbound.arrived ≠ []) {n : Nat}
    (hn : 0 < n) :
    ∃ k stream', 0 < k ∧ k ≤ n ∧ Advanced k stream stream' ∧
      stream.read n = (.data (stream.inbound.arrived.take k), stream') := by
  obtain ⟨k, pipe', positive, le, advanced, read_eq⟩ := Pipe.read_of_arrived h hn
  refine ⟨k, { stream with inbound := pipe' }, positive, le, ⟨advanced, rfl⟩, ?_⟩
  rw [read, read_eq]

/-- A read that gives octets takes them from the front of what has arrived. -/
theorem eq_of_read_data {stream stream' : Stream} {n : Nat} {bytes : Bytes} (hn : 0 < n)
    (h : stream.read n = (.data bytes, stream')) :
    ∃ k, 0 < k ∧ k ≤ n ∧ Advanced k stream stream' ∧ bytes = stream.inbound.arrived.take k := by
  by_cases arrived : stream.inbound.arrived = []
  · rw [read_of_not_arrived arrived] at h
    simp only [Prod.mk.injEq] at h
    exact absurd h.1 (stream.inbound.verge_ne_data bytes)
  · obtain ⟨k, _, positive, le, advanced, read_eq⟩ := read_of_arrived arrived hn
    rw [h] at read_eq
    simp only [Prod.mk.injEq, ReadResult.data.injEq] at read_eq
    obtain ⟨rfl, rfl⟩ := read_eq
    exact ⟨k, positive, le, advanced, rfl⟩

/-- When a read gives no octets nothing has arrived, and nothing changes. -/
theorem eq_verge_of_read {stream stream' : Stream} {n : Nat} (hn : 0 < n) {result : ReadResult}
    (h : stream.read n = (result, stream')) (no_data : ∀ bytes, result ≠ .data bytes) :
    stream.inbound.arrived = [] ∧ result = stream.inbound.verge ∧ stream' = stream := by
  by_cases arrived : stream.inbound.arrived = []
  · rw [read_of_not_arrived arrived] at h
    simp only [Prod.mk.injEq] at h
    exact ⟨arrived, h.1.symm, h.2.symm⟩
  · obtain ⟨k, _, -, -, -, read_eq⟩ := read_of_arrived arrived hn
    rw [h] at read_eq
    simp only [Prod.mk.injEq] at read_eq
    exact absurd read_eq.1 (no_data _)

end Stream

end PeerLink
