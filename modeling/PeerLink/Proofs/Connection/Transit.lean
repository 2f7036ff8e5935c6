import PeerLink.Proofs.Connection.Mail
import PeerLink.Proofs.Framing.LengthPrefixed
import PeerLink.Proofs.Stream.Writing

/-!
# Octets on their way

Whatever the layer over the wire, the octets between a writer and a reader lie in four places: the
reader has taken them for a frame that is not complete, it has read them ahead, they are queued on
the stream, or the writer has not written them yet. `Transit` says that these are certain octets,
in this order. Its lemmas say how putting, flushing, closing and reading move them, and what a
reader finds behind the ones that have arrived.
-/

namespace PeerLink

/-- The octets that a writer has not written yet; there are none when its connection is closed. -/
def unwritten : Option Wire → Bytes
  | none => []
  | some wire => wire.unwritten.toBytes

/-- `octets` are on their way from a writer to a reader who has taken the first ones for a frame
that is not complete. -/
structure Transit (mail : Mail) (writer : Option Wire) (taken : Bytes) (reader : Wire) (pipe : Pipe)
    (octets : Bytes) : Prop where
  /-- They are taken, read ahead, queued or not written. -/
  octets_eq : taken ++ reader.readAhead.toBytes ++ pipe.queue.toBytes ++ unwritten writer = octets
  /-- A closed connection has no wire. -/
  closed : writer.isNone = mail.closed
  /-- After a flush everything is written. -/
  flushed : mail.flushed = true → unwritten writer = []
  /-- Nothing is left to be written on a closed connection. -/
  settled : mail.closed = true → mail.flushed = true
  /-- The pipe ends when the connection is closed. -/
  ended : pipe.ended = mail.closed
  /-- The pipe has not failed. -/
  reset : pipe.reset = false
  /-- The pipe delivers what is written. -/
  opened : mail.closed = false → pipe.Open
  /-- A free network holds nothing back. -/
  free : mail.free = true → pipe.gate = none

/-- Nothing is held back exactly if everything has arrived. -/
theorem Pipe.late_eq_nil_iff (pipe : Pipe) :
    pipe.late = [] ↔ ¬ pipe.arrived.length < pipe.queue.size := by
  have parts := congrArg List.length pipe.arrived_append_late
  rw [List.length_append, ← Buffer.size_eq_length] at parts
  rw [← List.length_eq_zero_iff]
  omega

namespace Transit

variable {mail : Mail} {writer : Option Wire} {taken : Bytes} {reader reader' : Wire}
  {stream stream' : Stream} {octets : Bytes}

/-- A writer has a wire until its connection is closed. -/
theorem writer_cases {pipe : Pipe} (h : Transit mail writer taken reader pipe octets) :
    (mail.closed = true ∧ writer = none) ∨ (mail.closed = false ∧ ∃ wire, writer = some wire) := by
  have closed := h.closed
  cases writer with
  | none => exact .inl ⟨closed.symm, rfl⟩
  | some wire => exact .inr ⟨closed.symm, wire, rfl⟩

/-- The octets that the reader has before it, and the ones that have not arrived. -/
theorem ahead_append (h : Transit mail writer taken reader stream.inbound octets) :
    taken ++ reader.ahead stream ++ (stream.inbound.late ++ unwritten writer) = octets := by
  rw [← h.octets_eq, ← List.append_assoc, List.append_assoc taken (reader.ahead stream),
    Wire.ahead_append_late, ← List.append_assoc]

/-- Behind octets that have arrived a reader waits for the ones that have not. -/
theorem verge_of_missing (h : Transit mail writer taken reader stream.inbound octets)
    (some_missing : stream.inbound.late ++ unwritten writer ≠ []) :
    stream.inbound.verge = .wait := by
  by_cases late : stream.inbound.late = []
  · have some_unwritten : unwritten writer ≠ [] := by
      intro nothing
      exact some_missing (by rw [late, nothing]; rfl)
    have not_closed : mail.closed = false := by
      cases closed : mail.closed with
      | false => rfl
      | true => exact absurd (h.flushed (h.settled closed)) some_unwritten
    exact (h.opened not_closed).verge
  · have held : stream.inbound.arrived.length < stream.inbound.queue.size := by
      by_contra all
      exact late ((Pipe.late_eq_nil_iff _).2 all)
    rw [Pipe.verge, if_pos held]

/-- Behind the last octets a reader waits for more until the writer has closed its connection. -/
theorem verge_of_nothing_missing (h : Transit mail writer taken reader stream.inbound octets)
    (nothing : stream.inbound.late ++ unwritten writer = []) :
    stream.inbound.verge = if mail.closed = true then .stop else .wait := by
  have all := (Pipe.late_eq_nil_iff _).1 (List.append_eq_nil_iff.1 nothing).1
  rw [Pipe.verge, if_neg all, h.reset, h.ended]
  simp

/-- When nothing is on its way there is nothing anywhere. -/
theorem nothing (h : Transit mail writer taken reader stream.inbound []) :
    taken ++ reader.ahead stream = [] ∧ stream.inbound.late ++ unwritten writer = [] :=
  List.append_eq_nil_iff.1 h.ahead_append

/-- Octets that have not arrived are not flushed, or the network holds them back. -/
theorem not_flushed_or_not_free (h : Transit mail writer taken reader stream.inbound octets)
    (some_missing : stream.inbound.late ++ unwritten writer ≠ []) :
    mail.flushed = false ∨ mail.free = false := by
  by_contra both
  simp only [not_or, Bool.not_eq_false] at both
  have late := Pipe.late_of_gate_eq_none (h.free both.2)
  have written := h.flushed both.1
  exact some_missing (by rw [late, written]; rfl)

/-- What is on its way is a matter of the octets, and not of the tokens. -/
theorem tokens_any (h : Transit mail writer taken reader stream.inbound octets)
    (tokens : List Token) :
    Transit { mail with tokens } writer taken reader stream.inbound octets :=
  ⟨h.octets_eq, h.closed, h.flushed, h.settled, h.ended, h.reset, h.opened, h.free⟩

/-- The first frame of what is on its way has arrived, or a part of it is missing. -/
theorem frame_cases {frame rest : Bytes}
    (h : Transit mail writer taken reader stream.inbound (frame ++ rest)) :
    (∃ left, taken ++ reader.ahead stream = frame ++ left ∧
        left ++ (stream.inbound.late ++ unwritten writer) = rest) ∨
      (∃ missing, missing ≠ [] ∧ taken ++ reader.ahead stream ++ missing = frame ∧
        stream.inbound.late ++ unwritten writer = missing ++ rest) := by
  rcases List.append_eq_append_iff.1 h.ahead_append with
    ⟨missing, frame_eq, behind⟩ | ⟨left, ahead, rest_eq⟩
  · by_cases none_missing : missing = []
    · subst none_missing
      rw [List.append_nil] at frame_eq
      exact .inl ⟨[], by rw [List.append_nil, frame_eq], by rw [behind]; rfl⟩
    · exact .inr ⟨missing, none_missing, frame_eq.symm, behind⟩
  · exact .inl ⟨left, ahead, rest_eq.symm⟩

/-- What is on its way after a read. -/
theorem advanced (h : Transit mail writer taken reader stream.inbound octets)
    (advanced : reader.Advanced stream reader' stream') {taken' octets' : Bytes}
    (left : taken' ++ reader'.ahead stream' ++ (stream.inbound.late ++ unwritten writer) =
      octets') (tokens : List Token) :
    Transit { mail with tokens } writer taken' reader' stream'.inbound octets' where
  octets_eq := by
    rw [← left, ← advanced.late, ← List.append_assoc, List.append_assoc taken' (reader'.ahead _),
      Wire.ahead_append_late, ← List.append_assoc]
  closed := h.closed
  flushed := h.flushed
  settled := h.settled
  ended := by
    obtain ⟨n, read⟩ := advanced.stream
    rw [read.inbound.same]
    exact h.ended
  reset := by
    obtain ⟨n, read⟩ := advanced.stream
    rw [read.inbound.same]
    exact h.reset
  opened not_closed := by
    obtain ⟨n, read⟩ := advanced.stream
    exact (h.opened not_closed).advanced read.inbound
  free is_free := advanced.gate_eq_none (h.free is_free)

/-- Octets that are put on the wire follow the others. -/
theorem put {wire wire' : Wire} {pipe : Pipe} {bytes : Bytes}
    (h : Transit mail (some wire) taken reader pipe octets)
    (added : wire'.unwritten.toBytes = wire.unwritten.toBytes ++ bytes) (tokens : List Token)
    {flushed : Bool} (still : flushed = true → mail.flushed = true ∧ bytes = []) :
    Transit { mail with tokens, flushed } (some wire') taken reader pipe (octets ++ bytes) where
  octets_eq := by
    rw [← h.octets_eq, unwritten, unwritten, added]
    simp only [List.append_assoc]
  closed := h.closed
  flushed is_flushed := by
    obtain ⟨was_flushed, nothing⟩ := still is_flushed
    have before : wire.unwritten.toBytes = [] := h.flushed was_flushed
    rw [unwritten, added, before, nothing]
    rfl
  settled is_closed := absurd (h.closed.trans is_closed) (by simp)
  ended := h.ended
  reset := h.reset
  opened := h.opened
  free := h.free

/-- A flush writes everything. -/
theorem flush {wire : Wire} (h : Transit mail (some wire) taken reader stream.outbound octets) :
    ∃ stream', wire.flush stream = (.ok (), { wire with unwritten := .empty }, stream') ∧
      stream'.inbound = stream.inbound ∧
      Transit { mail with flushed := true } (some { wire with unwritten := .empty }) taken reader
        stream'.outbound octets := by
  have not_closed : mail.closed = false := h.closed.symm
  obtain ⟨stream', written, inbound, gained⟩ := wire.flush_of_open (h.opened not_closed)
  refine ⟨stream', written, inbound, ?_⟩
  constructor
  · rw [← h.octets_eq, gained.queue, unwritten, unwritten, Buffer.toBytes_empty, List.append_nil]
    simp only [List.append_assoc]
  · exact h.closed
  · exact fun _ => Buffer.toBytes_empty
  · exact fun _ => rfl
  · rw [gained.opened.ended]
    exact not_closed.symm
  · exact gained.opened.reset
  · exact fun _ => gained.opened
  · exact fun is_free => gained.gate.trans (h.free is_free)

/-- The stream is ended and let go of once everything is written. -/
theorem close {wire : Wire} (h : Transit mail (some wire) taken reader stream.outbound octets)
    (written : mail.flushed = true) : stream.shutdown.1 = .ok () ∧
      Transit { mail with closed := true } none taken reader stream.release.outbound octets := by
  have not_closed : mail.closed = false := h.closed.symm
  refine ⟨Stream.shutdown_of_open (h.opened not_closed), ?_⟩
  constructor
  · have nothing := h.flushed written
    rw [← h.octets_eq, nothing]
    rfl
  · rfl
  · exact fun _ => rfl
  · exact fun _ => written
  · rfl
  · exact h.reset
  · rintro ⟨⟩
  · exact h.free

/-- The network may hold octets back, or let all of them through. -/
theorem hold {pipe : Pipe} (h : Transit mail writer taken reader pipe octets)
    (gate : Option Nat) :
    Transit { mail with free := gate.isNone } writer taken reader { pipe with gate } octets where
  octets_eq := h.octets_eq
  closed := h.closed
  flushed := h.flushed
  settled := h.settled
  ended := h.ended
  reset := h.reset
  opened not_closed := (h.opened not_closed).gated gate
  free is_free := Option.isNone_iff_eq_none.1 is_free

end Transit

end PeerLink
