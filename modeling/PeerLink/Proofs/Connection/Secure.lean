import PeerLink.Proofs.Connection.Transit
import PeerLink.Proofs.Framing.Sequence

/-!
# A secure line delivers

On a secure connection octets are sealed in frames as large as possible when they are flushed, and
an object is one sealed frame behind them. `Line.Secure` ties a line of secure connections to the
mail on it: what is on its way are the frames of `Parcel`s, sealed from the place on at which the
reader's half stands; the writer's half stands at the place behind them; and the tokens are the ones
that the reader has unsealed, the ones of the parcels, and the ones that are not sealed yet. Every
call keeps the tie and comes to what the mail says.
-/

namespace PeerLink

open SealedFrames

/-- What one sealed frame is made of. -/
inductive Parcel where
  /-- A piece of the octets between two objects. -/
  | octets (bytes : Bytes)
  /-- The text of an object. -/
  | object (text : Bytes)

namespace Parcel

/-- The message that is sealed. -/
def text : Parcel → Bytes
  | octets bytes => bytes
  | object text => text

/-- The tokens in a parcel. -/
def tokens : Parcel → List Token
  | octets bytes => bytes.map .octet
  | object text => [.object text]

/-- A parcel fits a frame, and there is something in it. -/
def Acceptable (parcel : Parcel) : Prop :=
  parcel.tokens ≠ [] ∧ parcel.text.length ≤ maxPayload

/-- The tokens of pieces of octets. -/
theorem flatMap_tokens_octets (pieces : List Bytes) :
    (pieces.map octets).flatMap tokens = pieces.flatten.map .octet := by
  induction pieces with
  | nil => rfl
  | cons piece pieces ih =>
    rw [List.map_cons, List.flatMap_cons, ih, List.flatten_cons, List.map_append]
    rfl

/-- The messages of pieces of octets. -/
theorem map_text_octets (pieces : List Bytes) : (pieces.map octets).map text = pieces := by
  rw [List.map_map]
  exact List.map_id pieces

end Parcel

namespace SecureLayer

variable {suite : Suite} {layer : SecureLayer} {wire wire' : Wire} {stream stream' : Stream}
  {frames' : SealedFrames.State}

/-- Nothing is unsealed when there is something to read already. -/
theorem unsealSome_of_unsealed (some_unsealed : layer.unsealed.isEmpty ≠ true) :
    layer.unsealSome suite wire stream = (.done true, layer, wire, stream) := by
  rw [unsealSome, if_neg some_unsealed]

/-- A message that is not empty is unsealed, and no more. -/
theorem unsealSome_of_message (nothing : layer.unsealed.isEmpty = true) {message : Bytes}
    (read : wire.readFrame (framing suite) layer.frames stream =
      (.done (some message), frames', wire', stream')) (some_octets : message ≠ []) :
    layer.unsealSome suite wire stream =
      (.done true, { layer with frames := frames', unsealed := .ofBytes message }, wire',
        stream') := by
  have some_unsealed : (Buffer.ofBytes message).isEmpty ≠ true := by
    rw [Ne, Buffer.isEmpty_iff, Buffer.toBytes_ofBytes]
    exact some_octets
  have not_empty : message.isEmpty = false := by
    cases message with
    | nil => exact absurd rfl some_octets
    | cons b message => rfl
  rw [unsealSome, if_pos nothing, read]
  dsimp only
  split
  · rw [unsealSome_of_unsealed some_unsealed]
  · rw [not_empty]
    rfl

/-- Nothing is unsealed at the end of the stream. -/
theorem unsealSome_of_stop (nothing : layer.unsealed.isEmpty = true)
    (read : wire.readFrame (framing suite) layer.frames stream =
      (.done none, frames', wire', stream')) :
    layer.unsealSome suite wire stream =
      (.done false, { layer with frames := frames' }, wire', stream') := by
  rw [unsealSome, if_pos nothing, read]

/-- Nothing is unsealed as long as the reader waits for a frame. -/
theorem unsealSome_of_wait (nothing : layer.unsealed.isEmpty = true)
    (read : wire.readFrame (framing suite) layer.frames stream =
      (.waiting, frames', wire', stream')) :
    layer.unsealSome suite wire stream =
      (.waiting, { layer with frames := frames' }, wire', stream') := by
  rw [unsealSome, if_pos nothing, read]

end SecureLayer

namespace Transit

variable {suite : Suite} {mail : Mail} {writer : Option Wire} {reader : Wire} {stream : Stream}
  {state : SealedFrames.State}

/-- The first of the frames on their way is read, or the reader waits for the rest of it. -/
theorem readFrame_first (opens : suite.Opens) {message : Bytes} {messages : List Bytes}
    (h : Transit mail writer (head state) reader stream.inbound
      (frames suite state.receiver (message :: messages)))
    (valid : Valid state) (acceptable : message.length ≤ maxPayload) :
    (∃ reader' stream', reader.readFrame (framing suite) state stream =
        (.done (some message), ⟨state.receiver.advance suite, none⟩, reader', stream') ∧
      ∀ tokens, Transit { mail with tokens } writer [] reader' stream'.inbound
        (frames suite (state.receiver.advance suite) messages)) ∨
    ((mail.flushed = false ∨ mail.free = false) ∧
      ∃ state' reader' stream', reader.readFrame (framing suite) state stream =
        (.waiting, state', reader', stream') ∧ Valid state' ∧ state'.receiver = state.receiver ∧
      Transit mail writer (head state') reader' stream'.inbound
        (frames suite state.receiver (message :: messages))) := by
  rcases h.frame_cases with ⟨left, octets, rest_eq⟩ | ⟨missing, some_missing, octets, behind⟩
  · obtain ⟨reader', stream', read, left_eq, advanced⟩ :=
      readFrame_whole opens valid acceptable octets
    refine .inl ⟨reader', stream', read, fun tokens => h.advanced advanced ?_ tokens⟩
    rw [List.nil_append, left_eq, rest_eq]
  · have not_there : stream.inbound.late ++ unwritten writer ≠ [] := by
      rw [behind]
      exact fun nothing => some_missing (List.append_eq_nil_iff.1 nothing).1
    obtain ⟨state', reader', stream', read, valid', receiver, octets', advanced⟩ :=
      readFrame_part opens valid acceptable octets some_missing (h.verge_of_missing not_there)
    refine .inr ⟨h.not_flushed_or_not_free not_there, state', reader', stream', read, valid',
      receiver, h.advanced advanced ?_ mail.tokens⟩
    rw [octets', h.ahead_append]

/-- When there is no frame on its way the reader finds the end of the stream if the connection is
closed, and waits if it is not. -/
theorem readFrame_nothing (opens : suite.Opens)
    (h : Transit mail writer (head state) reader stream.inbound []) (valid : Valid state) :
    ∃ state' reader' stream', reader.readFrame (framing suite) state stream =
        (if mail.closed = true then .done none else .waiting, state', reader', stream') ∧
      Valid state' ∧ state'.receiver = state.receiver ∧
      Transit mail writer (head state') reader' stream'.inbound [] := by
  obtain ⟨nothing, nothing_behind⟩ := h.nothing
  have verge := h.verge_of_nothing_missing nothing_behind
  cases closed : mail.closed with
  | true =>
    rw [closed, if_pos rfl] at verge
    obtain ⟨reader', stream', read, left, advanced⟩ := readFrame_stop nothing verge
    refine ⟨state, reader', stream', read, valid, rfl, h.advanced advanced ?_ mail.tokens⟩
    rw [left, (List.append_eq_nil_iff.1 nothing).1, nothing_behind]
    rfl
  | false =>
    rw [closed, if_neg (by simp)] at verge
    -- The reader waits for any frame, for instance the one of an empty message.
    have octets : head state ++ reader.ahead stream ++ frame suite state.receiver [] =
        frame suite state.receiver [] := by
      rw [nothing]
      rfl
    obtain ⟨state', reader', stream', read, valid', receiver, left, advanced⟩ :=
      readFrame_part opens valid (Nat.zero_le _) octets (frame_ne_nil suite _ _) verge
    refine ⟨state', reader', stream', read, valid', receiver,
      h.advanced advanced ?_ mail.tokens⟩
    rw [left, nothing, nothing_behind]
    rfl

end Transit

namespace Line

/-- A line of secure connections with some mail on it. -/
inductive Secure (suite : Suite) (mail : Mail) : Line → Prop
  /-- What is on its way are the frames of parcels. -/
  | intro {writer : Option Wire} {reader : Wire} {layer layer' : SecureLayer}
      {address address' : Option Endpoint} {resolution resolution' : Resolution} {link : Link}
      (parcels : List Parcel)
      (transit : Transit mail writer (head layer'.frames) reader link.forth
        (frames suite layer'.frames.receiver (parcels.map Parcel.text)))
      (valid : Valid layer'.frames)
      (acceptable : ∀ parcel ∈ parcels, parcel.Acceptable)
      (place : layer.sender = layer'.frames.receiver.after suite parcels.length)
      (tokens : mail.tokens = layer'.unsealed.toBytes.map .octet ++ parcels.flatMap Parcel.tokens ++
        layer.pending.toBytes.map .octet)
      (all_sealed : mail.flushed = true → layer.pending.toBytes = []) :
      Secure suite mail ⟨⟨writer, .secure layer, address, resolution⟩,
        ⟨some reader, .secure layer', address', resolution'⟩, link⟩

namespace Secure

variable {α : Type} {suite : Suite} {mail : Mail} {line : Line}

/-- What the pending octets are sealed in. -/
theorem sealPending {writer reader : Wire} {layer layer' : SecureLayer}
    {address address' : Option Endpoint} {resolution resolution' : Resolution} {link : Link}
    (secure : Secure suite mail ⟨⟨some writer, .secure layer, address, resolution⟩,
      ⟨some reader, .secure layer', address', resolution'⟩, link⟩) :
    (layer.sealPending suite writer).2.pending = .empty ∧
      Secure suite mail ⟨⟨some (layer.sealPending suite writer).1,
          .secure (layer.sealPending suite writer).2, address, resolution⟩,
        ⟨some reader, .secure layer', address', resolution'⟩, link⟩ := by
  refine ⟨rfl, ?_⟩
  cases secure with
  | intro parcels transit valid acceptable place tokens all_sealed =>
    -- The pending octets become parcels behind the others.
    obtain ⟨pieces, flatten, fitting, octets, half⟩ :=
      sealFrames_spec suite layer.sender writer.unwritten layer.pending.toBytes
    have unchanged (flushed : mail.flushed = true) :
        mail.flushed = true ∧ frames suite layer.sender pieces = [] := by
      refine ⟨flushed, ?_⟩
      -- There is nothing to seal, hence no piece.
      rw [all_sealed flushed] at flatten
      cases pieces with
      | nil => rfl
      | cons piece pieces =>
        have empty := (List.append_eq_nil_iff.1 flatten).1
        exact absurd empty (fitting piece List.mem_cons_self).1
    have transit' := transit.put (show (layer.sealPending suite writer).1.unwritten.toBytes =
      writer.unwritten.toBytes ++ frames suite layer.sender pieces from octets) mail.tokens
      unchanged
    refine .intro (parcels ++ pieces.map .octets) ?_ valid ?_ ?_ ?_ ?_
    · rw [List.map_append, Parcel.map_text_octets, frames_append, List.length_map, ← place]
      exact transit'
    · intro parcel mem
      rcases List.mem_append.1 mem with mem | mem
      · exact acceptable parcel mem
      · obtain ⟨piece, mem', rfl⟩ := List.mem_map.1 mem
        obtain ⟨some_octets, le⟩ := fitting piece mem'
        exact ⟨by simpa [Parcel.tokens] using some_octets, le⟩
    · show (sealFrames suite layer.sender writer.unwritten layer.pending.toBytes).2 = _
      rw [half, place, List.length_append, List.length_map, Sealing.after_add]
    · show mail.tokens = _ ++ Buffer.empty.toBytes.map Token.octet
      rw [tokens, List.flatMap_append, Parcel.flatMap_tokens_octets, flatten, Buffer.toBytes_empty,
        List.map_nil, List.append_nil, List.append_assoc]
    · exact fun _ => Buffer.toBytes_empty

section Reading

variable {writer : Option Wire} {reader : Wire} {layer layer' : SecureLayer}
  {address address' : Option Endpoint} {resolution resolution' : Resolution} {link : Link}
  {parcels : List Parcel}

/-- The rest of a message that is unsealed is read first. -/
theorem readBytes_unsealed (secure : Secure suite mail
      ⟨⟨writer, .secure layer, address, resolution⟩,
        ⟨some reader, .secure layer', address', resolution'⟩, link⟩)
    {n : Nat} (some_asked : n ≠ 0) (something : layer'.unsealed.isEmpty ≠ true) :
    ∃ outcome mail' reader' stream,
      Connection.readBytes suite n ⟨some reader, .secure layer', address', resolution'⟩
        link.listening = (outcome, reader', stream) ∧
      mail.GetsBytes n outcome mail' ∧
      Secure suite mail' ⟨⟨writer, .secure layer, address, resolution⟩, reader',
        .ofListening stream⟩ := by
  cases secure with
  | intro parcels transit valid acceptable place tokens all_sealed =>
    have some_unsealed : layer'.unsealed.toBytes ≠ [] :=
      fun empty => something (Buffer.isEmpty_iff.2 empty)
    simp only [Connection.readBytes, if_neg some_asked,
      SecureLayer.unsealSome_of_unsealed something, Buffer.take_eq]
    refine ⟨_, _, _, _, rfl, .octets ?_ ?_ ?_, .intro parcels (transit.tokens_any _) valid
      acceptable place rfl all_sealed⟩
    · rw [tokens, Buffer.toBytes_drop]
      simp only [← List.append_assoc, ← List.map_append, List.take_append_drop]
    · rw [Ne, List.take_eq_nil_iff, not_or]
      exact ⟨some_asked, some_unsealed⟩
    · rw [List.length_take]
      exact Nat.min_le_left _ _

/-- When nothing is unsealed or on its way the reader finds the end of a closed line, and waits on
one that is open. -/
theorem readBytes_nothing (opens : suite.Opens)
    (transit : Transit mail writer (head layer'.frames) reader link.listening.inbound [])
    (valid : Valid layer'.frames) (place : layer.sender = layer'.frames.receiver)
    (tokens : mail.tokens = layer.pending.toBytes.map .octet)
    (all_sealed : mail.flushed = true → layer.pending.toBytes = []) {n : Nat} (some_asked : n ≠ 0)
    (nothing : layer'.unsealed.isEmpty = true) :
    ∃ outcome mail' reader' stream,
      Connection.readBytes suite n ⟨some reader, .secure layer', address', resolution'⟩
        link.listening = (outcome, reader', stream) ∧
      mail.GetsBytes n outcome mail' ∧
      Secure suite mail' ⟨⟨writer, .secure layer, address, resolution⟩, reader',
        .ofListening stream⟩ := by
  have none_unsealed := Buffer.isEmpty_iff.1 nothing
  obtain ⟨state', reader', stream', read, valid', receiver, transit'⟩ :=
    transit.readFrame_nothing opens valid
  have kept {unsealed : Buffer} (still_none : unsealed.toBytes = []) :
      Secure suite mail ⟨⟨writer, .secure layer, address, resolution⟩,
        ⟨some reader', .secure { layer' with frames := state', unsealed }, address',
          resolution'⟩, .ofListening stream'⟩ := by
    refine .intro [] transit' valid' (by simp) (by rw [place, receiver]; rfl) ?_ all_sealed
    rw [still_none]
    exact tokens
  unfold Connection.readBytes
  simp only [if_neg some_asked]
  cases closed : mail.closed with
  | true =>
    -- A closed line has been flushed, so that nothing is pending either.
    rw [closed, if_pos rfl] at read
    have nothing_left : mail.tokens = [] := by
      rw [tokens, all_sealed (transit.settled closed)]
      rfl
    simp only [SecureLayer.unsealSome_of_stop nothing read, Buffer.take_eq, none_unsealed,
      List.take_nil]
    refine ⟨_, _, _, _, rfl, .stop nothing_left closed, kept ?_⟩
    rw [Buffer.toBytes_drop, none_unsealed, List.drop_nil]
  | false =>
    rw [closed, if_neg (by simp)] at read
    simp only [SecureLayer.unsealSome_of_wait nothing read]
    refine ⟨_, _, _, _, rfl, .waiting ?_, kept none_unsealed⟩
    -- The reader waits for the pending octets, or for anything at all.
    by_cases nothing_left : mail.tokens = []
    · exact .inl ⟨nothing_left, closed⟩
    · refine .inr ⟨nothing_left, .inl ?_⟩
      by_contra flushed
      rw [Bool.not_eq_false] at flushed
      exact nothing_left (by rw [tokens, all_sealed flushed]; rfl)

/-- A piece of octets that is the first on its way is unsealed as a whole, and the reader gets the
front of it. -/
theorem readBytes_octets (opens : suite.Opens) {piece : Bytes}
    (transit : Transit mail writer (head layer'.frames) reader link.listening.inbound
      (frames suite layer'.frames.receiver ((.octets piece :: parcels).map Parcel.text)))
    (valid : Valid layer'.frames)
    (acceptable : ∀ parcel ∈ .octets piece :: parcels, parcel.Acceptable)
    (place : layer.sender = layer'.frames.receiver.after suite (parcels.length + 1))
    (tokens : mail.tokens = layer'.unsealed.toBytes.map .octet ++
      (.octets piece :: parcels).flatMap Parcel.tokens ++ layer.pending.toBytes.map .octet)
    (all_sealed : mail.flushed = true → layer.pending.toBytes = []) {n : Nat} (some_asked : n ≠ 0)
    (nothing : layer'.unsealed.isEmpty = true) :
    ∃ outcome mail' reader' stream,
      Connection.readBytes suite n ⟨some reader, .secure layer', address', resolution'⟩
        link.listening = (outcome, reader', stream) ∧
      mail.GetsBytes n outcome mail' ∧
      Secure suite mail' ⟨⟨writer, .secure layer, address, resolution⟩, reader',
        .ofListening stream⟩ := by
  obtain ⟨some_tokens, le⟩ := acceptable _ List.mem_cons_self
  have some_octets : piece ≠ [] := by simpa [Parcel.tokens] using some_tokens
  have first := tokens
  rw [Buffer.isEmpty_iff.1 nothing, List.map_nil, List.nil_append] at first
  unfold Connection.readBytes
  simp only [if_neg some_asked]
  rcases transit.readFrame_first opens valid le with
    ⟨reader', stream', read, transit'⟩ |
    ⟨not_there, state', reader', stream', read, valid', receiver, transit'⟩
  · -- The whole frame is there.
    simp only [SecureLayer.unsealSome_of_message nothing read some_octets, Buffer.take_eq,
      Buffer.toBytes_ofBytes]
    refine ⟨_, _, _, _, rfl, .octets ?_ ?_ ?_, .intro parcels (transit' _) (by rintro n ⟨⟩)
      (fun parcel mem => acceptable parcel (List.mem_cons_of_mem _ mem)) place rfl all_sealed⟩
    · rw [first, List.flatMap_cons, Parcel.tokens, Buffer.toBytes_drop, Buffer.toBytes_ofBytes]
      simp only [← List.append_assoc, ← List.map_append, List.take_append_drop]
      rfl
    · rw [Ne, List.take_eq_nil_iff, not_or]
      exact ⟨some_asked, some_octets⟩
    · rw [List.length_take]
      exact Nat.min_le_left _ _
  · -- A part of the frame is missing, and the reader waits for it.
    simp only [SecureLayer.unsealSome_of_wait nothing read]
    have some_left : mail.tokens ≠ [] := by
      rw [first, List.flatMap_cons]
      simp only [Ne, List.append_eq_nil_iff, some_tokens, false_and, not_false_iff]
    refine ⟨_, _, _, _, rfl, .waiting (.inr ⟨some_left, not_there⟩),
      .intro (.octets piece :: parcels) ?_ valid' acceptable (by rw [place, receiver]; rfl) tokens
      all_sealed⟩
    rw [receiver]
    exact transit'

end Reading

/-- Octets are read as they were written. -/
theorem readBytes (opens : suite.Opens) (secure : line.Secure suite mail) {n : Nat}
    (some_asked : n ≠ 0) (fits : mail.Fits (.bytes n : ReadCall α)) :
    ∃ outcome mail' reader stream,
      line.reader.readBytes suite n line.link.listening = (outcome, reader, stream) ∧
      mail.GetsBytes n outcome mail' ∧
      Secure suite mail' { line with reader, link := .ofListening stream } := by
  have kept := secure
  cases secure with
  | @intro writer reader layer layer' address address' resolution resolution' link parcels transit
      valid acceptable place tokens all_sealed =>
    by_cases nothing : layer'.unsealed.isEmpty = true
    · have first := tokens
      rw [Buffer.isEmpty_iff.1 nothing, List.map_nil, List.nil_append] at first
      -- It depends on the first frame on its way, which is no object where octets are to be read.
      match parcels with
      | [] => exact readBytes_nothing opens transit valid place first all_sealed some_asked nothing
      | .object text :: parcels => exact absurd first (fits.no_object some_asked text _)
      | .octets piece :: parcels =>
        exact readBytes_octets opens transit valid acceptable place tokens all_sealed some_asked
          nothing
    · exact kept.readBytes_unsealed some_asked nothing

/-- When nothing is on its way where an object is to be read, the reader finds the end of a closed
line, and waits on one that is open. -/
theorem readFrame_nothing {writer : Option Wire} {reader : Wire} {layer layer' : SecureLayer}
    {address address' : Option Endpoint} {resolution resolution' : Resolution} {link : Link}
    (opens : suite.Opens)
    (transit : Transit mail writer (head layer'.frames) reader link.listening.inbound [])
    (valid : Valid layer'.frames) (place : layer.sender = layer'.frames.receiver)
    (none_unsealed : layer'.unsealed.toBytes = []) (tokens : mail.tokens = [])
    (none_pending : layer.pending.toBytes = []) :
    ∃ outcome mail' reader' stream,
      Connection.readFrame suite ⟨some reader, .secure layer', address', resolution'⟩
        link.listening = (outcome, reader', stream) ∧
      mail.GetsFrame outcome mail' ∧
      Secure suite mail' ⟨⟨writer, .secure layer, address, resolution⟩, reader',
        .ofListening stream⟩ := by
  obtain ⟨state', reader', stream', read, valid', receiver, transit'⟩ :=
    transit.readFrame_nothing opens valid
  have kept : Secure suite mail ⟨⟨writer, .secure layer, address, resolution⟩,
      ⟨some reader', .secure { layer' with frames := state' }, address', resolution'⟩,
      .ofListening stream'⟩ := by
    refine .intro [] transit' valid' (by simp) (by rw [place, receiver]; rfl) ?_
      fun _ => none_pending
    rw [tokens, none_unsealed, none_pending]
    rfl
  unfold Connection.readFrame
  cases closed : mail.closed with
  | true =>
    rw [closed, if_pos rfl] at read
    simp only [read]
    exact ⟨_, _, _, _, rfl, .stop tokens closed, kept⟩
  | false =>
    rw [closed, if_neg (by simp)] at read
    simp only [read]
    exact ⟨_, _, _, _, rfl, .waiting (.inl ⟨tokens, closed⟩), kept⟩

/-- An object is read as it was written. -/
theorem readFrame (opens : suite.Opens) (secure : line.Secure suite mail)
    (fits : ∀ octet rest, mail.tokens ≠ .octet octet :: rest) :
    ∃ outcome mail' reader stream,
      line.reader.readFrame suite line.link.listening = (outcome, reader, stream) ∧
      mail.GetsFrame outcome mail' ∧
      Secure suite mail' { line with reader, link := .ofListening stream } := by
  cases secure with
  | @intro writer reader layer layer' address address' resolution resolution' link parcels transit
      valid acceptable place tokens all_sealed =>
    have transit : Transit mail writer (head layer'.frames) reader link.listening.inbound _ :=
      transit
    -- Octets in front of everything else would be the first token, which is no octet here.
    have no_octets {octets : Bytes} {rest : List Token}
        (first : mail.tokens = octets.map .octet ++ rest) : octets = [] := by
      match octets with
      | [] => rfl
      | octet :: octets => exact absurd first (fits octet _)
    have none_unsealed : layer'.unsealed.toBytes = [] := by
      rw [List.append_assoc] at tokens
      exact no_octets tokens
    have first := tokens
    rw [none_unsealed, List.map_nil, List.nil_append] at first
    match parcels with
    | [] =>
      have none_pending : layer.pending.toBytes = [] :=
        no_octets (first.trans (List.append_nil _).symm)
      have nothing_left : mail.tokens = [] := by
        rw [first, none_pending]
        rfl
      exact readFrame_nothing opens transit valid place none_unsealed nothing_left none_pending
    | .octets piece :: parcels =>
      rw [List.flatMap_cons, List.append_assoc] at first
      exact absurd (congrArg (List.map Token.octet) (no_octets first))
        (acceptable _ List.mem_cons_self).1
    | .object text :: parcels =>
      obtain ⟨-, le⟩ := acceptable _ List.mem_cons_self
      unfold Connection.readFrame
      rcases transit.readFrame_first opens valid le with
        ⟨reader', stream', read, transit'⟩ |
        ⟨not_there, state', reader', stream', read, valid', receiver, transit'⟩
      · -- The whole frame is there.
        simp only [read]
        refine ⟨_, _, _, _, rfl, .object first, .intro parcels (transit' _) (by rintro n ⟨⟩)
          (fun parcel mem => acceptable parcel (List.mem_cons_of_mem _ mem)) place ?_ all_sealed⟩
        rw [none_unsealed]
        rfl
      · -- A part of the frame is missing, and the reader waits for it.
        simp only [read]
        have some_left : mail.tokens ≠ [] := by
          rw [first]
          simp [Parcel.tokens]
        refine ⟨_, _, _, _, rfl, .waiting (.inr ⟨some_left, not_there⟩),
          .intro (.object text :: parcels) ?_ valid' acceptable (by rw [place, receiver]) tokens
          all_sealed⟩
        rw [receiver]
        exact transit'

section Writing

variable {writer reader : Wire} {layer layer' : SecureLayer} {address address' : Option Endpoint}
  {resolution resolution' : Resolution} {link : Link}

/-- Octets are pending until they are sealed. -/
theorem octets_put (secure : Secure suite mail ⟨⟨some writer, .secure layer, address, resolution⟩,
    ⟨some reader, .secure layer', address', resolution'⟩, link⟩) (bytes : Bytes) :
    Secure suite (mail.put bytes)
      ⟨⟨some writer, .secure { layer with pending := layer.pending.append bytes }, address,
        resolution⟩, ⟨some reader, .secure layer', address', resolution'⟩, link⟩ := by
  cases secure with
  | intro parcels transit valid acceptable place tokens all_sealed =>
    have transit' : Transit (mail.put bytes) (some writer) (head layer'.frames) reader link.forth
        (frames suite layer'.frames.receiver (parcels.map Parcel.text) ++ []) :=
      transit.put (List.append_nil _).symm _ (by rintro ⟨⟩)
    rw [List.append_nil] at transit'
    refine .intro parcels transit' valid acceptable place ?_ (by rintro ⟨⟩)
    show mail.tokens ++ bytes.map Token.octet = _
    rw [tokens, Buffer.toBytes_append, List.map_append, List.append_assoc]

/-- An object is sealed behind everything else when nothing is pending. -/
theorem object_put (secure : Secure suite mail ⟨⟨some writer, .secure layer, address, resolution⟩,
    ⟨some reader, .secure layer', address', resolution'⟩, link⟩)
    (none_pending : layer.pending = .empty) {text : Bytes} (small : text.length ≤ maxPayload) :
    Secure suite { mail with tokens := mail.tokens ++ [.object text], flushed := false }
      ⟨⟨some (writer.put (frame suite layer.sender text)),
        .secure { layer with sender := layer.sender.advance suite }, address, resolution⟩,
        ⟨some reader, .secure layer', address', resolution'⟩, link⟩ := by
  cases secure with
  | intro parcels transit valid acceptable place tokens all_sealed =>
    have transit' := transit.put (writer.toBytes_unwritten_put (frame suite layer.sender text))
      (mail.tokens ++ [Token.object text]) (show false = true → _ by rintro ⟨⟩)
    -- The half seals behind as many frames as there are parcels on their way.
    have octets : frames suite layer'.frames.receiver (parcels.map Parcel.text) ++
        frame suite layer.sender text =
          frames suite layer'.frames.receiver
            ((parcels ++ [Parcel.object text]).map Parcel.text) := by
      rw [List.map_append, frames_append, List.length_map, ← place]
      congr 1
      exact (List.append_nil _).symm
    rw [octets] at transit'
    refine .intro (parcels ++ [.object text]) transit' valid ?_ ?_ ?_ (by rintro ⟨⟩)
    · intro parcel mem
      rcases List.mem_append.1 mem with mem | mem
      · exact acceptable parcel mem
      · obtain rfl := List.mem_singleton.1 mem
        exact ⟨by simp [Parcel.tokens], small⟩
    · show layer.sender.advance suite = _
      rw [place, List.length_append, List.length_singleton, Sealing.after_succ]
    · show mail.tokens ++ [Token.object text] = _ ++ layer.pending.toBytes.map Token.octet
      rw [tokens, none_pending, Buffer.toBytes_empty, List.map_nil, List.append_nil,
        List.append_nil, List.flatMap_append, List.append_assoc]
      rfl

/-- Everything is written when nothing is pending. -/
theorem all_flushed (secure : Secure suite mail
    ⟨⟨some writer, .secure layer, address, resolution⟩,
      ⟨some reader, .secure layer', address', resolution'⟩, link⟩)
    (none_pending : layer.pending = .empty) :
    ∃ stream, writer.flush link.dialing =
        (.ok (), { writer with unwritten := .empty }, stream) ∧
      Secure suite { mail with flushed := true }
        ⟨⟨some { writer with unwritten := .empty }, .secure layer, address, resolution⟩,
          ⟨some reader, .secure layer', address', resolution'⟩, .ofDialing stream⟩ := by
  cases secure with
  | intro parcels transit valid acceptable place tokens all_sealed =>
    obtain ⟨stream, flushed, -, transit'⟩ := @Transit.flush _ _ _ link.dialing _ _ transit
    refine ⟨stream, flushed, .intro parcels transit' valid acceptable place tokens fun _ => ?_⟩
    rw [none_pending, Buffer.toBytes_empty]

/-- The stream is ended and let go of once everything is written. -/
theorem closed (secure : Secure suite mail ⟨⟨some writer, .secure layer, address, resolution⟩,
    ⟨some reader, .secure layer', address', resolution'⟩, link⟩) (flushed : mail.flushed = true) :
    link.dialing.shutdown.1 = .ok () ∧
      Secure suite { mail with closed := true }
        ⟨⟨none, .secure layer, address, resolution⟩,
          ⟨some reader, .secure layer', address', resolution'⟩,
          .ofDialing link.dialing.release⟩ := by
  cases secure with
  | intro parcels transit valid acceptable place tokens all_sealed =>
    obtain ⟨ended, transit'⟩ := @Transit.close _ _ _ link.dialing _ _ transit flushed
    exact ⟨ended, .intro parcels transit' valid acceptable place tokens all_sealed⟩

end Writing

/-- What is written goes on its way. -/
theorem write (secure : line.Secure suite mail) (call : WriteCall) :
    ∃ outcome mail' writer stream,
      line.writer.write suite call line.link.dialing = (outcome, writer, stream) ∧
      Delivers maxPayload mail (.write call : Event α) (.wrote outcome) mail' ∧
      Secure suite mail' { line with writer, link := .ofDialing stream } := by
  have kept := secure
  cases secure with
  | @intro writer reader layer layer' address address' resolution resolution' link parcels transit
      valid acceptable place tokens all_sealed =>
    rcases transit.writer_cases with ⟨closed, rfl⟩ | ⟨opened, wire, rfl⟩
    · obtain ⟨outcome, written, delivers⟩ := Delivers.of_closed closed (transit.settled closed)
        suite (show Connection.wire ⟨none, .secure layer, address, resolution⟩ = none from rfl)
        maxPayload call link.dialing
      exact ⟨outcome, mail, _, _, written, delivers, kept⟩
    · -- Every call but those that write octets seals the pending ones first.
      obtain ⟨none_pending, secured⟩ := kept.sealPending
      cases call with
      | byte octet => exact ⟨_, _, _, _, rfl, .byte octet opened, kept.octets_put [octet]⟩
      | bytes bytes => exact ⟨_, _, _, _, rfl, .bytes bytes opened, kept.octets_put bytes⟩
      | object object =>
        unfold Connection.write Connection.writeObject
        by_cases small : object.encode.length ≤ maxPayload
        · obtain ⟨stream, flushed, secured'⟩ :=
            (secured.object_put none_pending small).all_flushed none_pending
          simp only [encode?_eq, if_pos small, Connection.flushWire, flushed]
          exact ⟨_, _, _, _, rfl, .object object opened small, secured'⟩
        · simp only [encode?_eq, if_neg small]
          exact ⟨_, _, _, _, rfl, .tooLarge object opened (Nat.lt_of_not_le small), secured⟩
      | flush =>
        obtain ⟨stream, flushed, secured'⟩ := secured.all_flushed none_pending
        unfold Connection.write Connection.flush
        simp only [Connection.sealPending, Connection.flushWire, flushed]
        exact ⟨_, _, _, _, rfl, .flush opened, secured'⟩
      | close =>
        obtain ⟨stream, flushed, secured'⟩ := secured.all_flushed none_pending
        obtain ⟨ended, secured''⟩ := secured'.closed rfl
        rw [Link.dialing_ofDialing] at ended
        unfold Connection.write Connection.close
        simp only [Connection.sealPending, flushed, ended, Stream.release_shutdown]
        exact ⟨_, _, _, _, rfl, .close, secured''⟩

end Secure

end Line

end PeerLink
