import PeerLink.Proofs.Connection.Delivery
import PeerLink.Proofs.Connection.Tray
import PeerLink.Proofs.Json.Tagged

/-!
# The order in which plaintext is handed out

`Line.Stands` ties a line of secure connections to a tray, and every event keeps the tie and comes
to what the tray says (`Line.Stands.happen`). So plaintext is handed out in the order in which it
was sealed as long as no object is read while octets of an earlier message are unread: an object
overtakes them, and they are handed out behind it.
-/

namespace PeerLink

open SealedFrames

namespace Line

/-- A line of secure connections at a tray. -/
inductive Stands (suite : Suite) (tray : Tray) : Line → Prop
  /-- The frames of the messages that are sealed and not unsealed are on their way. -/
  | intro {writer : Option Wire} {reader : Wire} {layer layer' : SecureLayer}
      {address address' : Option Endpoint} {resolution resolution' : Resolution} {link : Link}
      (transit : Transit tray.mail writer (head layer'.frames) reader link.forth
        (frames suite layer'.frames.receiver tray.sealed))
      (valid : Valid layer'.frames)
      (acceptable : ∀ text ∈ tray.sealed, text ≠ [] ∧ text.length ≤ maxPayload)
      (place : layer.sender = layer'.frames.receiver.after suite tray.sealed.length)
      (pending : layer.pending.toBytes = tray.pending)
      (unsealed : layer'.unsealed.toBytes = tray.rest)
      (all_sealed : tray.flushed = true → tray.pending = []) :
      Stands suite tray ⟨⟨writer, .secure layer, address, resolution⟩,
        ⟨some reader, .secure layer', address', resolution'⟩, link⟩

namespace Stands

variable {α : Type} {suite : Suite} {tray : Tray} {line : Line}

section Writing

variable {writer reader : Wire} {layer layer' : SecureLayer} {address address' : Option Endpoint}
  {resolution resolution' : Resolution} {link : Link}

/-- Octets are pending until they are sealed. -/
theorem octets_put (stands : Stands suite tray
    ⟨⟨some writer, .secure layer, address, resolution⟩,
      ⟨some reader, .secure layer', address', resolution'⟩, link⟩) (bytes : Bytes) :
    Stands suite { tray with pending := tray.pending ++ bytes, flushed := false }
      ⟨⟨some writer, .secure { layer with pending := layer.pending.append bytes }, address,
        resolution⟩, ⟨some reader, .secure layer', address', resolution'⟩, link⟩ := by
  cases stands with
  | intro transit valid acceptable place pending unsealed all_sealed =>
    have none_added : writer.unwritten.toBytes = writer.unwritten.toBytes ++ [] :=
      (List.append_nil _).symm
    have transit' := transit.put none_added [] (show false = true → _ by rintro ⟨⟩)
    rw [List.append_nil] at transit'
    refine .intro transit' valid acceptable place ?_ unsealed (by rintro ⟨⟩)
    rw [Buffer.toBytes_append, pending]

/-- The pending octets are sealed in pieces. -/
theorem sealPending (stands : Stands suite tray
    ⟨⟨some writer, .secure layer, address, resolution⟩,
      ⟨some reader, .secure layer', address', resolution'⟩, link⟩) :
    Stands suite tray.sealAll
      ⟨⟨some (layer.sealPending suite writer).1, .secure (layer.sealPending suite writer).2,
        address, resolution⟩, ⟨some reader, .secure layer', address', resolution'⟩, link⟩ := by
  cases stands with
  | intro transit valid acceptable place pending unsealed all_sealed =>
    obtain ⟨octets, half⟩ :=
      sealFrames_pieces suite layer.sender writer.unwritten layer.pending.toBytes
    have unchanged (flushed : tray.flushed = true) :
        tray.flushed = true ∧ frames suite layer.sender (pieces layer.pending.toBytes) = [] := by
      rw [pending, all_sealed flushed, pieces]
      exact ⟨flushed, rfl⟩
    have transit' := transit.put (show (layer.sealPending suite writer).1.unwritten.toBytes =
      writer.unwritten.toBytes ++ frames suite layer.sender (pieces layer.pending.toBytes)
      from octets) [] unchanged
    refine .intro ?_ valid ?_ ?_ Buffer.toBytes_empty unsealed fun _ => rfl
    · show Transit _ _ _ _ _ (frames suite _ (tray.sealed ++ pieces tray.pending))
      rw [frames_append, ← place, ← pending]
      exact transit'
    · intro text mem
      rcases List.mem_append.1 mem with mem | mem
      · exact acceptable text mem
      · exact fits_of_mem_pieces mem
    · show (sealFrames suite layer.sender writer.unwritten layer.pending.toBytes).2 =
        Sealing.after suite (tray.sealed ++ pieces tray.pending).length _
      rw [half, place, List.length_append, Sealing.after_add, pending]

/-- An object that is put on the wire is the last message. -/
theorem object_put (stands : Stands suite tray
    ⟨⟨some writer, .secure layer, address, resolution⟩,
      ⟨some reader, .secure layer', address', resolution'⟩, link⟩)
    (none_pending : tray.pending = []) {text : Bytes} (some_octets : text ≠ [])
    (small : text.length ≤ maxPayload) :
    Stands suite { tray with sealed := tray.sealed ++ [text], flushed := false }
      ⟨⟨some (writer.put (frame suite layer.sender text)),
          .secure { layer with sender := layer.sender.advance suite }, address, resolution⟩,
        ⟨some reader, .secure layer', address', resolution'⟩, link⟩ := by
  cases stands with
  | intro transit valid acceptable place pending unsealed all_sealed =>
    have transit' := transit.put
      (writer.toBytes_unwritten_put (frame suite layer.sender text)) []
      (show false = true → _ by rintro ⟨⟩)
    refine .intro ?_ valid ?_ ?_ pending unsealed fun _ => none_pending
    · rw [frames_append, ← place, frames, frames, List.append_nil]
      exact transit'
    · intro text' mem
      rcases List.mem_append.1 mem with mem | mem
      · exact acceptable text' mem
      · obtain rfl := List.mem_singleton.1 mem
        exact ⟨some_octets, small⟩
    · show layer.sender.advance suite = _
      rw [place, List.length_append, List.length_singleton, Sealing.after_succ]

/-- Everything is written when nothing is pending. -/
theorem all_flushed (stands : Stands suite tray
    ⟨⟨some writer, .secure layer, address, resolution⟩,
      ⟨some reader, .secure layer', address', resolution'⟩, link⟩)
    (none_pending : tray.pending = []) :
    ∃ stream, writer.flush link.dialing =
        (.ok (), { writer with unwritten := .empty }, stream) ∧
      Stands suite { tray with flushed := true }
        ⟨⟨some { writer with unwritten := .empty }, .secure layer, address, resolution⟩,
          ⟨some reader, .secure layer', address', resolution'⟩, .ofDialing stream⟩ := by
  cases stands with
  | intro transit valid acceptable place pending unsealed all_sealed =>
    obtain ⟨stream, flushed, -, transit'⟩ := @Transit.flush _ _ _ link.dialing _ _ transit
    exact ⟨stream, flushed, transit', valid, acceptable, place, pending, unsealed,
      fun _ => none_pending⟩

/-- The stream is ended and let go of once everything is written. -/
theorem closed (stands : Stands suite tray
    ⟨⟨some writer, .secure layer, address, resolution⟩,
      ⟨some reader, .secure layer', address', resolution'⟩, link⟩)
    (flushed : tray.flushed = true) :
    link.dialing.shutdown.1 = .ok () ∧
      Stands suite { tray with closed := true }
        ⟨⟨none, .secure layer, address, resolution⟩,
          ⟨some reader, .secure layer', address', resolution'⟩,
          .ofDialing link.dialing.release⟩ := by
  cases stands with
  | intro transit valid acceptable place pending unsealed all_sealed =>
    obtain ⟨ended, transit'⟩ := @Transit.close _ _ _ link.dialing _ _ transit flushed
    exact ⟨ended, transit', valid, acceptable, place, pending, unsealed, all_sealed⟩

end Writing

/-- What is written is sealed or pending. -/
theorem write (stands : line.Stands suite tray) (call : WriteCall) :
    ∃ outcome tray' writer stream,
      line.writer.write suite call line.link.dialing = (outcome, writer, stream) ∧
      tray.Writes call outcome tray' ∧
      Stands suite tray' { line with writer, link := .ofDialing stream } := by
  have kept := stands
  cases stands with
  | @intro writer reader layer layer' address address' resolution resolution' link transit valid
      acceptable place pending unsealed all_sealed =>
    rcases transit.writer_cases with ⟨closed, rfl⟩ | ⟨opened, wire, rfl⟩
    · have closed : tray.closed = true := closed
      cases call with
      | byte octet => exact ⟨_, tray, _, _, rfl, .refused closed (by simp), kept⟩
      | bytes bytes => exact ⟨_, tray, _, _, rfl, .refused closed (by simp), kept⟩
      | object object => exact ⟨_, tray, _, _, rfl, .refused closed (by simp), kept⟩
      | flush => exact ⟨_, tray, _, _, rfl, .refused closed (by simp), kept⟩
      | close => exact ⟨_, tray, _, _, rfl, .closeAgain closed, kept⟩
    · have opened : tray.closed = false := opened
      -- Every call but those that write octets seals the pending ones first.
      have sealed := kept.sealPending
      cases call with
      | byte octet => exact ⟨_, _, _, _, rfl, .byte octet opened, kept.octets_put [octet]⟩
      | bytes bytes => exact ⟨_, _, _, _, rfl, .bytes bytes opened, kept.octets_put bytes⟩
      | object object =>
        unfold Connection.write Connection.writeObject
        by_cases small : object.encode.length ≤ maxPayload
        · obtain ⟨stream, flushed, sealed'⟩ :=
            (sealed.object_put rfl object.encode_ne_nil small).all_flushed rfl
          simp only [encode?_eq, if_pos small, Connection.flushWire, flushed]
          exact ⟨_, _, _, _, rfl, .object object opened small, sealed'⟩
        · simp only [encode?_eq, if_neg small]
          exact ⟨_, _, _, _, rfl, .tooLarge object opened (Nat.lt_of_not_le small), sealed⟩
      | flush =>
        obtain ⟨stream, flushed, sealed'⟩ := sealed.all_flushed rfl
        unfold Connection.write Connection.flush
        simp only [Connection.sealPending, Connection.flushWire, flushed]
        exact ⟨_, _, _, _, rfl, .flush opened, sealed'⟩
      | close =>
        obtain ⟨stream, flushed, sealed'⟩ := sealed.all_flushed rfl
        obtain ⟨ended, sealed''⟩ := sealed'.closed rfl
        rw [Link.dialing_ofDialing] at ended
        unfold Connection.write Connection.close
        simp only [Connection.sealPending, flushed, ended, Stream.release_shutdown]
        exact ⟨_, _, _, _, rfl, .close opened, sealed''⟩

/-- The next frame is read, or the stream is at its end, or the reader waits. -/
theorem readWire (opens : suite.Opens) {writer : Option Wire} {reader : Wire}
    {layer layer' : SecureLayer} {address address' : Option Endpoint}
    {resolution resolution' : Resolution} {link : Link}
    (stands : Stands suite tray ⟨⟨writer, .secure layer, address, resolution⟩,
      ⟨some reader, .secure layer', address', resolution'⟩, link⟩) :
    ∃ outcome tray' frames reader' stream',
      reader.readFrame (framing suite) layer'.frames link.listening =
        (outcome, frames, reader', stream') ∧
      tray.GetsFrame (outcome.mapError .ofFrames) tray' ∧
      Stands suite tray' ⟨⟨writer, .secure layer, address, resolution⟩,
        ⟨some reader', .secure { layer' with frames }, address', resolution'⟩,
        .ofListening stream'⟩ := by
  cases stands with
  | intro transit valid acceptable place pending unsealed all_sealed =>
    have transit : Transit tray.mail writer (head layer'.frames) reader link.listening.inbound _ :=
      transit
    -- It is the first frame on its way that the reader gets, if there is one.
    match sealed : tray.sealed with
    | [] =>
      rw [sealed] at transit
      obtain ⟨state', reader', stream', read, valid', receiver, transit'⟩ :=
        transit.readFrame_nothing opens valid
      have kept : Stands suite tray ⟨⟨writer, .secure layer, address, resolution⟩,
          ⟨some reader', .secure { layer' with frames := state' }, address', resolution'⟩,
          .ofListening stream'⟩ := by
        refine .intro ?_ valid' acceptable (by rw [place, receiver]) pending unsealed all_sealed
        rw [sealed]
        exact transit'
      cases closed : tray.closed with
      | true =>
        rw [show tray.mail.closed = true from closed, if_pos rfl] at read
        exact ⟨_, _, _, _, _, read, .stop sealed closed, kept⟩
      | false =>
        rw [show tray.mail.closed = false from closed, if_neg (by simp)] at read
        exact ⟨_, _, _, _, _, read, .waiting (.inl ⟨sealed, closed⟩), kept⟩
    | text :: later =>
      have later_acceptable (text' : Bytes) (mem : text' ∈ later) :=
        acceptable text' (by rw [sealed]; exact List.mem_cons_of_mem _ mem)
      obtain ⟨-, le⟩ := acceptable text (by rw [sealed]; exact List.mem_cons_self)
      rw [sealed] at transit place
      rcases transit.readFrame_first opens valid le with
        ⟨reader', stream', read, transit'⟩ |
        ⟨not_there, state', reader', stream', read, valid', receiver, transit'⟩
      · exact ⟨_, _, _, _, _, read, .next sealed, .intro (transit' []) (by rintro n ⟨⟩)
          later_acceptable place pending unsealed all_sealed⟩
      · refine ⟨_, tray, _, _, _, read, .waiting (.inr ⟨by simp [sealed], not_there⟩),
          .intro ?_ valid' acceptable ?_ pending unsealed all_sealed⟩
        · rw [sealed, receiver]
          exact transit'
        · rw [sealed, receiver]
          exact place

/-- Octets are read from the message that is begun, or from the next one. -/
theorem readBytes (opens : suite.Opens) (stands : line.Stands suite tray) {n : Nat}
    (some_asked : n ≠ 0) :
    ∃ outcome handouts tray' reader stream,
      line.reader.readBytes suite n line.link.listening = (outcome, reader, stream) ∧
      tray.GetsBytes n outcome handouts tray' ∧
      Stands suite tray' { line with reader, link := .ofListening stream } := by
  have kept := stands
  cases stands with
  | @intro writer reader layer layer' address address' resolution resolution' link transit valid
      acceptable place pending unsealed all_sealed =>
    unfold Connection.readBytes
    simp only [if_neg some_asked]
    by_cases nothing : layer'.unsealed.isEmpty = true
    · have none_left : tray.rest = [] := by rw [← unsealed, Buffer.isEmpty_iff.1 nothing]
      obtain ⟨outcome, tray', frames, reader', stream', read, gets, stands'⟩ := kept.readWire opens
      match outcome, gets with
      | .done (some text), .next sealed =>
        -- No message is empty, so that the first one is begun.
        obtain ⟨some_octets, -⟩ := acceptable text (by rw [sealed]; exact List.mem_cons_self)
        simp only [SecureLayer.unsealSome_of_message nothing read some_octets, Buffer.take_eq,
          Buffer.toBytes_ofBytes]
        refine ⟨_, _, _, _, _, rfl, .next none_left sealed, ?_⟩
        cases stands' with
        | intro transit' valid' acceptable' place' pending' unsealed' all_sealed' =>
          refine .intro transit' valid' acceptable' place' pending' ?_ all_sealed'
          rw [Buffer.toBytes_drop, Buffer.toBytes_ofBytes]
      | .done none, .stop nothing_sealed closed =>
        simp only [SecureLayer.unsealSome_of_stop nothing read, Buffer.take_eq, unsealed,
          none_left, List.take_nil]
        refine ⟨_, _, _, _, _, rfl, .stop none_left nothing_sealed closed, ?_⟩
        cases stands' with
        | intro transit' valid' acceptable' place' pending' unsealed' all_sealed' =>
          refine .intro transit' valid' acceptable' place' pending' ?_ all_sealed'
          rw [Buffer.toBytes_drop, unsealed, none_left, List.drop_nil]
      | .waiting, .waiting waits =>
        simp only [SecureLayer.unsealSome_of_wait nothing read]
        exact ⟨_, _, _, _, _, rfl, .waiting none_left waits, stands'⟩
    · have some_left : tray.rest ≠ [] := by
        rw [← unsealed]
        exact fun h => nothing (Buffer.isEmpty_iff.2 h)
      simp only [SecureLayer.unsealSome_of_unsealed nothing, Buffer.take_eq, unsealed]
      refine ⟨_, _, _, _, _, rfl, .rest some_left, .intro transit valid acceptable place pending ?_
        all_sealed⟩
      rw [Buffer.toBytes_drop, unsealed]

/-- A call of the reader is answered from the tray, whether or not it mirrors the writer. -/
theorem call (opens : suite.Opens) (stands : line.Stands suite tray) (call : ReadCall α) :
    ∃ answer handouts tray' reader stream,
      line.reader.call suite call line.link.listening = (answer, reader, stream) ∧
      Hands tray (.read call) (.read answer) handouts tray' ∧
      Stands suite tray' { line with reader, link := .ofListening stream } := by
  cases call with
  | byte =>
    obtain ⟨outcome, handouts, tray', reader, stream, read, gets, stands'⟩ :=
      stands.readBytes opens Nat.one_ne_zero
    rw [Connection.call_byte, read]
    exact ⟨_, _, _, _, _, rfl, .byte gets, stands'⟩
  | bytes n =>
    by_cases some_asked : n = 0
    · subst some_asked
      have kept := stands
      cases stands
      exact ⟨_, _, _, _, _, rfl, .nothing, kept⟩
    · obtain ⟨outcome, handouts, tray', reader, stream, read, gets, stands'⟩ :=
        stands.readBytes opens some_asked
      unfold Connection.call
      simp only [read]
      exact ⟨_, _, _, _, _, rfl, .bytes some_asked gets, stands'⟩
  | object decoder =>
    have kept := stands
    cases stands with
    | @intro writer reader layer layer' address address' resolution resolution' link transit valid
        acceptable place pending unsealed all_sealed =>
      -- An object is the next frame, whatever is unsealed already.
      obtain ⟨outcome, tray', frames, reader', stream', read, gets, stands'⟩ := kept.readWire opens
      unfold Connection.call Connection.readObject Connection.readFrame
      simp only [read]
      match outcome, gets with
      | .done (some text), gets =>
        cases decodes : decoder.decode text with
        | ok value =>
          simp only [Outcome.mapError, decodes]
          exact ⟨_, _, _, _, _, rfl, .object gets decodes, stands'⟩
        | error fault =>
          simp only [Outcome.mapError, decodes]
          exact ⟨_, _, _, _, _, rfl, .unreadable gets decodes, stands'⟩
      | .done none, gets => exact ⟨_, _, _, _, _, rfl, .endObject gets, stands'⟩
      | .waiting, gets => exact ⟨_, _, _, _, _, rfl, .waitObject gets, stands'⟩

/-- The network may hold octets back, or let all of them through. -/
theorem hold (stands : line.Stands suite tray) (gate : Option Nat) :
    Stands suite { tray with free := gate.isNone }
      { line with link := { line.link with forth := { line.link.forth with gate } } } := by
  cases stands with
  | intro transit valid acceptable place pending unsealed all_sealed =>
    exact .intro (transit.hold gate) valid acceptable place pending unsealed all_sealed

/-- An event comes to what the tray says, and the line is at the tray behind it. -/
theorem happen (opens : suite.Opens) (stands : line.Stands suite tray) (event : Event α) :
    ∃ handouts tray', Hands tray event (line.happen suite event).1 handouts tray' ∧
      Stands suite tray' (line.happen suite event).2 := by
  cases event with
  | write call =>
    obtain ⟨outcome, tray', writer, stream, written, writes, stands'⟩ := stands.write call
    unfold Line.happen
    simp only [written]
    exact ⟨_, tray', .wrote writes, stands'⟩
  | read call =>
    obtain ⟨answer, handouts, tray', reader, stream, read, hands, stands'⟩ :=
      stands.call opens call
    unfold Line.happen
    simp only [read]
    exact ⟨handouts, tray', hands, stands'⟩
  | hold gate => exact ⟨_, _, .held gate, stands.hold gate⟩

/-- Whatever happens on a line, what is handed out is what the tray says. -/
theorem hands_out (opens : suite.Opens) (stands : line.Stands suite tray)
    (events : List (Event α)) :
    ∃ handouts, HandsOut tray (line.reports suite events) handouts := by
  induction events generalizing tray line with
  | nil => exact ⟨[], .nil⟩
  | cons event events ih =>
    obtain ⟨handouts, tray', hands, stands'⟩ := stands.happen opens event
    obtain ⟨handouts', hands_out⟩ := ih stands'
    exact ⟨handouts ++ handouts', .cons hands hands_out⟩

end Stands

/-- A line of secure connections is at the empty tray when it begins. -/
theorem Connected.stands {suite : Suite} {line : Line} (opens : suite.Opens)
    (connected : line.Connected suite) (secure : line.writer.isSecure = true) :
    Stands suite (.start line.link.forth.gate.isNone) line := by
  have carries := connected.carries opens
  generalize line.limit = limit at carries
  cases carries with
  | bare bare =>
    cases bare
    simp [Connection.isSecure] at secure
  | secure secured =>
    cases secured with
    | intro parcels transit valid acceptable place tokens all_sealed =>
      -- Without tokens there is no parcel, and nothing is unsealed or pending.
      have nothing := tokens.symm
      simp only [Mail.start, List.append_eq_nil_iff, List.map_eq_nil_iff,
        List.flatMap_eq_nil_iff] at nothing
      obtain ⟨⟨unsealed, none_parcels⟩, pending⟩ := nothing
      obtain rfl : parcels = [] := by
        cases parcels with
        | nil => rfl
        | cons parcel parcels =>
          exact absurd (none_parcels parcel List.mem_cons_self)
            (acceptable parcel List.mem_cons_self).1
      exact .intro transit valid (by rintro text ⟨⟩) place pending unsealed fun _ => rfl

/-- Plaintext is handed out in the order in which it was sealed exactly if no object overtakes
octets, whatever the writer writes, whatever the reader asks for and whatever the network holds
back. -/
theorem plaintext_in_order_iff {α : Type} {suite : Suite} {line : Line} (opens : suite.Opens)
    (connected : line.Connected suite) (secure : line.writer.isSecure = true)
    (events : List (Event α)) :
    ∃ handouts,
      HandsOut (.start line.link.forth.gate.isNone) (line.reports suite events) handouts ∧
        (Handout.InOrder handouts ↔ ¬ Handout.Overtaken handouts) := by
  have stands := connected.stands opens secure
  obtain ⟨handouts, hands_out⟩ := stands.hands_out opens events
  have tidy : (Tray.start line.link.forth.gate.isNone).Tidy := fun some_left => absurd rfl some_left
  exact ⟨handouts, hands_out, hands_out.inOrder_iff tidy⟩

/-- The line of a dialer and a listener that both have a secure channel. -/
theorem plaintext_in_order_iff_of_expecting :
    Suite.standard.Opens ∧ ∃ line : Line, line.Connected .standard ∧ line.writer.isSecure = true ∧
      ∃ handouts, HandsOut (.start line.link.forth.gate.isNone) (line.reports .standard
          [.write (.bytes [104, 105]), .write (.object .null), .read (.bytes 1),
            .read (.object Json.Decoder.string), .read .byte]) handouts ∧
        (Handout.InOrder handouts ↔ ¬ Handout.Overtaken handouts) := by
  have opens := Suite.opens_standard
  obtain ⟨line, connected, secure⟩ := exists_connected_secure
  exact ⟨opens, line, connected, secure, plaintext_in_order_iff opens connected secure _⟩

/-- An object overtakes octets that are unread, when the reader asks for it before it has read
them. -/
theorem plaintext_is_not_always_in_order :
    ¬ ∀ (suite : Suite) (line : Line), suite.Opens → line.Connected suite →
      line.writer.isSecure = true → ∀ (events : List (Event String)) (handouts : List Handout),
        HandsOut (.start line.link.forth.gate.isNone) (line.reports suite events) handouts →
          Handout.InOrder handouts := by
  intro law
  have opens := Suite.opens_standard
  obtain ⟨line, connected, secure⟩ := exists_connected_secure
  obtain ⟨handouts, hands_out⟩ := (connected.stands opens secure).hands_out opens
    [.hold none, .write (.bytes [104, 105]), .write (.object (.string "a")), .read (.bytes 1),
      .read (.object Json.Decoder.string), .read (.bytes 1)]
  have in_order := law _ _ opens connected secure _ _ hands_out
  have decodes : Json.Decoder.string.decode (Json.string "a").encode = .ok "a" :=
    Json.Decoder.decode_of_reads (Json.Decoder.reads_string _ "a")
  have small : (Json.string "a").encode.length ≤ maxPayload := by decide +kernel
  have one_piece : pieces [104, 105] = [[104, 105]] := pieces_of_fits (by simp) (by decide)
  obtain ⟨r₁, r₂, r₃, r₄, r₅, r₆, reports⟩ : ∃ r₁ r₂ r₃ r₄ r₅ r₆, line.reports .standard
      [.hold none, .write (.bytes [104, 105]), .write (.object (.string "a")), .read (.bytes 1),
        .read (.object Json.Decoder.string), .read (.bytes 1)] =
      [(_, r₁), (_, r₂), (_, r₃), (_, r₄), (_, r₅), (_, r₆)] := ⟨_, _, _, _, _, _, rfl⟩
  rw [reports] at hands_out
  obtain ⟨_, _, _, rfl, held, hands_out⟩ := hands_out.uncons
  obtain ⟨_, _, _, rfl, put, hands_out⟩ := hands_out.uncons
  obtain ⟨_, tray, _, rfl, posted, hands_out⟩ := hands_out.uncons
  obtain ⟨first, tray', _, rfl, first_read, hands_out⟩ := hands_out.uncons
  obtain ⟨second, tray'', _, rfl, object_read, hands_out⟩ := hands_out.uncons
  obtain ⟨third, _, _, rfl, second_read, -⟩ := hands_out.uncons
  -- The octets are pending until they are sealed in one message in front of the object.
  obtain rfl :
      tray = ⟨0, [[104, 105], (Json.string "a").encode], [], 0, [], true, false, true⟩ := by
    cases held
    rcases put with ⟨_ | _ | _ | _ | _ | _ | _ | closed⟩
    case refused => simp [Tray.start] at closed
    rcases posted with ⟨_ | _ | _ | ⟨_, _, large⟩ | _ | _ | _ | closed⟩
    case tooLarge => exact absurd small (Nat.not_le.2 large)
    case refused => simp [Tray.start] at closed
    simp [Tray.sealAll, Tray.start, one_piece]
  -- The reader takes one of them, then the object, and then the other one.
  obtain ⟨rfl, rfl⟩ : first = [.octets 0 [104]] ∧
      tray' = ⟨1, [(Json.string "a").encode], [], 0, [105], true, false, true⟩ := by
    rcases first_read with _ | _ | _ | ⟨-, some_left | ⟨-, sealed⟩ | ⟨-, nothing⟩ | ⟨-, waits⟩⟩
    · exact absurd rfl some_left
    · obtain ⟨rfl, rfl⟩ := List.cons.inj sealed
      exact ⟨rfl, rfl⟩
    · simp at nothing
    · simp [Tray.Waits] at waits
  obtain ⟨rfl, rfl⟩ : second = [.object 1 (Json.string "a").encode [105]] ∧
      tray'' = ⟨2, [], [], 0, [105], true, false, true⟩ := by
    cases object_read with
    | object gets _ =>
      rcases gets with ⟨sealed⟩
      obtain ⟨rfl, rfl⟩ := List.cons.inj sealed
      exact ⟨rfl, rfl⟩
    | unreadable gets fails =>
      rcases gets with ⟨sealed⟩
      obtain ⟨rfl, rfl⟩ := List.cons.inj sealed
      rw [decodes] at fails
      simp at fails
    | endObject gets =>
      rcases gets with _ | ⟨nothing⟩
      simp at nothing
    | waitObject gets =>
      rcases gets with _ | _ | ⟨waits⟩
      simp [Tray.Waits] at waits
  obtain rfl : third = [.octets 0 [105]] := by
    rcases second_read with _ | _ | _ | ⟨-, some_left | ⟨nothing, -⟩ | ⟨nothing, -⟩ | ⟨nothing, -⟩⟩
    · rfl
    all_goals simp at nothing
  have behind := (List.pairwise_append.1 in_order).2.1
  simp [List.pairwise_append, Handout.place] at behind

end Line

end PeerLink
