import PeerLink.Proofs.Connection.Sending

/-!
# What a writer puts on the stream

What a writer has put on the stream, and what it has buffered to be put there next, are the octets
of what it has written: on a bare connection the ones of its tokens, and on a secure one the frames
of parcels with these tokens, each sealed at the next place of the writer's half. `Line.Posts.run`
says that this stays so whatever both ends do, until the reader closes its connection. What the
reader asks for has no part in it, whether or not it mirrors the writer.
-/

namespace PeerLink

open SealedFrames

/-- The octets that a connection has put on a pipe, and the ones that it has yet to put there. -/
def Connection.outgoing (connection : Connection) (pipe : Pipe) : Bytes :=
  pipe.written ++ unwritten connection.wire

/-- What a call of a writer adds to the tokens that it has written. -/
def WriteCall.added (call : WriteCall) : Except ConnectionError Unit → List Token
  | .ok () => call.tokens
  | .error _ => []

/-- What a call of a writer adds to the tokens that go out. An object whose flush has failed stays
buffered, and goes out with the next flush. -/
def WriteCall.posted : WriteCall → Except ConnectionError Unit → List Token
  | call, .ok () => call.tokens
  | object value, .error (.io _) => [.object value.encode]
  | _, .error _ => []

/-- A writer has written tokens behind the octets `begun`: from its channel at that time it has come
to the one that it has now, and the octets that go out are the ones of the tokens. -/
inductive Posted (suite : Suite) (begun : Bytes) :
    Channel → List Token → Channel → Bytes → Prop
  /-- The octets of the tokens themselves. -/
  | bare {frames frames' : LengthPrefixed.State} {tokens : List Token} {octets : Bytes}
      (octets_eq : octets = begun ++ tokens.flatMap Token.encode) :
      Posted suite begun (.bare frames) tokens (.bare frames') octets
  /-- The frames of parcels. The last of the tokens are the octets that are not sealed yet. -/
  | secure {layer layer' : SecureLayer} {tokens : List Token} {octets : Bytes}
      (parcels : List Parcel) (acceptable : ∀ parcel ∈ parcels, parcel.Acceptable)
      (place : layer'.sender = layer.sender.after suite parcels.length)
      (tokens_eq : tokens =
        parcels.flatMap Parcel.tokens ++ layer'.pending.toBytes.map .octet)
      (octets_eq : octets = begun ++ frames suite layer.sender (parcels.map Parcel.text)) :
      Posted suite begun (.secure layer) tokens (.secure layer') octets

/-- A flush loses nothing of what goes out, whether it succeeds or not, if the stream can be
flushed. -/
theorem Wire.outgoing_flush (wire : Wire) {stream : Stream}
    (free : stream.outbound.clogged = false) :
    (wire.flush stream).2.2.outbound.written ++ (wire.flush stream).2.1.unwritten.toBytes =
      stream.outbound.written ++ wire.unwritten.toBytes := by
  have flushes := wire.flushes stream
  generalize wire.flush stream = result at flushes
  cases flushes with
  | refused something shut inbound same => rw [Pipe.written_of_intake same]
  | lost taken clogged => exact absurd (free.symm.trans clogged) (by simp)
  | idle => rfl
  | through something accepts inbound gained =>
    rw [Pipe.written_of_gained gained, Buffer.toBytes_empty, List.append_nil]

/-- A flush that succeeds puts on the stream what is to be written. -/
theorem Wire.written_of_flush {wire wire' : Wire} {stream stream' : Stream}
    (flushed : wire.flush stream = (.ok (), wire', stream')) :
    stream'.outbound.written = stream.outbound.written ++ wire.unwritten.toBytes := by
  have flushes := wire.flushes stream
  rw [flushed] at flushes
  cases flushes with
  | idle nothing => rw [Buffer.toBytes_eq_nil nothing, List.append_nil]
  | through something accepts inbound gained => exact Pipe.written_of_gained gained

/-- A flush succeeds on a stream that refuses nothing. -/
theorem Wire.exists_flush (wire : Wire) {stream : Stream}
    (accepts : stream.outbound.refuses = false) :
    ∃ wire' stream', wire.flush stream = (.ok (), wire', stream') := by
  have flushes := wire.flushes stream
  rw [Pipe.refuses, Bool.or_eq_false_iff] at accepts
  generalize wire.flush stream = result at flushes
  cases flushes with
  | refused something shut => exact absurd (accepts.1.symm.trans shut) (by simp)
  | lost taken clogged => exact absurd (accepts.2.symm.trans clogged) (by simp)
  | idle => exact ⟨_, _, rfl⟩
  | through => exact ⟨_, _, rfl⟩

namespace WriteCall

/-- A flush adds nothing. -/
theorem posted_flush (outcome : Except ConnectionError Unit) : flush.posted outcome = [] := by
  obtain e | _ := outcome
  · cases e <;> rfl
  · rfl

/-- An object goes out unless it is too large. -/
theorem posted_object (value : Json) (outcome : Except IoError Unit) :
    (object value).posted (outcome.mapError .io) = [.object value.encode] := by
  obtain _ | _ := outcome <;> rfl

/-- What goes out is what was written, unless the stream has failed. -/
theorem posted_eq_added {call : WriteCall} {outcome : Except ConnectionError Unit}
    (no_fault : ∀ e, outcome ≠ .error (.io e)) : call.posted outcome = call.added outcome := by
  match outcome with
  | .ok () => cases call <;> rfl
  | .error (.io e) => exact absurd rfl (no_fault e)
  | .error (.sealing _) => cases call <;> rfl
  | .error (.codec _) => cases call <;> rfl
  | .error (.frameTooLarge _) => cases call <;> rfl
  | .error .closed => cases call <;> rfl

end WriteCall

namespace Standing

variable {standing : Standing}

/-- No call but a close fails for the stream as long as it accepts what is written. -/
theorem no_fault_of_accepts (accepts : standing.refused = false) {call : WriteCall}
    (no_close : call ≠ .close) (e : IoError) : (standing.write call).1 ≠ .error (.io e) := by
  have accepts' : { standing with keeps := true }.refused = false := accepts
  cases call with
  | close => exact absurd rfl no_close
  | _ =>
    simp only [write, flush_of_accepts accepts, flush_of_accepts accepts']
    split_ifs <;> simp

/-- The stream accepts what is written until the connection is closed. -/
theorem accepts_write (accepts : standing.refused = false) {call : WriteCall}
    (no_close : call ≠ .close) : (standing.write call).2.refused = false := by
  have accepts' : { standing with keeps := true }.refused = false := accepts
  cases call with
  | close => exact absurd rfl no_close
  | _ =>
    simp only [write, flush_of_accepts accepts, flush_of_accepts accepts']
    split_ifs <;> exact accepts

end Standing

namespace Posted

variable {suite : Suite} {begun octets : Bytes} {origin channel : Channel} {tokens : List Token}
  {wire : Wire} {stream : Stream}

/-- Nothing is written before anything has happened. -/
theorem start (begun : Bytes) {channel : Channel}
    (none_pending : ∀ layer, channel = .secure layer → layer.pending.toBytes = []) :
    Posted suite begun channel [] channel begun := by
  cases channel with
  | bare frames => exact .bare (List.append_nil _).symm
  | secure layer =>
    refine .secure [] (by rintro parcel ⟨⟩) rfl ?_ (List.append_nil _).symm
    rw [none_pending layer rfl]
    rfl

/-- The pending octets are sealed in parcels behind the others. -/
theorem sealPending
    (posted : Posted suite begun origin tokens channel (octets ++ wire.unwritten.toBytes)) :
    Posted suite begun origin tokens (Connection.sealPending suite wire channel).2
      (octets ++ (Connection.sealPending suite wire channel).1.unwritten.toBytes) := by
  cases posted with
  | bare octets_eq => exact .bare octets_eq
  | @secure layer layer' _ _ parcels acceptable place tokens_eq octets_eq =>
    obtain ⟨added, half⟩ :=
      sealFrames_pieces suite layer'.sender wire.unwritten layer'.pending.toBytes
    refine .secure (parcels ++ (pieces layer'.pending.toBytes).map .octets) ?_ ?_ ?_ ?_
    · intro parcel mem
      rcases List.mem_append.1 mem with mem | mem
      · exact acceptable parcel mem
      · obtain ⟨piece, mem', rfl⟩ := List.mem_map.1 mem
        obtain ⟨some_octets, le⟩ := fits_of_mem_pieces mem'
        exact ⟨by simpa [Parcel.tokens] using some_octets, le⟩
    · show (sealFrames suite layer'.sender wire.unwritten layer'.pending.toBytes).2 = _
      rw [half, place, List.length_append, List.length_map, Sealing.after_add]
    · show tokens = _ ++ Buffer.empty.toBytes.map Token.octet
      rw [tokens_eq, List.flatMap_append, Parcel.flatMap_tokens_octets, flatten_pieces,
        Buffer.toBytes_empty, List.map_nil, List.append_nil]
    · show octets ++ (sealFrames suite layer'.sender wire.unwritten _).1.toBytes = _
      rw [added, ← List.append_assoc, octets_eq, List.map_append, Parcel.map_text_octets,
        frames_append, List.length_map, ← place, List.append_assoc]

/-- What is to be written goes out if the stream can be flushed, whether a flush succeeds or not. -/
theorem flushWire
    (posted : Posted suite begun origin tokens channel
      (stream.outbound.written ++ wire.unwritten.toBytes))
    (free : stream.outbound.clogged = false) (connection : Connection) :
    Posted suite begun origin tokens (connection.flushWire channel wire stream).2.1.channel
      ((connection.flushWire channel wire stream).2.1.outgoing
        (connection.flushWire channel wire stream).2.2.outbound) := by
  show Posted suite begun origin tokens channel
    ((wire.flush stream).2.2.outbound.written ++ (wire.flush stream).2.1.unwritten.toBytes)
  rw [wire.outgoing_flush free]
  exact posted

/-- Octets go out as they are on a bare connection. -/
theorem octets_bare {frames : LengthPrefixed.State}
    (posted : Posted suite begun origin tokens (.bare frames) octets) (bytes : Bytes) :
    Posted suite begun origin (tokens ++ bytes.map .octet) (.bare frames) (octets ++ bytes) := by
  cases posted with
  | bare octets_eq =>
    have encoded : (bytes.map Token.octet).flatMap Token.encode = bytes := by
      rw [List.flatMap_map]
      exact List.flatMap_singleton' bytes
    refine .bare ?_
    rw [octets_eq, List.flatMap_append, encoded, List.append_assoc]

/-- Octets are pending on a secure connection. -/
theorem octets_secure {layer : SecureLayer}
    (posted : Posted suite begun origin tokens (.secure layer) octets) (bytes : Bytes) :
    Posted suite begun origin (tokens ++ bytes.map .octet)
      (.secure { layer with pending := layer.pending.append bytes }) octets := by
  cases posted with
  | secure parcels acceptable place tokens_eq octets_eq =>
    refine .secure parcels acceptable place ?_ octets_eq
    rw [tokens_eq, Buffer.toBytes_append, List.map_append, List.append_assoc]

/-- The text of an object goes out in a frame of its own. -/
theorem object_bare {frames : LengthPrefixed.State}
    (posted : Posted suite begun origin tokens (.bare frames) octets) (text : Bytes) :
    Posted suite begun origin (tokens ++ [.object text]) (.bare frames)
      (octets ++ LengthPrefixed.encode text) := by
  cases posted with
  | bare octets_eq =>
    refine .bare ?_
    rw [octets_eq, List.flatMap_append, List.flatMap_singleton, Token.encode, List.append_assoc]

/-- The text of an object is a parcel of its own, behind the octets in front of it. -/
theorem object_secure {layer : SecureLayer}
    (posted : Posted suite begun origin tokens (.secure layer) octets)
    (none_pending : layer.pending.toBytes = []) {text : Bytes} (small : text.length ≤ maxPayload) :
    Posted suite begun origin (tokens ++ [.object text])
      (.secure { layer with sender := layer.sender.advance suite })
      (octets ++ frame suite layer.sender text) := by
  cases posted with
  | @secure origin _ _ _ parcels acceptable place tokens_eq octets_eq =>
    refine .secure (parcels ++ [.object text]) ?_ ?_ ?_ ?_
    · intro parcel mem
      rcases List.mem_append.1 mem with mem | mem
      · exact acceptable parcel mem
      · obtain rfl := List.mem_singleton.1 mem
        exact ⟨by simp [Parcel.tokens], small⟩
    · rw [place, List.length_append, Sealing.after_add]
      rfl
    · rw [tokens_eq, none_pending, List.flatMap_append, List.flatMap_singleton, Parcel.tokens,
        List.map_nil, List.append_nil, List.append_nil]
    · rw [octets_eq, place, List.map_append, frames_append, List.length_map, List.append_assoc]
      exact congrArg (fun last => begun ++ (_ ++ last)) (List.append_nil _).symm

/-- Octets are written behind the others. -/
theorem writeBytes {connection : Connection} {pipe : Pipe}
    (posted : Posted suite begun origin tokens connection.channel (connection.outgoing pipe))
    (opened : connection.isClosed = false) (bytes : Bytes) :
    ∃ next, connection.writeBytes bytes = (.ok (), next) ∧ next.isClosed = false ∧
      Posted suite begun origin (tokens ++ bytes.map .octet) next.channel (next.outgoing pipe) := by
  obtain ⟨_ | wire, frames | layer, address, resolution⟩ := connection
  · simp [Connection.isClosed] at opened
  · simp [Connection.isClosed] at opened
  · refine ⟨_, rfl, rfl, ?_⟩
    show Posted _ _ _ _ (.bare frames) (pipe.written ++ (wire.put bytes).unwritten.toBytes)
    rw [Wire.toBytes_unwritten_put, ← List.append_assoc]
    exact posted.octets_bare bytes
  · exact ⟨_, rfl, rfl, posted.octets_secure bytes⟩

/-- An object goes out behind everything else, whether it is flushed or not, unless it is too
large. -/
theorem writeObject {connection : Connection}
    (posted : Posted suite begun origin tokens connection.channel
      (connection.outgoing stream.outbound))
    (opened : connection.isClosed = false) (free : stream.outbound.clogged = false)
    (value : Json) :
    Posted suite begun origin
      (tokens ++ (WriteCall.object value).posted (connection.writeObject suite value stream).1)
      (connection.writeObject suite value stream).2.1.channel
      ((connection.writeObject suite value stream).2.1.outgoing
        (connection.writeObject suite value stream).2.2.outbound) := by
  obtain ⟨_ | wire, frames | layer, address, resolution⟩ := connection
  · cases opened
  · cases opened
  · unfold Connection.writeObject
    dsimp only
    split_ifs with large
    · show Posted suite begun origin (tokens ++ []) _ _
      rw [List.append_nil]
      exact posted
    · have put := posted.object_bare value.encode
      rw [Connection.outgoing, unwritten, List.append_assoc, ← Wire.toBytes_unwritten_put] at put
      show Posted suite begun origin
        (tokens ++ (WriteCall.object value).posted ((Wire.flush _ stream).1.mapError .io)) _ _
      rw [WriteCall.posted_object]
      exact put.flushWire free _
  · -- What is pending is sealed in any case, also if the object turns out to be too large.
    have sealed := posted.sealPending
    unfold Connection.writeObject
    dsimp only
    rw [SealedFrames.encode?_eq]
    split_ifs with small
    · have put := sealed.object_secure Buffer.toBytes_empty small
      rw [List.append_assoc, ← Wire.toBytes_unwritten_put] at put
      show Posted suite begun origin
        (tokens ++ (WriteCall.object value).posted ((Wire.flush _ stream).1.mapError .io)) _ _
      rw [WriteCall.posted_object]
      exact put.flushWire free _
    · show Posted suite begun origin (tokens ++ []) _ _
      rw [List.append_nil]
      exact sealed

/-- Until the connection is closed, everything that is written goes out, if the stream can be
flushed. -/
theorem wrote {connection : Connection}
    (posted : Posted suite begun origin tokens connection.channel
      (connection.outgoing stream.outbound))
    (opened : connection.isClosed = false) (free : stream.outbound.clogged = false)
    {call : WriteCall} (no_close : call ≠ .close) :
    Posted suite begun origin (tokens ++ call.posted (connection.write suite call stream).1)
      (connection.write suite call stream).2.1.channel
      ((connection.write suite call stream).2.1.outgoing
        (connection.write suite call stream).2.2.outbound) := by
  cases call with
  | byte octet =>
    obtain ⟨next, written, -, posted'⟩ := posted.writeBytes opened [octet]
    rw [Connection.write, Connection.writeByte, written]
    exact posted'
  | bytes bytes =>
    obtain ⟨next, written, -, posted'⟩ := posted.writeBytes opened bytes
    rw [Connection.write, written]
    exact posted'
  | object value => exact posted.writeObject opened free value
  | flush =>
    rw [WriteCall.posted_flush, List.append_nil]
    obtain ⟨_ | wire, channel, address, resolution⟩ := connection
    · cases opened
    · have sealed := @sealPending _ _ stream.outbound.written _ _ _ wire posted
      exact sealed.flushWire free _
  | close => exact absurd rfl no_close

/-- A close puts on the stream what goes out, ahead of the end, and leaves nothing that is not
sealed, if it succeeds or the stream accepts what is written. -/
theorem close {connection next : Connection} {rest : Stream}
    {outcome : Except ConnectionError Unit}
    (posted : Posted suite begun origin tokens connection.channel
      (connection.outgoing stream.outbound))
    (opened : connection.isClosed = false)
    (closes : connection.close suite stream = (outcome, next, rest))
    (flushes : outcome = .ok () ∨ stream.outbound.refuses = false) :
    ∃ pipe : Pipe, rest.outbound = pipe.finish ∧ next.wire = none ∧
      Posted suite begun origin tokens next.channel pipe.written ∧
      ∀ layer, next.channel = .secure layer → layer.pending.toBytes = [] := by
  obtain ⟨_ | wire, channel, address, resolution⟩ := connection
  · cases opened
  · have sealed := @sealPending _ _ stream.outbound.written _ _ _ wire posted
    rcases flushed : (Connection.sealPending suite wire channel).1.flush stream with
      ⟨_ | _, wire', stream'⟩
    · exfalso
      simp only [Connection.close, flushed] at closes
      obtain ⟨rfl, -⟩ := Prod.mk.inj closes
      rcases flushes with succeeds | accepts
      · cases succeeds
      · obtain ⟨_, _, flushed'⟩ :=
          (Connection.sealPending suite wire channel).1.exists_flush accepts
        cases flushed.symm.trans flushed'
    · simp only [Connection.close, flushed, Stream.release_shutdown] at closes
      obtain ⟨-, rfl, rfl⟩ := closes
      rw [← Wire.written_of_flush flushed] at sealed
      refine ⟨stream'.outbound, rfl, rfl, sealed, ?_⟩
      cases channel with
      | bare =>
        rintro _ ⟨⟩
      | secure layer =>
        rintro _ ⟨⟩
        exact Buffer.toBytes_empty

/-- A writer adds what it writes to what goes out, as long as the stream accepts it. -/
theorem write {connection next : Connection} {rest : Stream} {call : WriteCall}
    {outcome : Except ConnectionError Unit}
    (posted : Posted suite begun origin tokens connection.channel
      (connection.outgoing stream.outbound))
    (accepts : connection.isClosed = false → stream.outbound.refuses = false)
    (called : connection.write suite call stream = (outcome, next, rest)) :
    Posted suite begun origin (tokens ++ call.added outcome) next.channel
        (next.outgoing rest.outbound) ∧
      (next.isClosed = false → rest.outbound.refuses = false) := by
  cases opened : connection.isClosed with
  | true =>
    -- Nothing is written to a closed connection.
    have still : next = connection ∧ rest = stream ∧ call.added outcome = [] := by
      obtain ⟨_ | wire, channel, address, resolution⟩ := connection
      · cases call <;>
          obtain ⟨rfl, rfl, rfl⟩ := called <;> exact ⟨rfl, rfl, rfl⟩
      · simp [Connection.isClosed] at opened
    obtain ⟨rfl, rfl, nothing⟩ := still
    rw [nothing, List.append_nil]
    exact ⟨posted, accepts⟩
  | false =>
    have accepted : (connection.standing stream).refused = false := accepts opened
    have told := connection.write_standing suite call stream
    rw [called] at told
    by_cases closes : call = .close
    · subst closes
      have nothing : WriteCall.close.added outcome = [] := by cases outcome <;> rfl
      obtain ⟨pipe, finished, severed, posted', -⟩ :=
        posted.close opened called (.inr (accepts opened))
      rw [nothing, List.append_nil, Connection.outgoing, finished, severed]
      refine ⟨?_, fun is_open => ?_⟩
      · show Posted suite begun origin tokens next.channel (pipe.written ++ [])
        rw [List.append_nil]
        exact posted'
      · simp [Connection.isClosed, severed] at is_open
    · -- The stream does not fail, so that nothing goes out but what has been written.
      have free := (Bool.or_eq_false_iff.1 (accepts opened)).2
      have posted' := posted.wrote opened free closes
      have no_fault := Standing.no_fault_of_accepts accepted closes
      have still := Standing.accepts_write accepted closes
      rw [told] at no_fault still
      rw [called, WriteCall.posted_eq_added no_fault] at posted'
      exact ⟨posted', fun _ => still⟩

/-- What a writer reads has no part in what goes out. -/
theorem alike {connection connection' : Connection} {pipe : Pipe}
    (posted : Posted suite begun origin tokens connection.channel (connection.outgoing pipe))
    (writes : connection.WritesAlike connection') :
    Posted suite begun origin tokens connection'.channel (connection'.outgoing pipe) := by
  cases writes with
  | bare =>
    cases posted with
    | bare octets_eq => exact .bare octets_eq
  | secure =>
    cases posted with
    | secure parcels acceptable place tokens_eq octets_eq =>
      exact .secure parcels acceptable place tokens_eq octets_eq
  | closed none_left none_left' channels =>
    obtain ⟨_, _, _, _⟩ := connection
    obtain ⟨_, _, _, _⟩ := connection'
    obtain rfl := none_left
    obtain rfl := none_left'
    cases channels with
    | bare =>
      cases posted with
      | bare octets_eq => exact .bare octets_eq
    | secure =>
      cases posted with
      | secure parcels acceptable place tokens_eq octets_eq =>
        exact .secure parcels acceptable place tokens_eq octets_eq

end Posted

namespace Line

variable {α : Type} {suite : Suite} {origin line : Line} {tokens : List Token}

/-- The writer of a line has written tokens since the line was `origin`, and what goes out are the
octets of these tokens. -/
structure Posts (suite : Suite) (origin : Line) (tokens : List Token) (line : Line) : Prop where
  /-- The octets are the ones of the tokens. -/
  posted : Posted suite (origin.writer.outgoing origin.link.forth) origin.writer.channel tokens
    line.writer.channel (line.writer.outgoing line.link.forth)
  /-- The stream accepts more of them until the writer closes its connection. -/
  accepts : line.writer.isClosed = false → line.link.forth.refuses = false

/-- Nothing is written on a line when it is connected. -/
theorem Connected.posts (opens : suite.Opens) (connected : line.Connected suite) :
    Posts suite line [] line := by
  have carries := connected.carries opens
  refine ⟨.start _ fun layer secure => ?_, fun _ => (carries.opened rfl).accepts⟩
  generalize line.limit = limit at carries
  cases carries with
  | bare bare =>
    cases bare
    simp at secure
  | secure secured =>
    cases secured with
    | intro parcels transit valid acceptable place tokens all_sealed =>
      obtain rfl := Channel.secure.inj secure
      exact all_sealed rfl

/-- What the reader does, what the writer reads and what the network holds back have no part in what
goes out. -/
theorem Posts.alike (posts : origin.Posts suite tokens line) {writer : Connection}
    (writes : line.writer.WritesAlike writer) {forth : Pipe}
    (same : forth.intake = line.link.forth.intake) (reader : Connection) (back : Pipe) :
    origin.Posts suite tokens ⟨writer, reader, ⟨forth, back⟩⟩ := by
  refine ⟨?_, fun opened => ?_⟩
  · have outgoing : writer.outgoing forth = writer.outgoing line.link.forth := by
      rw [Connection.outgoing, Connection.outgoing, Pipe.written_of_intake same]
    have posted := posts.posted.alike writes
    rw [← outgoing] at posted
    exact posted
  · have standing : writer.standing line.link.dialing = line.writer.standing line.link.dialing :=
      writes.standing_eq rfl
    have closed : writer.isClosed = line.writer.isClosed := congrArg Standing.closed standing
    exact (Pipe.refuses_of_intake same).trans (posts.accepts (closed.symm.trans opened))

/-- What a move adds to the tokens that are written for a reader. -/
def Move.added : Move α → Report α → List Token
  | .forth (.write call), .wrote outcome => call.added outcome
  | _, _ => []

/-- A writer adds what it writes, and nothing else does. -/
theorem written_heard_cons {move : Move α} (no_close : move ≠ .back (.write .close))
    (report : Report α) (later : List (Move α × Report α)) :
    written (heard ((move, report) :: later)) = move.added report ++ written (heard later) := by
  match move with
  | .forth (.read call) => rfl
  | .forth (.hold gate) => rfl
  | .forth (.write call) =>
    match report with
    | .wrote (.ok ()) => rfl
    | .wrote (.error e) => rfl
    | .read answer => rfl
    | .held => rfl
  | .back (.read call) => rfl
  | .back (.hold gate) => rfl
  | .back (.write call) =>
    cases call with
    | close => exact absurd rfl no_close
    | _ => rfl

/-- Every move but a close of the reader leaves what goes out as it is to be. -/
theorem Posts.move (posts : origin.Posts suite tokens line) {move : Move α}
    (no_close : move ≠ .back (.write .close)) :
    origin.Posts suite (tokens ++ move.added (line.move suite move).1)
      (line.move suite move).2 := by
  -- Only a write of the writer adds to what is on its way.
  have nothing {report : Report α} (none_added : move.added report = []) {line' : Line}
      (posts : origin.Posts suite tokens line') :
      origin.Posts suite (tokens ++ move.added report) line' := by
    rw [none_added, List.append_nil]
    exact posts
  match move with
  | .forth (.write call) =>
    rcases called : line.writer.write suite call line.link.dialing with ⟨outcome, writer, stream⟩
    obtain ⟨posted, accepts⟩ := Posted.write posts.posted posts.accepts called
    show origin.Posts suite (tokens ++ (Move.forth (.write call) : Move α).added
      (line.happen suite (.write call : Event α)).1) (line.happen suite (.write call : Event α)).2
    rw [Line.happen, called]
    exact ⟨posted, accepts⟩
  | .forth (.read call) =>
    have same := line.reader.intake_call suite call line.link.listening
    exact nothing rfl (posts.alike (.refl _) same _ _)
  | .forth (.hold gate) =>
    have same : Pipe.intake { line.link.forth with gate } = line.link.forth.intake := rfl
    exact nothing rfl (posts.alike (.refl _) same _ _)
  | .back (.write call) =>
    have open_end : call ≠ .close := by
      rintro rfl
      exact no_close rfl
    rcases called : line.reader.write suite call line.link.listening with
      ⟨outcome, reader, stream⟩
    have same := (Connection.write_readsAlike open_end called).2
    rw [move_back_write, called]
    exact nothing rfl (posts.alike (.refl _) (congrArg Pipe.intake same) _ _)
  | .back (.read call) =>
    rcases called : line.writer.call suite call line.link.dialing with ⟨answer, writer, stream⟩
    obtain ⟨writes, same⟩ := Connection.call_writesAlike called
    rw [move_back_read, called]
    exact nothing rfl (posts.alike writes (congrArg Pipe.intake same) _ _)
  | .back (.hold gate) => exact nothing rfl (posts.alike (.refl _) rfl _ _)

/-- Whatever both ends do, what goes out are the octets of what is written, until the reader closes
its connection. -/
theorem Posts.run (posts : origin.Posts suite tokens line) (moves : List (Move α))
    (no_close : .back (.write .close) ∉ moves) :
    origin.Posts suite (tokens ++ written (heard (line.trace suite moves)))
      (line.behind suite moves) := by
  induction moves generalizing line tokens with
  | nil =>
    rw [trace, heard, written, List.append_nil]
    exact posts
  | cons move moves ih =>
    rw [List.mem_cons, not_or] at no_close
    have first : move ≠ .back (.write .close) := fun close => no_close.1 close.symm
    rw [trace, written_heard_cons first, ← List.append_assoc]
    exact ih (posts.move first) no_close.2

end Line

end PeerLink
