import PeerLink.Proofs.Connection.Posting
import PeerLink.Proofs.Negotiation.Binding
import PeerLink.Proofs.Negotiation.Resolving

/-!
# The life of a connection

A connection is opened over a stream as it is or by a negotiation, is read and written in any order
while the network does what it likes, and is closed at some time. `Life` is what a connection may
come to by this, calls that fail included. Three things are known of it, and one step preserves them
(`Lived.write`, `Lived.read`): what was negotiated stays as it is (`Connection.Retains`); the
connection is closed exactly behind its first close; and until then everything that was written is
on the stream or waits for it, unless the stream can no longer be flushed, so that the first close
that succeeds puts it there ahead of the end. Behind it the connection is `Inert`.
-/

namespace PeerLink

open SealedFrames

/-! ## What stays -/

namespace Connection

/-- A connection is secure exactly if its peer has proved to own a key. -/
theorem isSecure_eq (connection : Connection) :
    connection.isSecure = connection.remoteIdentity.isSome := by
  obtain ⟨_, frames | layer, _, _⟩ := connection <;> rfl

/-- A connection has kept from another one what was negotiated and with whom. -/
structure Retains (origin connection : Connection) : Prop where
  /-- What was negotiated. -/
  resolution_eq : connection.resolution = origin.resolution
  /-- The key that the peer has proved to own. -/
  identity_eq : connection.remoteIdentity = origin.remoteIdentity
  /-- The endpoint of the peer. -/
  address_eq : connection.remoteAddress = origin.remoteAddress

variable {suite : Suite} {origin connection connection' : Connection}

/-- A connection keeps what it has. -/
theorem Retains.refl (connection : Connection) : connection.Retains connection := ⟨rfl, rfl, rfl⟩

/-- What is kept twice is kept. -/
theorem Retains.trans (retains : origin.Retains connection)
    (retains' : connection.Retains connection') : origin.Retains connection' where
  resolution_eq := retains'.resolution_eq.trans retains.resolution_eq
  identity_eq := retains'.identity_eq.trans retains.identity_eq
  address_eq := retains'.address_eq.trans retains.address_eq

/-- A call of a writer keeps what was negotiated. -/
theorem retains_write (suite : Suite) (call : WriteCall) (connection : Connection)
    (stream : Stream) : connection.Retains (connection.write suite call stream).2.1 := by
  obtain ⟨_ | wire, frames | layer, address, resolution⟩ := connection
  · cases call <;> exact .refl _
  · cases call <;> exact .refl _
  · cases call with
    | byte => exact ⟨rfl, rfl, rfl⟩
    | bytes => exact ⟨rfl, rfl, rfl⟩
    | flush => exact ⟨rfl, rfl, rfl⟩
    | object value =>
      simp only [write, writeObject]
      split_ifs <;> exact ⟨rfl, rfl, rfl⟩
    | close =>
      simp only [write, close, sealPending]
      rcases wire.flush stream with ⟨_ | _, _, _⟩ <;> exact ⟨rfl, rfl, rfl⟩
  · cases call with
    | byte => exact ⟨rfl, rfl, rfl⟩
    | bytes => exact ⟨rfl, rfl, rfl⟩
    | flush => exact ⟨rfl, rfl, rfl⟩
    | object value =>
      simp only [write, writeObject]
      rcases SealedFrames.encode? suite _ _ with _ | ⟨_, _⟩ <;> exact ⟨rfl, rfl, rfl⟩
    | close =>
      simp only [write, close, sealPending]
      rcases (layer.sealPending suite wire).1.flush stream with ⟨_ | _, _, _⟩ <;>
        exact ⟨rfl, rfl, rfl⟩

end Connection

/-! ## Closed connections -/

/-- What a call of a reader comes to on a closed connection. -/
def ReadCall.onClosed {α : Type} : ReadCall α → ReadAnswer α
  | byte => .byte (.failed .closed)
  | bytes _ => .bytes (.failed .closed)
  | object _ => .object (.failed .closed)

/-- What a call of a writer comes to on a closed connection: closing it once more succeeds. -/
def WriteCall.onClosed : WriteCall → Except ConnectionError Unit
  | close => .ok ()
  | _ => .error .closed

/-- A connection that does nothing any more: whatever is called, it stays as it is, and so does the
stream. -/
structure Connection.Inert (suite : Suite) (connection : Connection) : Prop where
  /-- The reader is told that the connection is closed. -/
  call_eq : ∀ {α : Type} (call : ReadCall α) (stream : Stream),
    connection.call suite call stream = (call.onClosed, connection, stream)
  /-- The writer is told that the connection is closed, unless it closes it. -/
  write_eq : ∀ (call : WriteCall) (stream : Stream),
    connection.write suite call stream = (call.onClosed, connection, stream)

/-- Whether a call closes the connection. -/
def WriteCall.isClose : WriteCall → Bool
  | close => true
  | _ => false

/-- A call closes the connection if it is the one that does. -/
theorem WriteCall.isClose_iff {call : WriteCall} : call.isClose = true ↔ call = close := by
  cases call <;> simp [isClose]

/-- A writer is closed if it was, or if it has closed its connection, whatever the outcome. -/
theorem Standing.closed_write (standing : Standing) (call : WriteCall) :
    (standing.write call).2.closed = (standing.closed || call.isClose) := by
  cases call <;> simp only [write, flush, WriteCall.isClose] <;> split_ifs <;> simp_all

/-- A close succeeds only on a stream that can be flushed. -/
theorem Standing.clogged_of_close {standing : Standing} (opened : standing.closed = false)
    (succeeds : (standing.write .close).1 = .ok ()) : standing.clogged = false := by
  cases clogged : standing.clogged with
  | false => rfl
  | true => simp [write, opened, clogged] at succeeds

/-- A close succeeds on a stream that accepts what is written and can be shut down. -/
theorem Standing.close_of_accepts {standing : Standing} (accepts : standing.refused = false)
    (announces : standing.jammed = false) : (standing.write .close).1 = .ok () := by
  rw [refused, Bool.or_eq_false_iff] at accepts
  simp only [write, accepts, announces, Bool.and_false, Bool.or_false, Bool.false_eq_true, if_false]
  split_ifs <;> rfl

namespace Connection

variable {suite : Suite} {connection connection' : Connection}

/-- A closed connection is inert. -/
theorem inert_of_isClosed (closed : connection.isClosed = true) : connection.Inert suite := by
  obtain ⟨_ | wire, channel, address, resolution⟩ := connection
  · constructor
    · rintro α (_ | _ | _) stream <;> rfl
    · rintro (_ | _ | _ | _ | _) stream <;> rfl
  · cases closed

/-- A connection is closed behind a call of the writer if it was, or if the call is a close. -/
theorem isClosed_write (suite : Suite) (call : WriteCall) (connection : Connection)
    (stream : Stream) : (connection.write suite call stream).2.1.isClosed =
      (connection.isClosed || call.isClose) := by
  have told := connection.write_standing suite call stream
  have closed := congrArg (·.2.closed) told
  exact closed.symm.trans (Standing.closed_write _ _)

/-- A connection that only a reader has used is closed if it was. -/
theorem WritesAlike.isClosed_eq (alike : connection.WritesAlike connection') :
    connection'.isClosed = connection.isClosed := by
  -- The stream has no part in it.
  have same : connection'.standing ⟨.new, .new⟩ = connection.standing ⟨.new, .new⟩ :=
    alike.standing_eq rfl
  exact congrArg Standing.closed same

/-- A connection that only a reader has used has kept what was negotiated. -/
theorem WritesAlike.retains (alike : connection.WritesAlike connection')
    (opened : connection.isClosed = false) : connection.Retains connection' := by
  cases alike with
  | bare => exact ⟨rfl, rfl, rfl⟩
  | secure => exact ⟨rfl, rfl, rfl⟩
  | closed none_left => simp [isClosed, none_left] at opened

/-- A call of a reader keeps what was negotiated. -/
theorem retains_call {α : Type} (suite : Suite) (call : ReadCall α) (connection : Connection)
    (stream : Stream) : connection.Retains (connection.call suite call stream).2.1 := by
  cases opened : connection.isClosed with
  | true =>
    rw [(inert_of_isClosed opened).call_eq]
    exact .refl _
  | false =>
    rcases called : connection.call suite call stream with ⟨answer, next, rest⟩
    exact (call_writesAlike called).1.retains opened

end Connection

/-! ## What goes out -/

/-- The tokens of everything that was written. -/
def ledger (log : List (WriteCall × Except ConnectionError Unit)) : List Token :=
  log.flatMap fun (call, outcome) => call.posted outcome

/-- Octets carry tokens: on a bare connection they are the ones of the tokens, and on a secure one
the frames of parcels with these tokens, each sealed at the next place of the half that seals. -/
inductive Conveys (suite : Suite) : Channel → List Token → Bytes → Prop
  /-- The octets of the tokens themselves. -/
  | bare (frames : LengthPrefixed.State) (tokens : List Token) :
      Conveys suite (.bare frames) tokens (tokens.flatMap Token.encode)
  /-- The frames of parcels. -/
  | secure (layer : SecureLayer) (parcels : List Parcel)
      (acceptable : ∀ parcel ∈ parcels, parcel.Acceptable) :
      Conveys suite (.secure layer) (parcels.flatMap Parcel.tokens)
        (frames suite layer.sender (parcels.map Parcel.text))

/-- What goes out on a connection with nothing that is not sealed carries the tokens that were
written. -/
theorem Posted.conveys {suite : Suite} {begun octets : Bytes} {origin channel : Channel}
    {tokens : List Token} (posted : Posted suite begun origin tokens channel octets)
    (all_sealed : ∀ layer, channel = .secure layer → layer.pending.toBytes = []) :
    ∃ sent, octets = begun ++ sent ∧ Conveys suite origin tokens sent := by
  cases posted with
  | bare octets_eq => exact ⟨_, octets_eq, .bare _ _⟩
  | secure parcels acceptable place tokens_eq octets_eq =>
    rw [all_sealed _ rfl, List.map_nil, List.append_nil] at tokens_eq
    rw [tokens_eq]
    exact ⟨_, octets_eq, .secure _ parcels acceptable⟩

/-! ## Any number of steps -/

/-- A connection as it is opened: over a stream as it is, or by the negotiation of a side, whatever
registry and whatever stream each step of the side has found. -/
inductive Connection.Opened (suite : Suite) : Connection → Prop
  /-- The stream is used as it is. -/
  | bare (remote : Option Endpoint) : Opened suite (.bare remote)
  /-- A dialer has negotiated. -/
  | dialed {party : Negotiation.Party} {done : List Negotiation.Deed} {connection : Connection}
      (took : Negotiation.Dialer.Took suite party done (.finished (.ok connection))) :
      Opened suite connection
  /-- A listener has negotiated. -/
  | accepted {party : Negotiation.Party} {done : List Negotiation.Deed} {connection : Connection}
      (took : Negotiation.Listener.Took suite party done (.finished (.ok connection))) :
      Opened suite connection

/-- What a connection and its stream may become from `origin` over `begun` on, and what the writer
was told. The calls of a reader and of a writer may be of any kind and in any order, and may fail;
between them the network may do anything with the stream, but for what is already written, and but
for making a stream work again that could not be flushed. -/
inductive Life (suite : Suite) (origin : Connection) (begun : Stream) :
    List (WriteCall × Except ConnectionError Unit) → Connection → Stream → Prop
  /-- Nothing was called. -/
  | start : Life suite origin begun [] origin begun
  /-- The writer calls. -/
  | write {log : List (WriteCall × Except ConnectionError Unit)} {connection : Connection}
      {stream : Stream} (life : Life suite origin begun log connection stream) (call : WriteCall) :
      Life suite origin begun (log ++ [(call, (connection.write suite call stream).1)])
        (connection.write suite call stream).2.1 (connection.write suite call stream).2.2
  /-- The reader calls. -/
  | read {log : List (WriteCall × Except ConnectionError Unit)} {connection : Connection}
      {stream : Stream} (life : Life suite origin begun log connection stream) {α : Type}
      (call : ReadCall α) :
      Life suite origin begun log (connection.call suite call stream).2.1
        (connection.call suite call stream).2.2
  /-- The network does something. -/
  | network {log : List (WriteCall × Except ConnectionError Unit)} {connection : Connection}
      {stream : Stream} (life : Life suite origin begun log connection stream) (stream' : Stream)
      (same : stream'.outbound.written = stream.outbound.written)
      (clogged : stream.outbound.clogged = true → stream'.outbound.clogged = true) :
      Life suite origin begun log connection stream'

/-- What every step of a connection preserves. -/
structure Lived (suite : Suite) (origin : Connection) (begun : Stream)
    (log : List (WriteCall × Except ConnectionError Unit)) (connection : Connection)
    (stream : Stream) : Prop where
  /-- What was negotiated has stayed as it is. -/
  retains : origin.Retains connection
  /-- The connection is closed exactly behind a close. -/
  isClosed_iff : connection.isClosed = true ↔ ∃ outcome, (.close, outcome) ∈ log
  /-- Until then everything that was written goes out, if the stream can be flushed. -/
  posted : connection.isClosed = false → stream.outbound.clogged = false →
    Posted suite (origin.outgoing begun.outbound) origin.channel (ledger log) connection.channel
      (connection.outgoing stream.outbound)

namespace Connection

variable {suite : Suite} {connection : Connection}

/-- A connection that was opened is bare, or was negotiated. -/
theorem Opened.bare_or_resolved (opened : connection.Opened suite) :
    (∃ remote, connection = .bare remote) ∨ ∃ remote, connection.Resolved remote := by
  cases opened with
  | bare remote => exact .inl ⟨remote, rfl⟩
  | dialed took => exact .inr ⟨_, took.resolves⟩
  | accepted took => exact .inr ⟨_, took.resolves⟩

/-- A connection that was opened says what it was resolved to. -/
theorem Opened.tells (opened : connection.Opened suite) :
    connection.resolution.Tells connection.isSecure := by
  obtain ⟨remote, rfl⟩ | ⟨remote, resolved⟩ := opened.bare_or_resolved
  · exact Resolution.tells_bare
  · exact resolved.tells

end Connection

namespace Lived

variable {suite : Suite} {origin connection : Connection} {begun stream : Stream}
  {log : List (WriteCall × Except ConnectionError Unit)}

/-- Nothing has happened yet. -/
theorem start (opened : origin.Opened suite) (begun : Stream) :
    Lived suite origin begun [] origin begun := by
  obtain ⟨is_open, none_pending⟩ : origin.isClosed = false ∧
      ∀ layer, origin.channel = .secure layer → layer.pending.toBytes = [] := by
    obtain ⟨remote, rfl⟩ | ⟨remote, resolved⟩ := opened.bare_or_resolved
    · exact ⟨rfl, nofun⟩
    · cases resolved with
      | @intro wire resolution channel tells =>
        cases channel with
        | none => exact ⟨rfl, nofun⟩
        | some channel =>
          -- Nothing has been written yet on a channel that a handshake has just made.
          refine ⟨rfl, ?_⟩
          rintro _ ⟨⟩
          exact Buffer.toBytes_empty
  refine ⟨.refl _, ?_, fun _ _ => .start _ none_pending⟩
  simp [is_open]

/-- A call of the writer. -/
theorem write (lived : Lived suite origin begun log connection stream) (call : WriteCall) :
    Lived suite origin begun (log ++ [(call, (connection.write suite call stream).1)])
      (connection.write suite call stream).2.1 (connection.write suite call stream).2.2 where
  retains := lived.retains.trans (connection.retains_write suite call stream)
  isClosed_iff := by
    rw [Connection.isClosed_write, Bool.or_eq_true, lived.isClosed_iff, WriteCall.isClose_iff]
    simp only [List.mem_append, List.mem_singleton, Prod.mk.injEq, exists_or, exists_and_left,
      exists_eq, and_true, eq_comm]
  posted is_open free := by
    rw [Connection.isClosed_write, Bool.or_eq_false_iff] at is_open
    rw [Connection.clogged_write] at free
    have no_close : call ≠ .close := by
      rintro rfl
      exact absurd is_open.2 (by simp [WriteCall.isClose])
    rw [ledger, List.flatMap_append, List.flatMap_singleton]
    exact (lived.posted is_open.1 free).wrote is_open.1 free no_close

/-- A call of the reader. -/
theorem read (lived : Lived suite origin begun log connection stream) {α : Type}
    (call : ReadCall α) : Lived suite origin begun log (connection.call suite call stream).2.1
      (connection.call suite call stream).2.2 := by
  have retains := connection.retains_call suite call stream
  rcases called : connection.call suite call stream with ⟨answer, next, rest⟩
  obtain ⟨alike, same⟩ := Connection.call_writesAlike called
  rw [called] at retains
  refine ⟨lived.retains.trans retains, ?_, fun is_open free => ?_⟩
  · rw [alike.isClosed_eq]
    exact lived.isClosed_iff
  · rw [alike.isClosed_eq] at is_open
    rw [same] at free ⊢
    exact (lived.posted is_open free).alike alike

/-- The network leaves what is written as it is. -/
theorem network (lived : Lived suite origin begun log connection stream) {stream' : Stream}
    (same : stream'.outbound.written = stream.outbound.written)
    (clogged : stream.outbound.clogged = true → stream'.outbound.clogged = true) :
    Lived suite origin begun log connection stream' := by
  refine ⟨lived.retains, lived.isClosed_iff, fun is_open free' => ?_⟩
  have free : stream.outbound.clogged = false := by
    rw [← Bool.not_eq_true] at free' ⊢
    exact mt clogged free'
  have outgoing : connection.outgoing stream'.outbound = connection.outgoing stream.outbound :=
    congrArg (· ++ unwritten connection.wire) same
  rw [outgoing]
  exact lived.posted is_open free

end Lived

namespace Life

variable {suite : Suite} {origin connection : Connection} {begun stream : Stream}
  {log : List (WriteCall × Except ConnectionError Unit)}

/-- Any number of steps preserve what one step preserves. -/
theorem lived (opened : origin.Opened suite)
    (life : Life suite origin begun log connection stream) :
    Lived suite origin begun log connection stream := by
  induction life with
  | start => exact .start opened begun
  | write life call ih => exact ih.write call
  | read life call ih => exact ih.read call
  | network life stream' same clogged ih => exact ih.network same clogged

/-- Whatever happens to a connection that was opened, it says the same of being secure in three
ways, and what was negotiated stays as it is. It is open until its first close, which closes it even
if it fails, and which puts everything that was written on the stream ahead of the end if it
succeeds. A closed connection is inert. -/
theorem course (opened : origin.Opened suite)
    (life : Life suite origin begun log connection stream) :
    (connection.resolution.Tells connection.isSecure ∧
      connection.remoteIdentity.isSome = connection.isSecure ∧ origin.Retains connection) ∧
    (connection.isClosed = true ↔ ∃ outcome, (.close, outcome) ∈ log) ∧
    (∀ outcome next rest, connection.close suite stream = (outcome, next, rest) →
      next.isClosed = true ∧
        (connection.isClosed = false → outcome = .ok () → ∃ (pipe : Pipe) (sent : Bytes),
          rest.outbound = pipe.finish ∧
            pipe.written = origin.outgoing begun.outbound ++ sent ∧
            Conveys suite origin.channel (ledger log) sent)) ∧
    (connection.isClosed = true → connection.Inert suite) := by
  have lived := life.lived opened
  have retains := lived.retains
  refine ⟨⟨?_, connection.isSecure_eq.symm, retains⟩, lived.isClosed_iff, ?_,
    Connection.inert_of_isClosed⟩
  · -- Both sides of the comparison are as they were when the connection was opened.
    rw [connection.isSecure_eq, retains.identity_eq, retains.resolution_eq, ← origin.isSecure_eq]
    exact opened.tells
  · intro outcome next rest closes
    have closed := connection.isClosed_write suite .close stream
    rw [Connection.write, closes, WriteCall.isClose, Bool.or_true] at closed
    refine ⟨closed, ?_⟩
    -- What went out until now is flushed by the close, with everything pending sealed before.
    rintro is_open rfl
    have told := connection.write_standing suite .close stream
    rw [Connection.write, closes] at told
    have free : (connection.standing stream).clogged = false :=
      Standing.clogged_of_close is_open (congrArg (·.1) told)
    obtain ⟨pipe, finished, -, posted, all_sealed⟩ :=
      (lived.posted is_open free).close is_open closes (.inl rfl)
    obtain ⟨sent, written, conveys⟩ := posted.conveys all_sealed
    exact ⟨pipe, sent, finished, written, conveys⟩

/-- A close succeeds as long as the stream accepts what is written and can be shut down. -/
theorem exists_close {suite : Suite} (connection : Connection) {stream : Stream}
    (accepts : stream.outbound.refuses = false) (announces : stream.outbound.jammed = false) :
    ∃ next rest, connection.close suite stream = (.ok (), next, rest) := by
  have told := connection.write_standing suite .close stream
  have accepted : (connection.standing stream).refused = false := accepts
  have succeeds := Standing.close_of_accepts accepted
    (show (connection.standing stream).jammed = false from announces)
  rw [told] at succeeds
  exact ⟨_, _, Prod.ext succeeds rfl⟩

/-- There is a secure connection: the one of a listener to which an honest dialer has dialed. -/
theorem exists_opened_secure : ∃ wire resolution channel remote,
    Connection.Opened .standard (.negotiated wire resolution (some channel) remote) ∧
      channel.remote = Suite.standard.publicKey (.filled 1) := by
  have secrets : Negotiation.Meeting.expecting.secrets = some (.filled 1, .filled 2) := rfl
  obtain ⟨wire, took⟩ :=
    Negotiation.Meeting.took_response Negotiation.Meeting.sound_expecting secrets
  exact ⟨_, _, _, _, .accepted took, rfl⟩

/-- A secure connection on which octets are written and that is closed then. -/
theorem course_of_accepted : ∃ origin connection stream,
    Connection.Opened .standard origin ∧
      Life .standard origin ⟨.new, .new⟩ [(.bytes [1, 2, 3], .ok ())] connection stream ∧
      connection.isSecure = true ∧ connection.resolution.contains .secureChannel = true ∧
      connection.remoteIdentity = some (Suite.standard.publicKey (.filled 1)) ∧
      ∃ next rest, connection.close .standard stream = (.ok (), next, rest) ∧
        next.isClosed = true ∧
        ∃ (pipe : Pipe) (sent : Bytes), rest.outbound = pipe.finish ∧
          pipe.written = origin.outgoing Pipe.new ++ sent ∧
          Conveys .standard origin.channel [.octet 1, .octet 2, .octet 3] sent := by
  obtain ⟨wire, resolution, channel, remote, opened, key⟩ := exists_opened_secure
  obtain ⟨connection, stream, life, secure, accepts, announces⟩ : ∃ connection stream,
      Life .standard (.negotiated wire resolution (some channel) remote) ⟨.new, .new⟩
          [(.bytes [1, 2, 3], .ok ())] connection stream ∧
        connection.isSecure = true ∧ stream.outbound.refuses = false ∧
          stream.outbound.jammed = false :=
    ⟨_, _, start.write (.bytes [1, 2, 3]), rfl, rfl, rfl⟩
  obtain ⟨⟨tells, -, retains⟩, closed_iff, closing, -⟩ := course opened life
  have is_open : connection.isClosed = false := by simpa using closed_iff
  obtain ⟨next, rest, closes⟩ := exists_close connection accepts announces
  obtain ⟨closed, puts⟩ := closing _ next rest closes
  exact ⟨_, connection, stream, opened, life, secure, tells.contains_eq.trans secure,
    retains.identity_eq.trans (congrArg some key), next, rest, closes, closed, puts is_open rfl⟩

end Life

end PeerLink
