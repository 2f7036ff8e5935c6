import PeerLink.Link
import PeerLink.Proofs.Connection.Calls

/-!
# What a reader is to get

A `Mail` is what a connection is for: a queue of what was written and not read yet, octets and whole
objects in the order of the writer. `Delivers` says what a call of the writer or of the reader does
to the queue and how it is to be answered, without any stream, buffer, frame or key; a list of
reports is `Faithful` if it is answered in this way from the first report to the last one. `Line` is
the system that is to behave so: two connections at the ends of a link.
-/

namespace PeerLink

/-- The smallest thing that a reader gets. -/
inductive Token where
  /-- An octet. -/
  | octet (octet : UInt8)
  /-- An object, as its text. -/
  | object (text : Bytes)

/-- The octets in front of the first object. -/
def Token.leading : List Token → Bytes
  | .octet b :: rest => b :: leading rest
  | _ => []

/-- What is on the way from a writer to a reader. -/
structure Mail where
  /-- What was written and not read yet. -/
  tokens : List Token
  /-- Whether everything that was written is on the stream. -/
  flushed : Bool
  /-- Whether the writer has closed its connection. -/
  closed : Bool
  /-- Whether the network holds nothing back. -/
  free : Bool

namespace Mail

/-- Nothing was written. -/
def start (free : Bool) : Mail := ⟨[], true, false, free⟩

/-- The mail behind octets that are written. -/
def put (bytes : Bytes) (mail : Mail) : Mail :=
  { mail with tokens := mail.tokens ++ bytes.map .octet, flushed := false }

/-- The mail behind an object that is written, with everything that was written before it. -/
def post (text : Bytes) (mail : Mail) : Mail :=
  { mail with tokens := mail.tokens ++ [.object text], flushed := true }

/-- The reader has to wait: nothing is there, or it may not have arrived. -/
def Waits (mail : Mail) : Prop :=
  (mail.tokens = [] ∧ mail.closed = false) ∨
    (mail.tokens ≠ [] ∧ (mail.flushed = false ∨ mail.free = false))

/-- A call that mirrors the writer: it does not ask for octets where there is an object, nor for an
object where there are octets, and it asks for no more octets than there are in front of the next
object. -/
def Fits {α : Type} (mail : Mail) : ReadCall α → Prop
  | .byte => ∀ text rest, mail.tokens ≠ .object text :: rest
  | .bytes n =>
    n ≤ (Token.leading mail.tokens).length ∨ ∀ text, Token.object text ∉ mail.tokens
  | .object _ => ∀ octet rest, mail.tokens ≠ .octet octet :: rest

end Mail

/-- The answer to a call that waits. -/
def ReadCall.waiting {α : Type} : ReadCall α → ReadAnswer α
  | byte => .byte .waiting
  | bytes _ => .bytes .waiting
  | object _ => .object .waiting

/-- What may happen on a line. -/
inductive Line.Event (α : Type) where
  /-- The writer makes a call. -/
  | write (call : WriteCall)
  /-- The reader makes a call. -/
  | read (call : ReadCall α)
  /-- The network lets through so many octets and holds back the others. -/
  | hold (gate : Option Nat)

/-- What an event comes to. -/
inductive Line.Report (α : Type) where
  /-- What a call of the writer comes to. -/
  | wrote (outcome : Except ConnectionError Unit)
  /-- The answer to a call of the reader. -/
  | read (answer : ReadAnswer α)
  /-- Nobody is told what the network does. -/
  | held

/-- What an event is to come to, and the mail behind it. The text of an object has at most `limit`
octets. -/
inductive Delivers {α : Type} (limit : Nat) :
    Mail → Line.Event α → Line.Report α → Mail → Prop
  /-- An octet is written. -/
  | byte {mail : Mail} (octet : UInt8) (opened : mail.closed = false) :
      Delivers limit mail (.write (.byte octet)) (.wrote (.ok ())) (mail.put [octet])
  /-- Octets are written. -/
  | bytes {mail : Mail} (bytes : Bytes) (opened : mail.closed = false) :
      Delivers limit mail (.write (.bytes bytes)) (.wrote (.ok ())) (mail.put bytes)
  /-- An object is written. -/
  | object {mail : Mail} (object : Json) (opened : mail.closed = false)
      (acceptable : object.encode.length ≤ limit) :
      Delivers limit mail (.write (.object object)) (.wrote (.ok ())) (mail.post object.encode)
  /-- An object is too large, and nothing is written. -/
  | tooLarge {mail : Mail} (object : Json) (opened : mail.closed = false)
      (large : limit < object.encode.length) :
      Delivers limit mail (.write (.object object))
        (.wrote (.error (.frameTooLarge object.encode.length))) mail
  /-- Everything that is buffered is written. -/
  | flush {mail : Mail} (opened : mail.closed = false) :
      Delivers limit mail (.write .flush) (.wrote (.ok ())) { mail with flushed := true }
  /-- The connection is closed, or was so before. -/
  | close {mail : Mail} :
      Delivers limit mail (.write .close) (.wrote (.ok ()))
        { mail with flushed := true, closed := true }
  /-- Nothing can be written to a closed connection. -/
  | refused {mail : Mail} {call : WriteCall} (closed : mail.closed = true)
      (no_close : call ≠ .close) :
      Delivers limit mail (.write call) (.wrote (.error .closed)) mail
  /-- The network holds octets back, or no longer does so. -/
  | hold {mail : Mail} (gate : Option Nat) :
      Delivers limit mail (.hold gate) .held { mail with free := gate.isNone }
  /-- The next octet is read. -/
  | gotByte {mail : Mail} {octet : UInt8} {rest : List Token}
      (tokens : mail.tokens = .octet octet :: rest) :
      Delivers limit mail (.read .byte) (.read (.byte (.done (some octet))))
        { mail with tokens := rest }
  /-- Some of the next octets are read, no more than are asked for. -/
  | gotBytes {mail : Mail} {n : Nat} {bytes : Bytes} {rest : List Token}
      (tokens : mail.tokens = bytes.map .octet ++ rest) (some_got : bytes ≠ [])
      (le : bytes.length ≤ n) :
      Delivers limit mail (.read (.bytes n)) (.read (.bytes (.done bytes)))
        { mail with tokens := rest }
  /-- No octets are asked for. -/
  | gotNothing {mail : Mail} :
      Delivers limit mail (.read (.bytes 0)) (.read (.bytes (.done []))) mail
  /-- The next object is read: its text is the one that was written. -/
  | gotObject {mail : Mail} {decoder : Json.Decoder α} {text : Bytes} {rest : List Token}
      (tokens : mail.tokens = .object text :: rest) :
      Delivers limit mail (.read (.object decoder)) (.read (.ofText decoder text))
        { mail with tokens := rest }
  /-- There is no octet any more. -/
  | endByte {mail : Mail} (nothing : mail.tokens = []) (closed : mail.closed = true) :
      Delivers limit mail (.read .byte) (.read (.byte (.done none))) mail
  /-- There are no octets any more. -/
  | endBytes {mail : Mail} {n : Nat} (nothing : mail.tokens = []) (closed : mail.closed = true) :
      Delivers limit mail (.read (.bytes n)) (.read (.bytes (.done []))) mail
  /-- There is no object any more. -/
  | endObject {mail : Mail} {decoder : Json.Decoder α} (nothing : mail.tokens = [])
      (closed : mail.closed = true) :
      Delivers limit mail (.read (.object decoder)) (.read (.object (.failed (.io
        (.unexpectedEof "connection closed by the remote peer"))))) mail
  /-- The reader waits. -/
  | waiting {mail : Mail} {call : ReadCall α} (waits : mail.Waits)
      (some_asked : call ≠ .bytes 0) :
      Delivers limit mail (.read call) (.read call.waiting) mail

/-- Reports of events that begin with some mail: each of them is what it is to be, up to the first
call that does not mirror the writer. -/
inductive Faithful {α : Type} (limit : Nat) :
    Mail → List (Line.Event α × Line.Report α) → Prop
  /-- Nothing happens. -/
  | nil {mail : Mail} : Faithful limit mail []
  /-- An event comes to what it is to come to. -/
  | cons {mail mail' : Mail} {event : Line.Event α} {report : Line.Report α}
      {later : List (Line.Event α × Line.Report α)}
      (delivers : Delivers limit mail event report mail')
      (faithful : Faithful limit mail' later) : Faithful limit mail ((event, report) :: later)
  /-- A call does not mirror the writer. -/
  | misfit {mail : Mail} {call : ReadCall α} {report : Line.Report α}
      {later : List (Line.Event α × Line.Report α)} (misfit : ¬ mail.Fits call) :
      Faithful limit mail ((.read call, report) :: later)

/-- What reading at most `n` octets comes to, and the mail behind it. -/
inductive Mail.GetsBytes (mail : Mail) (n : Nat) : Outcome ConnectionError Bytes → Mail → Prop
  /-- Some of the next octets. -/
  | octets {bytes : Bytes} {rest : List Token} (tokens : mail.tokens = bytes.map .octet ++ rest)
      (some_got : bytes ≠ []) (le : bytes.length ≤ n) :
      GetsBytes mail n (.done bytes) { mail with tokens := rest }
  /-- The end of the stream. -/
  | stop (nothing : mail.tokens = []) (closed : mail.closed = true) :
      GetsBytes mail n (.done []) mail
  /-- A wait. -/
  | waiting (waits : mail.Waits) : GetsBytes mail n .waiting mail

/-- What reading a frame comes to, and the mail behind it. -/
inductive Mail.GetsFrame (mail : Mail) : Outcome ConnectionError (Option Bytes) → Mail → Prop
  /-- The next object. -/
  | object {text : Bytes} {rest : List Token} (tokens : mail.tokens = .object text :: rest) :
      GetsFrame mail (.done (some text)) { mail with tokens := rest }
  /-- The end of the stream. -/
  | stop (nothing : mail.tokens = []) (closed : mail.closed = true) :
      GetsFrame mail (.done none) mail
  /-- A wait. -/
  | waiting (waits : mail.Waits) : GetsFrame mail .waiting mail

/-- Octets that are read answer a call for octets. -/
theorem Mail.GetsBytes.delivers_bytes {α : Type} {mail mail' : Mail} {n : Nat}
    {outcome : Outcome ConnectionError Bytes} (h : mail.GetsBytes n outcome mail')
    (some_asked : n ≠ 0) (limit : Nat) :
    Delivers limit mail (.read (.bytes n : ReadCall α)) (.read (.bytes outcome)) mail' := by
  cases h with
  | octets tokens some_got le => exact .gotBytes tokens some_got le
  | stop nothing closed => exact .endBytes nothing closed
  | waiting waits => exact .waiting waits (by simpa using some_asked)

/-- At most one octet that is read answers a call for an octet. -/
theorem Mail.GetsBytes.delivers_byte {α : Type} {mail mail' : Mail}
    {outcome : Outcome ConnectionError Bytes} (h : mail.GetsBytes 1 outcome mail')
    (limit : Nat) :
    Delivers limit mail (.read (.byte : ReadCall α)) (.read (.byte (outcome.map List.head?)))
      mail' := by
  cases h with
  | @octets bytes rest tokens some_got le =>
    match bytes with
    | [] => exact absurd rfl some_got
    | [octet] => exact .gotByte tokens
    | _ :: _ :: _ => simp at le
  | stop nothing closed => exact .endByte nothing closed
  | waiting waits => exact .waiting waits (by simp)

/-- A closed connection refuses every call but another close, and none of them does anything. -/
theorem Delivers.of_closed {α : Type} {mail : Mail} (closed : mail.closed = true)
    (flushed : mail.flushed = true) (suite : Suite) {connection : Connection}
    (no_wire : connection.wire = none) (limit : Nat) (call : WriteCall) (stream : Stream) :
    ∃ outcome, connection.write suite call stream = (outcome, connection, stream) ∧
      Delivers limit mail (.write call : Line.Event α) (.wrote outcome) mail := by
  obtain ⟨_, channel, address, resolution⟩ := connection
  subst no_wire
  cases call with
  | byte octet => exact ⟨_, rfl, .refused closed (by simp)⟩
  | bytes bytes => exact ⟨_, rfl, .refused closed (by simp)⟩
  | object object => exact ⟨_, rfl, .refused closed (by simp)⟩
  | flush => exact ⟨_, rfl, .refused closed (by simp)⟩
  | close =>
    have same : { mail with flushed := true, closed := true } = mail := by
      obtain ⟨tokens, _, _, free⟩ := mail
      subst closed flushed
      rfl
    have again := @Delivers.close α limit mail
    rw [same] at again
    exact ⟨_, rfl, again⟩

/-- A call that fits at an octet or at the end does not find an object in front. -/
theorem Mail.Fits.no_object {α : Type} {mail : Mail} {n : Nat}
    (h : mail.Fits (.bytes n : ReadCall α)) (some_asked : n ≠ 0) (text : Bytes)
    (rest : List Token) : mail.tokens ≠ .object text :: rest := by
  intro tokens
  rcases h with le | no_object
  · rw [tokens] at le
    exact some_asked (Nat.le_zero.1 le)
  · exact no_object text (by rw [tokens]; exact List.mem_cons_self)

/-! ## The system -/

/-- A writer and a reader at the ends of a link. -/
structure Line where
  /-- The connection of the writer. -/
  writer : Connection
  /-- The connection of the reader. -/
  reader : Connection
  /-- The link between them, with the writer at its dialing end. -/
  link : Link

namespace Line

variable {α : Type}

/-- The largest text of an object. -/
def limit (line : Line) : Nat :=
  if line.writer.isSecure then 65517 else 8388608

/-- What an event comes to, and the line behind it. -/
def happen (suite : Suite) (line : Line) : Event α → Report α × Line
  | .write call =>
    let (outcome, writer, stream) := line.writer.write suite call line.link.dialing
    (.wrote outcome, { line with writer, link := .ofDialing stream })
  | .read call =>
    let (answer, reader, stream) := line.reader.call suite call line.link.listening
    (.read answer, { line with reader, link := .ofListening stream })
  | .hold gate =>
    (.held, { line with link := { line.link with forth := { line.link.forth with gate } } })

/-- What events come to one after the other. -/
def reports (suite : Suite) : List (Event α) → Line → List (Event α × Report α)
  | [], _ => []
  | event :: events, line =>
    let (report, line) := line.happen suite event
    (event, report) :: reports suite events line

end Line

end PeerLink
