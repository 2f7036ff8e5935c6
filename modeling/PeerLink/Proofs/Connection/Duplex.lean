import PeerLink.Proofs.Connection.Delivery
import PeerLink.Proofs.Connection.Halves

/-!
# Both directions of a line

Each end of a line reads and writes. What happens in the one direction is what happens in the other
on the line turned round, so that `Line.Move` is an event with its direction. The two directions do
not meddle with each other, since mail depends on nothing but the writing half of its writer, the
reading half of its reader and the pipe between them (`Line.Carries.alike`). So whatever else both
ends do, a reader hears of what was written for it: `Line.Hears` says by which answers it gets which
tokens, and `Line.Carries.hears` that it does so until it closes its own connection.
-/

namespace PeerLink

/-- What is on its way is a matter of the octets that the writer has not written. -/
theorem Transit.writer_any {mail : Mail} {writer writer' : Option Wire} {taken : Bytes}
    {reader : Wire} {pipe : Pipe} {octets : Bytes}
    (h : Transit mail writer taken reader pipe octets) (unwritten_eq : unwritten writer' =
      unwritten writer) (closed_eq : writer'.isNone = writer.isNone) :
    Transit mail writer' taken reader pipe octets where
  octets_eq := unwritten_eq ▸ h.octets_eq
  closed := closed_eq.trans h.closed
  flushed is_flushed := unwritten_eq.trans (h.flushed is_flushed)
  settled := h.settled
  ended := h.ended
  reset := h.reset
  opened := h.opened
  free := h.free

/-- What is on its way is a matter of the octets that the reader has read ahead. -/
theorem Transit.reader_any {mail : Mail} {writer : Option Wire} {taken : Bytes} {reader : Wire}
    {pipe : Pipe} {octets : Bytes} (h : Transit mail writer taken reader pipe octets)
    (unwritten : Buffer) : Transit mail writer taken { reader with unwritten } pipe octets :=
  ⟨h.octets_eq, h.closed, h.flushed, h.settled, h.ended, h.reset, h.opened, h.free⟩

/-- What a call of a writer is to bring to its reader. -/
def WriteCall.tokens : WriteCall → List Token
  | .byte octet => [.octet octet]
  | .bytes octets => octets.map .octet
  | .object value => [.object value.encode]
  | .flush => []
  | .close => []

namespace Line

variable {α : Type} {suite : Suite} {mail mail' : Mail} {limit : Nat} {line : Line}

/-- The line the other way round. -/
def turned (line : Line) : Line :=
  ⟨line.reader, line.writer, ⟨line.link.back, line.link.forth⟩⟩

/-- Lines that are connected are so in both directions. -/
theorem Connected.turned (connected : line.Connected suite) : line.turned.Connected suite := by
  cases connected with
  | bare address address' forth back => exact .bare address' address back forth
  | dialer meeting agrees registry registry' forth back events met dialer listener =>
    exact .listener meeting agrees registry registry' forth back events met dialer listener
  | listener meeting agrees registry registry' forth back events met dialer listener =>
    exact .dialer meeting agrees registry registry' forth back events met dialer listener

/-- The other direction has no part in the mail. -/
theorem Carries.alike (carries : Carries suite mail limit line) {writer reader : Connection}
    (writes : line.writer.WritesAlike writer) (reads : line.reader.ReadsAlike reader)
    (back : Pipe) : Carries suite mail limit ⟨writer, reader, ⟨line.link.forth, back⟩⟩ := by
  -- What was read ahead by the writer and is unwritten by the reader has no part in what is
  -- carried.
  cases carries with
  | bare bare =>
    cases bare with
    | intro transit valid begun acceptable =>
      cases reads with
      | closed none_left none_left' => simp at none_left
      | bare wire unwritten frames address resolution =>
        cases writes with
        | bare wire readAhead frames frames' address resolution =>
          have transit' := @Transit.writer_any _ _ (some { wire with readAhead }) _ _ _ _ transit
            rfl rfl
          exact .bare (.intro (transit'.reader_any _) valid begun acceptable)
        | closed none_left none_left' channels =>
          obtain ⟨_, _, _, _⟩ := writer
          obtain rfl := none_left
          obtain rfl := none_left'
          cases channels
          exact .bare (.intro (transit.reader_any _) valid begun acceptable)
  | secure secure =>
    cases secure with
    | intro parcels transit valid acceptable place tokens all_sealed =>
      cases reads with
      | closed none_left none_left' => simp at none_left
      | secure wire unwritten layer sender pending remote address resolution =>
        cases writes with
        | secure wire readAhead layer frames unsealed address resolution =>
          have transit' := @Transit.writer_any _ _ (some { wire with readAhead }) _ _ _ _ transit
            rfl rfl
          exact .secure (.intro parcels (transit'.reader_any _) valid acceptable place tokens
            all_sealed)
        | closed none_left none_left' channels =>
          obtain ⟨_, _, _, _⟩ := writer
          obtain rfl := none_left
          obtain rfl := none_left'
          cases channels
          exact .secure (.intro parcels (transit.reader_any _) valid acceptable place tokens
            all_sealed)

/-! ## What both ends do -/

/-- What may happen on a line in one of its directions. -/
inductive Move (α : Type) where
  /-- The writer writes, the reader reads, or the network holds back what is between them. -/
  | forth (event : Event α)
  /-- The reader writes, the writer reads, or the network holds back what is between them. -/
  | back (event : Event α)

/-- What a move comes to, and the line behind it. -/
def move (suite : Suite) (line : Line) : Move α → Report α × Line
  | .forth event => line.happen suite event
  | .back event =>
    let (report, line) := line.turned.happen suite event
    (report, line.turned)

/-- What moves come to one after the other. -/
def trace (suite : Suite) : List (Move α) → Line → List (Move α × Report α)
  | [], _ => []
  | move :: moves, line =>
    (move, (line.move suite move).1) :: trace suite moves (line.move suite move).2

/-- The line behind moves. -/
def behind (suite : Suite) : List (Move α) → Line → Line
  | [], line => line
  | move :: moves, line => behind suite moves (line.move suite move).2

/-- Moves behind others begin with the line behind these. -/
theorem trace_append (moves moves' : List (Move α)) (line : Line) :
    line.trace suite (moves ++ moves') =
      line.trace suite moves ++ (line.behind suite moves).trace suite moves' := by
  induction moves generalizing line with
  | nil => rfl
  | cons move moves ih => exact congrArg (_ :: ·) (ih _)

/-- The line behind moves and others behind them. -/
theorem behind_append (moves moves' : List (Move α)) (line : Line) :
    line.behind suite (moves ++ moves') = (line.behind suite moves).behind suite moves' := by
  induction moves generalizing line with
  | nil => rfl
  | cons move moves ih => exact ih _

/-- What a writer and its reader are told, until the reader closes its connection. -/
def heard : List (Move α × Report α) → List (Event α × Report α)
  | [] => []
  | (.forth event, report) :: later => (event, report) :: heard later
  | (.back (.write .close), _) :: _ => []
  | (.back _, _) :: later => heard later

/-- What the other direction comes to when its writer makes a call. -/
theorem move_back_write (line : Line) (call : WriteCall) :
    line.move suite (.back (.write call : Event α)) =
      (.wrote (line.reader.write suite call line.link.listening).1,
        ⟨line.writer, (line.reader.write suite call line.link.listening).2.1,
          .ofListening (line.reader.write suite call line.link.listening).2.2⟩) := rfl

/-- What the other direction comes to when its reader makes a call. -/
theorem move_back_read (line : Line) (call : ReadCall α) :
    line.move suite (.back (.read call)) =
      (.read (line.writer.call suite call line.link.dialing).1,
        ⟨(line.writer.call suite call line.link.dialing).2.1, line.reader,
          .ofDialing (line.writer.call suite call line.link.dialing).2.2⟩) := rfl

/-- The other direction leaves the mail as it is, unless the reader closes its connection. -/
theorem Carries.back (carries : Carries suite mail limit line) {event : Event α}
    (no_close : event ≠ .write .close) :
    Carries suite mail limit (line.move suite (.back event)).2 := by
  cases event with
  | write call =>
    rcases written : line.reader.write suite call line.link.listening with
      ⟨outcome, reader, stream⟩
    have no_close : call ≠ .close := by
      rintro rfl
      exact no_close rfl
    obtain ⟨reads, same⟩ := Connection.write_readsAlike no_close written
    have alike := carries.alike (.refl _) reads stream.outbound
    rw [show line.link.forth = stream.inbound from same.symm] at alike
    rw [move_back_write, written]
    exact alike
  | read call =>
    rcases called : line.writer.call suite call line.link.dialing with ⟨answer, writer, stream⟩
    obtain ⟨writes, same⟩ := Connection.call_writesAlike called
    have alike := carries.alike writes (.refl _) stream.inbound
    rw [show line.link.forth = stream.outbound from same.symm] at alike
    rw [move_back_read, called]
    exact alike
  | hold gate => exact carries.alike (.refl _) (.refl _) _

/-! ## What a reader gets -/

/-- What a writer has written, as its reader is to get it. -/
def written : List (Event α × Report α) → List Token
  | [] => []
  | (.write call, .wrote (.ok ())) :: later => call.tokens ++ written later
  | _ :: later => written later

/-- The answers of a reader to its calls, and the tokens that it gets by them. -/
inductive Hears (limit : Nat) : Mail → List (Event α × Report α) → List Token → Mail → Prop
  /-- Nothing happens. -/
  | nil {mail : Mail} : Hears limit mail [] [] mail
  /-- The reader makes a call that mirrors the writer, and gets the first tokens. -/
  | read {mail mail' mail'' : Mail} {call : ReadCall α} {report : Report α}
      {later : List (Event α × Report α)} {first rest : List Token} (fits : mail.Fits call)
      (delivers : Delivers limit mail (.read call) report mail')
      (taken : mail.tokens = first ++ mail'.tokens) (hears : Hears limit mail' later rest mail'') :
      Hears limit mail ((.read call, report) :: later) (first ++ rest) mail''
  /-- Anything else happens. -/
  | other {mail mail' mail'' : Mail} {event : Event α} {report : Report α}
      {later : List (Event α × Report α)} {got : List Token}
      (no_read : ∀ call, event ≠ .read call) (delivers : Delivers limit mail event report mail')
      (hears : Hears limit mail' later got mail'') :
      Hears limit mail ((event, report) :: later) got mail''

/-- Every call of a reader mirrors its writer. -/
def Mirrors (limit : Nat) (mail : Mail) (trace : List (Event α × Report α)) : Prop :=
  ∀ before call report later got mail', trace = before ++ (.read call, report) :: later →
    Hears limit mail before got mail' → mail'.Fits call

/-- What a call leaves of the mail is the rest of it. -/
theorem taken_of_delivers {call : ReadCall α} {report : Report α}
    (h : Delivers limit mail (.read call) report mail') :
    ∃ first, mail.tokens = first ++ mail'.tokens := by
  cases h with
  | gotByte tokens => exact ⟨[_], tokens⟩
  | gotBytes tokens some_got le => exact ⟨_, tokens⟩
  | gotObject tokens => exact ⟨[_], tokens⟩
  | _ => exact ⟨[], rfl⟩

/-- A writer adds what it has written to the mail. -/
theorem tokens_of_delivers {call : WriteCall} {report : Report α}
    (h : Delivers limit mail (.write call) report mail') (later : List (Event α × Report α)) :
    mail.tokens ++ written ((.write call, report) :: later) = mail'.tokens ++ written later := by
  cases h with
  | byte octet opened => exact (List.append_assoc _ _ _).symm
  | bytes bytes opened => exact (List.append_assoc _ _ _).symm
  | object object opened acceptable => exact (List.append_assoc _ _ _).symm
  | _ => rfl

/-- What a reader gets is what was on its way and what is written, in this order, up to what is
still on its way. -/
theorem Hears.tokens {trace : List (Event α × Report α)} {got : List Token}
    (h : Hears limit mail trace got mail') :
    mail.tokens ++ written trace = got ++ mail'.tokens := by
  induction h with
  | nil => exact List.append_nil _
  | read fits delivers taken hears ih =>
    rw [taken, List.append_assoc, List.append_assoc, ← ih]
    rfl
  | @other mail mail' mail'' event report later got no_read delivers hears ih =>
    rw [← ih]
    cases event with
    | write call => exact tokens_of_delivers delivers later
    | read call => exact absurd rfl (no_read call)
    | hold gate =>
      cases delivers
      rfl

/-- Whatever both ends do, a reader whose calls mirror its writer gets the mail, until it closes its
own connection. -/
theorem Carries.hears (opens : suite.Opens) (carries : Carries suite mail limit line)
    (moves : List (Move α)) (mirrors : Mirrors limit mail (heard (line.trace suite moves))) :
    ∃ got mail', Hears limit mail (heard (line.trace suite moves)) got mail' := by
  -- By the moves: a read in front adds to what was got, any other move changes the mail only.
  induction moves generalizing mail line with
  | nil => exact ⟨[], mail, .nil⟩
  | cons move moves ih =>
    cases move with
    | forth event =>
      have fits (call : ReadCall α) (read : event = .read call) : mail.Fits call :=
        mirrors [] call _ _ [] mail (by rw [← read]; rfl) .nil
      obtain ⟨mail', delivers, carries'⟩ := carries.happen opens event fits
      by_cases reads : ∃ call, event = .read call
      · obtain ⟨call, rfl⟩ := reads
        obtain ⟨first, taken⟩ := taken_of_delivers delivers
        obtain ⟨rest, mail'', hears⟩ := ih carries' fun before call' report later got mail'' split
            before_heard => mirrors (_ :: before) call' report later _ mail'' (congrArg _ split)
              (.read (fits call rfl) delivers taken before_heard)
        exact ⟨_, mail'', .read (fits call rfl) delivers taken hears⟩
      · have no_read (call : ReadCall α) : event ≠ .read call := fun read => reads ⟨call, read⟩
        obtain ⟨got, mail'', hears⟩ := ih carries' fun before call' report later got mail'' split
            before_heard => mirrors (_ :: before) call' report later _ mail'' (congrArg _ split)
              (.other no_read delivers before_heard)
        exact ⟨got, mail'', .other no_read delivers hears⟩
    | back event =>
      by_cases close : event = .write .close
      · subst close
        exact ⟨[], mail, .nil⟩
      · have skipped (report : Report α) (later : List (Move α × Report α)) :
            heard ((.back event, report) :: later) = heard later := by
          rw [heard]
          rintro rfl
          exact close rfl
        rw [trace, skipped] at mirrors ⊢
        exact ih (carries.back close) mirrors

end Line

end PeerLink
