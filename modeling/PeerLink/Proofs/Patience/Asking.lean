import PeerLink.Proofs.Patience.Collecting

/-!
# Reads of a connection

A reader asks for objects and for certain numbers of octets. An ask that has to wait is made once
more when more octets have arrived: the object is asked for again, and the octets that were gathered
are kept. `Connection.Later.answer` and `Connection.Later.answer_again` say that an ask is answered
the same, whenever the octets arrive.
-/

namespace PeerLink

/-- Something that a reader asks for. -/
inductive Ask (α : Type) where
  /-- The next object. -/
  | object (decoder : Json.Decoder α)
  /-- As many octets. -/
  | octets (total : Nat)

/-- What is answered. -/
inductive Answer (α : Type) where
  /-- An object, or why there is none. -/
  | object (result : Except ConnectionError α)
  /-- The octets that were read, and why they are fewer than were asked for, if it is not the end of
  the stream. -/
  | octets (bytes : Bytes) (fault : Option ConnectionError)
  deriving DecidableEq

namespace Connection

variable {α : Type} {suite : Suite} {more : Bytes} {verge verge' : ReadResult}
  {connection connection' : Connection} {stream stream' : Stream}

/-- Answers an ask; there is no answer yet if the connection waits. Gives also the octets that were
gathered for an ask that is not answered. -/
def answer (suite : Suite) (gathered : Bytes) (connection : Connection) (stream : Stream) :
    Ask α → Option (Answer α) × Bytes × Connection × Stream
  | .object decoder =>
    match connection.readObject suite decoder stream with
    | (.waiting, connection, stream) => (none, gathered, connection, stream)
    | (.failed e, connection, stream) => (some (.object (.error e)), [], connection, stream)
    | (.done value, connection, stream) => (some (.object (.ok value)), [], connection, stream)
  | .octets total =>
    match connection.collect suite total gathered stream with
    | (.waiting, gathered, connection, stream) => (none, gathered, connection, stream)
    | (.failed e, gathered, connection, stream) =>
      (some (.octets gathered (some e)), [], connection, stream)
    | (.done (), gathered, connection, stream) =>
      (some (.octets gathered none), [], connection, stream)

/-! ## Asks -/

/-- What the frame that was read for an object comes to. -/
def objectAnswer (decoder : Json.Decoder α) :
    Outcome ConnectionError (Option Bytes) → Option (Answer α)
  | .waiting => none
  | .failed e => some (.object (.error e))
  | .done none =>
    some (.object (.error (.io (.unexpectedEof "connection closed by the remote peer"))))
  | .done (some frame) => some (.object ((decoder.decode frame).mapError .codec))

/-- An ask for an object is an ask for the frame with it. -/
theorem answer_object {decoder : Json.Decoder α} {gathered : Bytes}
    {outcome : Outcome ConnectionError (Option Bytes)} {next : Connection} {rest : Stream}
    (read : connection.readFrame suite stream = (outcome, next, rest)) :
    connection.answer suite gathered stream (.object decoder) =
      (objectAnswer decoder outcome, if outcome = .waiting then gathered else [], next, rest) := by
  simp only [answer, readObject, read]
  rcases outcome with (_ | frame) | e | _
  · rfl
  · simp only [objectAnswer]
    cases decoder.decode frame <;> rfl
  · rfl
  · rfl

/-- There is no answer only if the frame is waited for. -/
theorem objectAnswer_eq_none {decoder : Json.Decoder α}
    {outcome : Outcome ConnectionError (Option Bytes)} :
    objectAnswer decoder outcome = none ↔ outcome = .waiting := by
  rcases outcome with (_ | frame) | e | _ <;> simp [objectAnswer]

/-- What the collecting of octets comes to. -/
def octetsAnswer (gathered : Bytes) : Outcome ConnectionError Unit → Option (Answer α)
  | .waiting => none
  | .failed e => some (.octets gathered (some e))
  | .done () => some (.octets gathered none)

/-- An ask for octets is answered from the ones that are collected. -/
theorem answer_octets {total : Nat} {gathered gathered' : Bytes}
    {outcome : Outcome ConnectionError Unit} {next : Connection} {rest : Stream}
    (collected : connection.collect suite total gathered stream =
      (outcome, gathered', next, rest)) :
    connection.answer suite gathered stream (.octets total : Ask α) =
      (octetsAnswer gathered' outcome, if outcome = .waiting then gathered' else [], next,
        rest) := by
  simp only [answer, collected]
  rcases outcome with _ | e | _ <;> rfl

/-- There is no answer only if octets are waited for. -/
theorem octetsAnswer_eq_none {gathered : Bytes} {outcome : Outcome ConnectionError Unit} :
    (octetsAnswer gathered outcome : Option (Answer α)) = none ↔ outcome = .waiting := by
  rcases outcome with _ | e | _ <;> simp [octetsAnswer]

/-- Both connections answer the same, unless the first one has to wait. -/
theorem Later.answer (later : Later more verge verge' connection stream connection' stream')
    {ask : Ask α} {gathered left : Bytes} {result : Option (Answer α)} {next : Connection}
    {rest : Stream}
    (answered : connection.answer suite gathered stream ask = (result, left, next, rest))
    (ready : result ≠ none ∨ more = [] ∧ verge = verge') :
    ∃ next' rest', connection'.answer suite gathered stream' ask = (result, left, next', rest') ∧
      Later more verge verge' next rest next' rest' := by
  cases ask with
  | object decoder =>
    rcases read : connection.readFrame suite stream with ⟨outcome, next₁, rest₁⟩
    rw [answer_object read] at answered
    simp only [Prod.mk.injEq] at answered
    obtain ⟨rfl, rfl, rfl, rfl⟩ := answered
    -- What the object comes to is decided by the frame, which is the same.
    obtain ⟨next', rest', read', later'⟩ := later.readFrame read
      (ready.imp_left fun some_answer => mt objectAnswer_eq_none.2 some_answer)
    exact ⟨_, _, answer_object read', later'⟩
  | octets total =>
    rcases collected : connection.collect suite total gathered stream with
      ⟨outcome, gathered', next₁, rest₁⟩
    rw [answer_octets collected] at answered
    simp only [Prod.mk.injEq] at answered
    obtain ⟨rfl, rfl, rfl, rfl⟩ := answered
    obtain ⟨next', rest', collected', later'⟩ := later.collect collected
      (ready.imp_left fun some_answer => mt octetsAnswer_eq_none.2 some_answer)
    exact ⟨_, _, answer_octets collected', later'⟩

/-- A connection that has waited answers what the second one answers, which has had all octets
before it from the beginning. -/
theorem Later.answer_again (later : Later more .wait verge' connection stream connection' stream')
    {ask : Ask α} {gathered left : Bytes} {next again : Connection} {rest stream'' : Stream}
    (waited : connection.answer suite gathered stream ask = (none, left, next, rest))
    (later' : Later more .wait verge' next rest again stream'') :
    ∃ result left' next₁ rest₁ next₂ rest₂,
      again.answer suite left stream'' ask = (result, left', next₁, rest₁) ∧
      connection'.answer suite gathered stream' ask = (result, left', next₂, rest₂) ∧
      Later [] verge' verge' next₁ rest₁ next₂ rest₂ := by
  cases ask with
  | object decoder =>
    rcases read : connection.readFrame suite stream with ⟨outcome, next₁, rest₁⟩
    rw [answer_object read] at waited
    simp only [Prod.mk.injEq, objectAnswer_eq_none] at waited
    obtain ⟨rfl, rfl, rfl, rfl⟩ := waited
    obtain ⟨outcome, next₁, rest₁, next₂, rest₂, read₁, read₂, later₂⟩ :=
      later.readFrame_again read later'
    exact ⟨_, _, _, _, _, _, answer_object read₁, answer_object read₂, later₂⟩
  | octets total =>
    rcases collected : connection.collect suite total gathered stream with
      ⟨outcome, gathered', next₁, rest₁⟩
    rw [answer_octets collected] at waited
    simp only [Prod.mk.injEq, octetsAnswer_eq_none] at waited
    obtain ⟨rfl, rfl, rfl, rfl⟩ := waited
    obtain ⟨outcome, left', next₁, rest₁, next₂, rest₂, collected₁, collected₂, later₂⟩ :=
      later.collect_again collected later'
    exact ⟨_, _, _, _, _, _, answer_octets collected₁, answer_octets collected₂, later₂⟩

end Connection

end PeerLink
