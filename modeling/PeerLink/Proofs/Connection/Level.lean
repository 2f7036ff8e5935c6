import PeerLink.Proofs.Connection.Calls
import PeerLink.Proofs.Patience.Asking

/-!
# Two connections over the same octets

How many octets a single read gives depends on what was read ahead and on the pace of the stream, so
that two connections with the same octets before them need not answer the same calls alike. They
deliver the same all the same: `Connection.mirror` makes calls on the first one while octets arrive
at both, and asks the second one each time for as many octets as the call has given.
`Connection.Level` is what is kept for bare connections by whatever happens (`Level.arrive`,
`Level.close`, `Level.call`), so that both deliver the same call by call (`Level.mirror`).
-/

namespace PeerLink

/-! ## What happens to both streams -/

/-- What a reader finds behind the octets when the stream has come to its end, by what it has found
there before. -/
def Ending.behind (ending : Ending) (verge : ReadResult) : ReadResult :=
  match ending with
  | .silent => verge
  | .reset => .failed .connectionReset
  | .ended =>
    match verge with
    | .failed e => .failed e
    | _ => .stop

/-- What is behind the octets of a stream that has come to its end. -/
theorem Stream.verge_close {stream : Stream} (free : stream.inbound.gate = none)
    (ending : Ending) :
    (stream.close ending).inbound.verge = ending.behind stream.inbound.verge := by
  have free' : (stream.close ending).inbound.gate = none := by cases ending <;> exact free
  rw [Pipe.verge_of_gate_eq_none free, Pipe.verge_of_gate_eq_none free']
  cases ending with
  | silent => rfl
  | reset => rfl
  | ended =>
    cases broken : stream.inbound.reset <;> cases settled : stream.inbound.ended <;>
      simp [Stream.close, Pipe.finish, Ending.behind, broken]

namespace Wire

variable {verge : ReadResult} {wire wire' : Wire} {stream stream' : Stream}

/-- Two readers with the same octets before them, the other way round. -/
theorem Later.symm (later : Later [] verge verge wire stream wire' stream') :
    Later [] verge verge wire' stream' wire stream where
  octets := by rw [later.octets, List.append_nil, List.append_nil]
  behind := later.behind'
  behind' := later.behind
  awaited := .inr ⟨rfl, rfl⟩
  free := later.free'
  free' := later.free
  unwritten := later.unwritten.symm
  outbound := later.outbound.symm

/-- The same octets arrive at both readers. -/
theorem Later.arrive_both (later : Later [] verge verge wire stream wire' stream') (bytes : Bytes) :
    Later [] verge verge wire (stream.arrive bytes) wire' (stream'.arrive bytes) := by
  refine ⟨?_, ?_, ?_, .inr ⟨rfl, rfl⟩, later.free, later.free', later.unwritten, later.outbound⟩
  · rw [ahead_arrive wire later.free, ahead_arrive wire' later.free', later.octets,
      List.append_nil, List.append_nil]
  · rw [Stream.verge_arrive later.free, later.behind]
  · rw [Stream.verge_arrive later.free', later.behind']

/-- The streams of both readers come to their end. -/
theorem Later.close_both (later : Later [] verge verge wire stream wire' stream')
    (ending : Ending) :
    Later [] (ending.behind verge) (ending.behind verge) wire (stream.close ending) wire'
      (stream'.close ending) where
  octets := by
    have queue (stream : Stream) :
        (stream.close ending).inbound.queue = stream.inbound.queue := by cases ending <;> rfl
    have free : (stream.close ending).inbound.gate = none := by cases ending <;> exact later.free
    have free' : (stream'.close ending).inbound.gate = none := by cases ending <;> exact later.free'
    have octets := later.octets
    rw [ahead, ahead, Pipe.arrived_of_gate_eq_none later.free,
      Pipe.arrived_of_gate_eq_none later.free'] at octets
    rw [ahead, ahead, Pipe.arrived_of_gate_eq_none free, Pipe.arrived_of_gate_eq_none free',
      queue, queue]
    exact octets
  behind := by rw [Stream.verge_close later.free, later.behind]
  behind' := by rw [Stream.verge_close later.free', later.behind']
  awaited := .inr ⟨rfl, rfl⟩
  free := by cases ending <;> exact later.free
  free' := by cases ending <;> exact later.free'
  unwritten := later.unwritten
  outbound := by cases ending <;> exact later.outbound

end Wire

/-! ## Calls and asks -/

variable {α : Type}

/-- What a call that reads octets has delivered; `none` if it waits. -/
def Answer.ofOctets : Outcome ConnectionError Bytes → Option (Answer α)
  | .waiting => none
  | .failed e => some (.octets [] (some e))
  | .done bytes => some (.octets bytes none)

/-- What a call has delivered; `none` if it waits. -/
def ReadAnswer.delivered : ReadAnswer α → Option (Answer α)
  | byte outcome => Answer.ofOctets (outcome.map Option.toList)
  | bytes outcome => Answer.ofOctets outcome
  | object .waiting => none
  | object (.failed e) => some (.object (.error e))
  | object (.done value) => some (.object (.ok value))

/-- The ask for what a call has delivered. A call for at most `n` octets that has given some is an
ask for as many. -/
def ReadCall.ask (delivered : Option (Answer α)) : ReadCall α → Ask α
  | .byte => .octets 1
  | .bytes n =>
    match delivered with
    | some (.octets (octet :: rest) none) => .octets (octet :: rest).length
    | _ => .octets n
  | .object decoder => .object decoder

/-- Something that happens to a connection that is read. -/
inductive Reading (α : Type) where
  /-- Octets arrive. -/
  | arrives (bytes : Bytes)
  /-- The stream comes to its end. -/
  | ends (ending : Ending)
  /-- A call is made. -/
  | call (call : ReadCall α)

namespace Connection

/-- Makes calls on the first connection, and asks the second one each time for what the call has
delivered, while the same happens to the streams of both. Gives what both deliver, call by call. -/
def mirror (suite : Suite) :
    List (Reading α) → Connection × Stream → Connection × Stream →
      List (Option (Answer α) × Option (Answer α))
  | [], _, _ => []
  | .arrives bytes :: readings, (connection, stream), (connection', stream') =>
    mirror suite readings (connection, stream.arrive bytes) (connection', stream'.arrive bytes)
  | .ends ending :: readings, (connection, stream), (connection', stream') =>
    mirror suite readings (connection, stream.close ending) (connection', stream'.close ending)
  | .call call :: readings, (connection, stream), (connection', stream') =>
    let (answer, next) := connection.call suite call stream
    let (answer', _, next') := connection'.answer suite [] stream' (call.ask answer.delivered)
    (answer.delivered, answer') :: mirror suite readings next next'

/-- Two bare connections with the same octets before them. -/
inductive Level : Connection → Stream → Connection → Stream → Prop
  /-- What is behind the octets is the same as well. -/
  | intro {verge : ReadResult} {wire wire' : Wire} {stream stream' : Stream}
      (later : wire.Later [] verge verge stream wire' stream') (frames : LengthPrefixed.State)
      (address : Option Endpoint) (resolution : Resolution) :
      Level ⟨some wire, .bare frames, address, resolution⟩ stream
        ⟨some wire', .bare frames, address, resolution⟩ stream'

variable {suite : Suite} {connection connection' : Connection} {stream stream' : Stream}

/-- Two bare connections with the same octets before them, the other way round. -/
theorem Level.symm (level : Level connection stream connection' stream') :
    Level connection' stream' connection stream := by
  cases level with
  | intro later => exact .intro later.symm ..

/-- Two bare connections that have the same octets before them as one between them. -/
theorem Level.trans {connection'' : Connection} {stream'' : Stream}
    (level : Level connection stream connection' stream')
    (level' : Level connection' stream' connection'' stream'') :
    Level connection stream connection'' stream'' := by
  cases level with
  | intro later frames address resolution =>
    cases level' with
    | intro later' =>
      obtain rfl := later.behind'.symm.trans later'.behind
      exact .intro (later.symm.unique later') ..

/-- A connection with the same octets before it as a bare one. -/
theorem Level.of_later {verge : ReadResult}
    (later : Later [] verge verge connection stream connection' stream')
    (bare : connection'.isSecure = false) : Level connection stream connection' stream' := by
  cases later with
  | bare later => exact .intro later ..
  | secure => cases bare

/-- Both connections have written the same. -/
theorem Level.outbound (level : Level connection stream connection' stream') :
    stream'.outbound = stream.outbound := by
  cases level with
  | intro later => exact later.outbound

/-- The same octets arrive at both. -/
theorem Level.arrive (level : Level connection stream connection' stream') (bytes : Bytes) :
    Level connection (stream.arrive bytes) connection' (stream'.arrive bytes) := by
  cases level with
  | intro later => exact .intro (later.arrive_both bytes) ..

/-- Both streams come to their end. -/
theorem Level.close (level : Level connection stream connection' stream') (ending : Ending) :
    Level connection (stream.close ending) connection' (stream'.close ending) := by
  cases level with
  | intro later => exact .intro (later.close_both ending) ..

/-- An ask for an object is answered as the call for it is. -/
theorem answer_eq_call (suite : Suite) (decoder : Json.Decoder α) (connection : Connection)
    (stream : Stream) :
    connection.answer suite [] stream (.object decoder) =
      ((connection.call suite (.object decoder) stream).1.delivered, [],
        (connection.call suite (.object decoder) stream).2) := by
  rcases read : connection.readObject suite decoder stream with ⟨_ | _ | _, next, rest⟩ <;>
    simp only [answer, call, read, ReadAnswer.delivered]

/-- A bare connection that is asked for octets. -/
theorem answer_bare (suite : Suite) (total : Nat) (frames : LengthPrefixed.State) (wire : Wire)
    (stream : Stream) (address : Option Endpoint) (resolution : Resolution) :
    ∃ next rest, wire.Advanced stream next rest ∧
      next.ahead rest = (wire.ahead stream).drop total ∧
      (total ≤ (wire.ahead stream).length → answer suite [] ⟨some wire, .bare frames, address,
          resolution⟩ stream (.octets total : Ask α) =
        (some (.octets ((wire.ahead stream).take total) none), [],
          ⟨some next, .bare frames, address, resolution⟩, rest)) ∧
      (wire.ahead stream = [] → total ≠ 0 → answer suite [] ⟨some wire, .bare frames, address,
          resolution⟩ stream (.octets total : Ask α) =
        (octetsAnswer [] (exhausted stream.inbound.verge), [],
          ⟨some next, .bare frames, address, resolution⟩, rest)) := by
  obtain ⟨outcome, next, rest, collected, advanced, octets, cases⟩ :=
    @collect_bare suite total [] address resolution frames wire stream
  refine ⟨next, rest, advanced, octets, fun enough => ?_, fun nothing some_asked => ?_⟩
  · rcases cases with ⟨-, rfl⟩ | ⟨short, -⟩
    · exact answer_octets collected
    · exact absurd short (Nat.not_lt.2 enough)
  · rw [nothing, List.take_nil, List.append_nil] at collected
    rcases cases with ⟨enough, -⟩ | ⟨-, rfl⟩
    · rw [nothing] at enough
      exact absurd (Nat.le_zero.1 enough) some_asked
    · rw [answer_octets collected, ite_self]

/-- The second connection has as many octets as a read of the first one has given. -/
theorem Level.readBytes (level : Level connection stream connection' stream') {n : Nat}
    {outcome : Outcome ConnectionError Bytes} {next : Connection} {rest : Stream}
    (read : connection.readBytes suite n stream = (outcome, next, rest)) :
    (∀ bytes, outcome = .done bytes → bytes.length ≤ n) ∧
      ∃ next' rest', connection'.answer suite [] stream'
          ((ReadCall.bytes n : ReadCall α).ask (Answer.ofOctets outcome)) =
            (Answer.ofOctets outcome, [], next', rest') ∧
        Level next rest next' rest' := by
  cases level with
  | @intro verge wire wire' _ _ later frames address resolution =>
    have same : wire'.ahead stream' = wire.ahead stream := by rw [later.octets, List.append_nil]
    by_cases none_asked : n = 0
    · subst none_asked
      simp only [Connection.readBytes, if_true, Prod.mk.injEq] at read
      obtain ⟨rfl, rfl, rfl⟩ := read
      obtain ⟨next', rest', advanced, octets, enough, -⟩ :=
        @answer_bare α suite 0 frames wire' stream' address resolution
      refine ⟨by rintro _ ⟨⟩; exact Nat.le_refl 0, _, rest', enough (Nat.zero_le _),
        .intro (later.advanced (Wire.Advanced.refl ..) advanced ?_) ..⟩
      rw [octets, List.drop_zero, same, List.append_nil]
    simp only [Connection.readBytes, if_neg none_asked] at read
    by_cases nothing : wire.ahead stream = []
    · -- What is behind is the same.
      obtain ⟨next', rest', advanced, octets, -, exhausts⟩ :=
        @answer_bare α suite n frames wire' stream' address resolution
      rw [Wire.readSome_of_nothing nothing, later.behind, Prod.mk.injEq, Prod.mk.injEq] at read
      obtain ⟨rfl, rfl, rfl⟩ := read
      have answered := exhausts (same.trans nothing) none_asked
      rw [later.behind'] at answered
      have level : Level ⟨some wire, .bare frames, address, resolution⟩ stream
          ⟨some next', .bare frames, address, resolution⟩ rest' := by
        refine .intro (later.advanced (Wire.Advanced.refl ..) advanced ?_) ..
        rw [octets, same, nothing, List.drop_nil, List.append_nil]
      cases verge with
      | data bytes => exact absurd later.behind (stream.inbound.verge_ne_data bytes)
      | stop => exact ⟨by rintro _ ⟨⟩; exact Nat.zero_le n, _, rest', answered, level⟩
      | wait => exact ⟨by rintro _ ⟨⟩, _, rest', answered, level⟩
      | failed e => exact ⟨by rintro _ ⟨⟩, _, rest', answered, level⟩
    · -- The first connection gives some of the octets, and the second one has as many.
      obtain ⟨bytes, next₁, rest₁, read₁, some_octets, le, octets₁, advanced₁⟩ :=
        Wire.readSome_of_ahead nothing none_asked
      rw [read₁, Prod.mk.injEq, Prod.mk.injEq] at read
      obtain ⟨rfl, rfl, rfl⟩ := read
      obtain ⟨next', rest', advanced, octets, enough, -⟩ :=
        @answer_bare α suite bytes.length frames wire' stream' address resolution
      rw [same, ← octets₁] at octets enough
      rw [List.take_left] at enough
      rw [List.drop_left] at octets
      obtain ⟨b, bytes, rfl⟩ := List.exists_cons_of_ne_nil some_octets
      refine ⟨by rintro _ ⟨⟩; exact le, _, rest', enough (by simp),
        .intro (later.advanced advanced₁ advanced ?_) ..⟩
      rw [octets, List.append_nil]

/-- What a read of at most one octet delivers is delivered octet by octet. -/
theorem delivered_byte {outcome : Outcome ConnectionError Bytes}
    (le : ∀ bytes, outcome = .done bytes → bytes.length ≤ 1) :
    (ReadAnswer.byte (outcome.map List.head?) : ReadAnswer α).delivered =
        Answer.ofOctets outcome ∧
      (ReadCall.bytes 1 : ReadCall α).ask (Answer.ofOctets outcome) = .octets 1 := by
  match outcome with
  | .waiting => exact ⟨rfl, rfl⟩
  | .failed e => exact ⟨rfl, rfl⟩
  | .done [] => exact ⟨rfl, rfl⟩
  | .done [b] => exact ⟨rfl, rfl⟩
  | .done (b :: c :: bytes) => exact absurd (le _ rfl) (by simp)

/-- The second connection reads the frame that the first one reads. -/
theorem Level.readFrame (level : Level connection stream connection' stream')
    {outcome : Outcome ConnectionError (Option Bytes)} {next : Connection} {rest : Stream}
    (read : connection.readFrame suite stream = (outcome, next, rest)) :
    ∃ next' rest', connection'.readFrame suite stream' = (outcome, next', rest') ∧
      Level next rest next' rest' := by
  cases level with
  | @intro verge wire wire' _ _ later frames address resolution =>
    simp only [Connection.readFrame] at read ⊢
    rcases read₁ : wire.readFrame (LengthPrefixed.framing ConnectionError.io) frames stream with
      ⟨outcome₁, frames₁, wire₁, stream₁⟩
    simp only [read₁, Prod.mk.injEq] at read
    obtain ⟨rfl, rfl, rfl⟩ := read
    obtain ⟨wire₂, stream₂, read₂, later'⟩ :=
      later.readFrame (LengthPrefixed.incremental _) read₁ (.inr ⟨rfl, rfl⟩)
    simp only [read₂]
    exact ⟨_, _, rfl, .intro later' ..⟩

/-- Whatever a call on the first connection delivers, the second one delivers as well. -/
theorem Level.call (level : Level connection stream connection' stream') {call : ReadCall α}
    {answer : ReadAnswer α} {next : Connection} {rest : Stream}
    (called : connection.call suite call stream = (answer, next, rest)) :
    ∃ next' rest', connection'.answer suite [] stream' (call.ask answer.delivered) =
        (answer.delivered, [], next', rest') ∧
      Level next rest next' rest' := by
  cases call with
  | byte =>
    rcases read : connection.readBytes suite 1 stream with ⟨outcome, next₁, rest₁⟩
    simp only [call_byte, read, Prod.mk.injEq] at called
    obtain ⟨rfl, rfl, rfl⟩ := called
    obtain ⟨le, answered⟩ := @Level.readBytes α _ _ _ _ _ level _ _ _ _ read
    obtain ⟨delivered, asked⟩ := @delivered_byte α outcome le
    rw [delivered]
    rwa [asked] at answered
  | bytes n =>
    rcases read : connection.readBytes suite n stream with ⟨outcome, next₁, rest₁⟩
    simp only [Connection.call, read, Prod.mk.injEq] at called
    obtain ⟨rfl, rfl, rfl⟩ := called
    exact (level.readBytes read).2
  | object decoder =>
    rcases read : connection.readFrame suite stream with ⟨outcome, next₁, rest₁⟩
    obtain ⟨next₂, rest₂, read', level'⟩ := level.readFrame read
    -- What the object comes to is decided by the frame, which is the same.
    have answered := @answer_eq_call α suite decoder connection stream
    rw [called, answer_object read] at answered
    simp only [Prod.mk.injEq] at answered
    obtain ⟨delivered, -, rfl, rfl⟩ := answered
    refine ⟨next₂, rest₂, ?_, level'⟩
    rw [ReadCall.ask, answer_object read', ← delivered, ite_self]

/-- Both connections deliver the same, call by call. -/
theorem Level.mirror (level : Level connection stream connection' stream')
    (readings : List (Reading α)) :
    ∀ both ∈ Connection.mirror suite readings (connection, stream) (connection', stream'),
      both.2 = both.1 := by
  -- Induction on what happens: both connections are level again behind each of it.
  induction readings generalizing connection stream connection' stream' with
  | nil => simp [Connection.mirror]
  | cons reading readings ih =>
    cases reading with
    | arrives bytes => exact ih (level.arrive bytes)
    | ends ending => exact ih (level.close ending)
    | call call =>
      rcases called : connection.call suite call stream with ⟨answer, next, rest⟩
      obtain ⟨next', rest', answered, level'⟩ := level.call called
      rw [Connection.mirror, called]
      simp only [answered, List.forall_mem_cons]
      exact ⟨trivial, ih level'⟩

end Connection

end PeerLink
