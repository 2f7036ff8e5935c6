import PeerLink.Proofs.Framing.Reading

/-!
# What a reader finds later

A reader that waits is run again when more octets have arrived. `Wire.Later` compares it with a
reader that finds all of these octets at once: both are at the same point, and the second one has
the octets before it that the first one gets later on. For each operation of a wire there are two
lemmas. When the first reader does not have to wait for them, both do the same. When it waits and is
run again, it does what the second one does the first time (`Later.readFrame_again`,
`Later.readExactly_again`).
-/

namespace PeerLink

/-! ## What arrives -/

/-- Without a gate it depends on the end of a pipe what is behind its octets. -/
theorem Pipe.verge_of_gate_eq_none {pipe : Pipe} (free : pipe.gate = none) :
    pipe.verge = if pipe.reset then .failed .connectionReset
      else if pipe.ended then .stop else .wait := by
  have all_arrived : ¬ pipe.arrived.length < pipe.queue.size := by
    rw [arrived_of_gate_eq_none free, Buffer.size_eq_length]
    exact Nat.lt_irrefl _
  rw [verge, if_neg all_arrived]

/-- How a stream goes on behind the octets that arrive. -/
inductive Ending where
  /-- Nothing more comes, and the reader goes on waiting. -/
  | silent
  /-- The stream ends. -/
  | ended
  /-- The stream fails. -/
  | reset

/-- What a reader finds behind the octets. -/
def Ending.verge : Ending → ReadResult
  | silent => .wait
  | ended => .stop
  | reset => .failed .connectionReset

/-- Octets arrive at the reader of a stream. -/
def Stream.arrive (bytes : Bytes) (stream : Stream) : Stream :=
  { stream with inbound := stream.inbound.inject bytes }

/-- The stream of a reader comes to its end. -/
def Stream.close (ending : Ending) (stream : Stream) : Stream :=
  { stream with
    inbound :=
      match ending with
      | .silent => stream.inbound
      | .ended => stream.inbound.finish
      | .reset => { stream.inbound with reset := true } }

/-- Octets that arrive are behind the ones that are before a reader. -/
theorem Wire.ahead_arrive (wire : Wire) {stream : Stream} (free : stream.inbound.gate = none)
    (bytes : Bytes) : wire.ahead (stream.arrive bytes) = wire.ahead stream ++ bytes := by
  have free' : (stream.arrive bytes).inbound.gate = none := free
  rw [ahead, ahead, Pipe.arrived_of_gate_eq_none free, Pipe.arrived_of_gate_eq_none free',
    List.append_assoc]
  exact congrArg _ (Buffer.toBytes_append _ _)

/-- Octets that arrive do not change what is behind all octets. -/
theorem Stream.verge_arrive {stream : Stream} (free : stream.inbound.gate = none) (bytes : Bytes) :
    (stream.arrive bytes).inbound.verge = stream.inbound.verge := by
  have free' : (stream.arrive bytes).inbound.gate = none := free
  rw [Pipe.verge_of_gate_eq_none free, Pipe.verge_of_gate_eq_none free']
  rfl

namespace Wire

/-- The second reader has before it what the first one has and `more` octets behind that. Behind all
octets the first reader finds `verge` and the second one `verge'`; they may differ only if the first
one is still to wait for more. -/
structure Later (more : Bytes) (verge verge' : ReadResult) (wire : Wire) (stream : Stream)
    (wire' : Wire) (stream' : Stream) : Prop where
  /-- The octets before the second reader. -/
  octets : wire'.ahead stream' = wire.ahead stream ++ more
  /-- What is behind the octets of the first reader. -/
  behind : stream.inbound.verge = verge
  /-- What is behind the octets of the second reader. -/
  behind' : stream'.inbound.verge = verge'
  /-- Nothing follows an end or a failure of the stream. -/
  awaited : verge = .wait ∨ more = [] ∧ verge = verge'
  /-- Nothing is held back from the first reader. -/
  free : stream.inbound.gate = none
  /-- Nothing is held back from the second reader. -/
  free' : stream'.inbound.gate = none
  /-- What is to be written is the same. -/
  unwritten : wire'.unwritten = wire.unwritten
  /-- What was written is the same. -/
  outbound : stream'.outbound = stream.outbound

variable {σ ε : Type} {framing : Framing σ ε} {more : Bytes} {verge verge' : ReadResult}
  {wire wire' : Wire} {stream stream' : Stream}

/-- When the first reader does not wait at the end of its octets, the second one has no more. -/
theorem Later.nothing_more (later : Later more verge verge' wire stream wire' stream')
    (ready : verge ≠ .wait ∨ more = [] ∧ verge = verge') : more = [] ∧ verge = verge' := by
  rcases later.awaited with waits | ended
  · exact ready.resolve_left (· waits)
  · exact ended

/-- When octets arrive at the first reader there are fewer that only the second one has. -/
theorem Later.arrive {bytes : Bytes}
    (later : Later (bytes ++ more) .wait verge' wire stream wire' stream') :
    Later more .wait verge' wire (stream.arrive bytes) wire' stream' where
  __ := later
  octets := by rw [later.octets, ahead_arrive wire later.free, List.append_assoc]
  behind := by rw [Stream.verge_arrive later.free, later.behind]
  awaited := .inl rfl

/-- A reader that waits, and the same one when octets have arrived and the stream has come to its
end. -/
theorem Later.supply (later : Later more .wait verge' wire stream wire' stream') (bytes : Bytes)
    (ending : Ending) :
    Later bytes .wait ending.verge wire stream wire ((stream.arrive bytes).close ending) := by
  have free' : ((stream.arrive bytes).close ending).inbound.gate = none := by
    cases ending <;> exact later.free
  have queue : ((stream.arrive bytes).close ending).inbound.queue =
      stream.inbound.queue.append bytes := by
    cases ending <;> rfl
  have behind := later.behind
  rw [Pipe.verge_of_gate_eq_none later.free] at behind
  refine ⟨?_, later.behind, ?_, .inl rfl, later.free, free', rfl, by cases ending <;> rfl⟩
  · rw [ahead, ahead, Pipe.arrived_of_gate_eq_none later.free,
      Pipe.arrived_of_gate_eq_none free', queue, Buffer.toBytes_append, List.append_assoc]
  · rw [Pipe.verge_of_gate_eq_none free']
    -- The stream has not come to its end before.
    have unbroken : stream.inbound.reset = false := by
      by_contra broken
      rw [if_pos (by simpa using broken)] at behind
      cases behind
    have unended : stream.inbound.ended = false := by
      by_contra ended
      rw [unbroken, if_neg (by simp), if_pos (by simpa using ended)] at behind
      cases behind
    cases ending <;> simp [Stream.arrive, Stream.close, Pipe.inject, Pipe.finish, Ending.verge,
      unbroken, unended]

/-- A reader at the beginning of a stream that may be slow, and one at the beginning of a stream at
which all octets have arrived. The pace is not what octets there are. -/
theorem later_new (outbound : Pipe) (pace : Nat → Option Nat) (bytes : Bytes) (ending : Ending) :
    Later bytes .wait ending.verge new ⟨{ Pipe.new with pace }, outbound⟩ new
      ((Stream.arrive bytes ⟨Pipe.new, outbound⟩).close ending) := by
  have fast : Later [] .wait .wait new ⟨Pipe.new, outbound⟩ new ⟨Pipe.new, outbound⟩ :=
    ⟨rfl, rfl, rfl, .inl rfl, rfl, rfl, rfl, rfl⟩
  have whole := fast.supply bytes ending
  exact ⟨whole.octets, rfl, whole.behind', .inl rfl, rfl, whole.free', rfl, whole.outbound⟩

/-- Two readers that have the same before them as a third one, and the same octets behind that, have
the same before them. -/
theorem Later.unique {wire'' : Wire} {stream'' : Stream}
    (later : Later more verge verge' wire stream wire' stream')
    (later' : Later more verge verge' wire stream wire'' stream'') :
    Later [] verge' verge' wire' stream' wire'' stream'' where
  octets := by rw [later'.octets, later.octets, List.append_nil]
  behind := later.behind'
  behind' := later'.behind'
  awaited := .inr ⟨rfl, rfl⟩
  free := later.free'
  free' := later'.free'
  unwritten := later'.unwritten.trans later.unwritten.symm
  outbound := later'.outbound.trans later.outbound.symm

/-- Both readers read, and still the second one has more octets before it. -/
theorem Later.advanced (later : Later more verge verge' wire stream wire' stream')
    {next next' : Wire} {rest rest' : Stream} (advanced : wire.Advanced stream next rest)
    (advanced' : wire'.Advanced stream' next' rest')
    (octets : next'.ahead rest' = next.ahead rest ++ more) :
    Later more verge verge' next rest next' rest' where
  octets := octets
  behind := advanced.verge.trans later.behind
  behind' := advanced'.verge.trans later.behind'
  awaited := later.awaited
  free := advanced.gate_eq_none later.free
  free' := advanced'.gate_eq_none later.free'
  unwritten := by rw [advanced'.unwritten, later.unwritten, advanced.unwritten]
  outbound := by rw [advanced'.outbound, later.outbound, advanced.outbound]

/-- The first reader reads and finds more later on, and then both go on reading and come to have the
same before them. -/
theorem Later.meet {next again next₁ next₂ : Wire} {rest stream'' rest₁ rest₂ : Stream}
    (later : Later more verge verge' wire stream wire' stream')
    (advanced : wire.Advanced stream next rest)
    (later' : Later more verge verge' next rest again stream'')
    (advanced₁ : again.Advanced stream'' next₁ rest₁)
    (advanced₂ : wire'.Advanced stream' next₂ rest₂)
    (octets : next₂.ahead rest₂ = next₁.ahead rest₁) :
    Later [] verge' verge' next₁ rest₁ next₂ rest₂ where
  octets := by rw [octets, List.append_nil]
  behind := advanced₁.verge.trans later'.behind'
  behind' := advanced₂.verge.trans later.behind'
  awaited := .inr ⟨rfl, rfl⟩
  free := advanced₁.gate_eq_none later'.free'
  free' := advanced₂.gate_eq_none later.free'
  unwritten := by
    rw [advanced₂.unwritten, later.unwritten, advanced₁.unwritten, later'.unwritten,
      advanced.unwritten]
  outbound := by
    rw [advanced₂.outbound, later.outbound, advanced₁.outbound, later'.outbound, advanced.outbound]

/-! ## Writing -/

/-- Octets are put to what is to be written. -/
theorem Later.put (later : Later more verge verge' wire stream wire' stream') (bytes : Bytes) :
    Later more verge verge' (wire.put bytes) stream (wire'.put bytes) stream' where
  __ := later
  unwritten := by rw [Wire.put, Wire.put, later.unwritten]

/-- Octets are put back in front of the others. -/
theorem Later.unread (later : Later more verge verge' wire stream wire' stream') (bytes : Bytes) :
    Later more verge verge' (wire.unread bytes) stream (wire'.unread bytes) stream' where
  __ := later
  octets := by
    have octets := later.octets
    rw [ahead, ahead] at octets ⊢
    rw [Wire.unread, Wire.unread, Buffer.toBytes_prepend, Buffer.toBytes_prepend, List.append_assoc,
      octets, List.append_assoc, List.append_assoc, List.append_assoc]

/-- Both write the same. -/
theorem Later.flush (later : Later more verge verge' wire stream wire' stream')
    {result : Except IoError Unit} {next : Wire} {rest : Stream}
    (written : wire.flush stream = (result, next, rest)) :
    ∃ next' rest', wire'.flush stream' = (result, next', rest') ∧
      Later more verge verge' next rest next' rest' := by
  obtain ⟨octets, behind, behind', awaited, free, free', unwritten, outbound⟩ := later
  rw [Wire.flush] at written ⊢
  rw [unwritten, Stream.write, outbound]
  by_cases nothing : wire.unwritten.isEmpty = true
  · rw [if_pos nothing] at written ⊢
    simp only [Prod.mk.injEq] at written
    obtain ⟨rfl, rfl, rfl⟩ := written
    have same : stream'.flush = stream.flush := congrArg Pipe.flush outbound
    rw [same]
    exact ⟨_, _, rfl, octets, behind, behind', awaited, free, free', unwritten, outbound⟩
  · rw [if_neg nothing, Stream.write] at written
    rw [if_neg nothing]
    rcases wrote : stream.outbound.write wire.unwritten.toBytes with ⟨e | _, outbound'⟩
    · simp only [wrote, Prod.mk.injEq] at written ⊢
      obtain ⟨rfl, rfl, rfl⟩ := written
      exact ⟨_, _, ⟨rfl, rfl, rfl⟩, octets, behind, behind', awaited, free, free', unwritten, rfl⟩
    · simp only [wrote, Prod.mk.injEq] at written ⊢
      obtain ⟨rfl, rfl, rfl⟩ := written
      exact ⟨_, _, ⟨rfl, rfl, rfl⟩, octets, behind, behind', awaited, free, free', rfl, rfl⟩

/-! ## Frames -/

/-- A complete cut is what reading the frame comes to, whatever is behind. -/
theorem conclude_of_complete {result : Except ε (Option Bytes)} (complete : result ≠ .ok none)
    (verge : ReadResult) (state : σ) (rest : Bytes) :
    framing.conclude verge (result, state, rest) =
      (.ofExcept result, state, rest) := by
  rcases result with e | _ | frame
  · rfl
  · exact absurd rfl complete
  · rfl

/-- A reader that waits has found no complete frame. -/
theorem eq_none_of_waiting {cut : Except ε (Option Bytes) × σ × Bytes} {verge : ReadResult}
    {state : σ} {rest : Bytes} (no_end : verge ≠ .stop)
    (waits : framing.conclude verge cut = (.waiting, state, rest)) :
    cut = (.ok none, state, rest) := by
  obtain ⟨result, state', rest'⟩ := cut
  rcases result with e | _ | frame
  · simp [Framing.conclude] at waits
  · cases verge with
    | stop => exact absurd rfl no_end
    | data bytes => simpa [Framing.conclude] using waits
    | wait => simpa [Framing.conclude] using waits
    | failed e => simp [Framing.conclude] at waits
  · simp [Framing.conclude] at waits

/-- Both read the same frame, unless the first one has to wait for it. -/
theorem Later.readFrame (later : Later more verge verge' wire stream wire' stream')
    (incremental : framing.Incremental) {state state' : σ}
    {outcome : Outcome ε (Option Bytes)} {next : Wire} {rest : Stream}
    (read : wire.readFrame framing state stream = (outcome, state', next, rest))
    (ready : outcome ≠ .waiting ∨ more = [] ∧ verge = verge') :
    ∃ next' rest', wire'.readFrame framing state stream' = (outcome, state', next', rest') ∧
      Later more verge verge' next rest next' rest' := by
  obtain ⟨view, advanced⟩ := readView_readFrame incremental state wire stream
  rw [read] at view advanced
  simp only [readView] at view
  -- It is enough to conclude the same from the octets before the second reader.
  suffices concluded : framing.conclude verge' (framing.cutBytes state (wire'.ahead stream')) =
      (outcome, state', next.ahead rest ++ more) by
    rw [← later.behind'] at concluded
    obtain ⟨next', rest', read', octets, advanced'⟩ := readFrame_eq incremental concluded
    exact ⟨next', rest', read', later.advanced advanced advanced' octets⟩
  rw [later.behind] at view
  rw [later.octets]
  rcases later.awaited with rfl | ⟨rfl, rfl⟩
  · rcases cut : framing.cutBytes state (wire.ahead stream) with ⟨result, state'', left⟩
    rw [cut] at view
    by_cases complete : result = .ok none
    · -- The first reader waits, so that the octets before the second one are the same.
      subst complete
      obtain ⟨rfl, rfl, rfl⟩ := view
      obtain ⟨rfl, rfl⟩ := ready.resolve_left (fun done => done rfl)
      rw [List.append_nil, List.append_nil, cut]
      rfl
    · rw [incremental.stable cut complete more, conclude_of_complete complete]
      rw [conclude_of_complete complete] at view
      obtain ⟨rfl, rfl, rfl⟩ := view
      rfl
  · rw [List.append_nil, List.append_nil, ← view]

/-- A reader that has waited for a frame reads what the second one reads, which has had all octets
before it from the beginning. -/
theorem Later.readFrame_again (later : Later more .wait verge' wire stream wire' stream')
    (incremental : framing.Incremental) {state state' : σ} {next again : Wire}
    {rest stream'' : Stream}
    (read : wire.readFrame framing state stream = (.waiting, state', next, rest))
    (later' : Later more .wait verge' next rest again stream'') :
    ∃ outcome state'' wire₁ stream₁ wire₂ stream₂,
      again.readFrame framing state' stream'' = (outcome, state'', wire₁, stream₁) ∧
      wire'.readFrame framing state stream' = (outcome, state'', wire₂, stream₂) ∧
      Later [] verge' verge' wire₁ stream₁ wire₂ stream₂ := by
  obtain ⟨view, advanced⟩ := readView_readFrame incremental state wire stream
  rw [read, later.behind] at view
  have cut := eq_none_of_waiting (by simp) view.symm
  -- The cut goes on from where it stopped.
  have same := incremental.resumable cut more
  rw [← later.octets] at same
  have octets : again.ahead stream'' = next.ahead rest ++ more := later'.octets
  rcases concluded : framing.conclude verge' (framing.cutBytes state' (again.ahead stream'')) with
    ⟨outcome, state'', left⟩
  obtain ⟨wire₁, stream₁, read₁, octets₁, advanced₁⟩ :=
    readFrame_eq incremental (later'.behind'.symm ▸ concluded)
  rw [octets, ← same] at concluded
  obtain ⟨wire₂, stream₂, read₂, octets₂, advanced₂⟩ :=
    readFrame_eq incremental (later.behind'.symm ▸ concluded)
  rw [read] at advanced
  exact ⟨outcome, state'', wire₁, stream₁, wire₂, stream₂, read₁, read₂,
    later.meet advanced later' advanced₁ advanced₂ (octets₂.trans octets₁.symm)⟩

/-! ## Messages of a fixed size -/

/-- What receiving a message comes to. -/
theorem readExactly_cases (n : Nat) (received : Buffer) (wire : Wire) (stream : Stream) :
    ∃ outcome received' next rest, readExactly n received wire stream =
        (outcome, received', next, rest) ∧ wire.Advanced stream next rest ∧
      (n ≤ received.toBytes.length + (wire.ahead stream).length ∧
          outcome = .done ((received.toBytes ++ wire.ahead stream).take n) ∧
          next.ahead rest = (wire.ahead stream).drop (n - received.toBytes.length) ∨
        received.toBytes.length + (wire.ahead stream).length < n ∧
          outcome = unfinished stream.inbound.verge ∧
          received'.toBytes = received.toBytes ++ wire.ahead stream ∧ next.ahead rest = []) := by
  have size := received.size_eq_length
  by_cases enough : n ≤ received.size + (wire.ahead stream).length
  · by_cases early : received.size ≤ n
    · obtain ⟨received', next, rest, read, octets, advanced⟩ := readExactly_done early enough
      refine ⟨_, received', next, rest, read, advanced, .inl ⟨by omega, rfl, ?_⟩⟩
      rw [octets, List.drop_append, List.drop_of_length_le (by omega), List.nil_append]
    · -- The message was received before, and nothing is read.
      obtain ⟨received', next, read, received_eq, ahead_eq, unwritten⟩ :=
        readExactly_eq n received wire stream
      have nothing : n - received.size = 0 := by omega
      rw [nothing, List.take_zero, List.append_nil] at received_eq
      rw [nothing, List.drop_zero] at ahead_eq
      have whole : n ≤ received'.size := by
        rw [Buffer.size_eq_length, received_eq]
        omega
      refine ⟨_, received', next, stream, ?_, ⟨unwritten, 0, Stream.Advanced.refl stream⟩,
        .inl ⟨by omega, rfl, ?_⟩⟩
      · rw [read, readExactly.fromStream, if_pos whole, Buffer.take_eq, received_eq,
          List.take_append_of_le_length (by omega)]
      · rw [ahead, ahead, ahead_eq, ← size, nothing, List.drop_zero]
  · obtain ⟨received', next, rest, read, received_eq, octets, advanced⟩ :=
      readExactly_short (show received.size + (wire.ahead stream).length < n by omega)
    exact ⟨_, received', next, rest, read, advanced, .inr ⟨by omega, rfl, received_eq, octets⟩⟩

/-- Both receive the same message, unless the first one has to wait for it. -/
theorem Later.readExactly (later : Later more verge verge' wire stream wire' stream') {n : Nat}
    {received received' left : Buffer} (same : received'.toBytes = received.toBytes)
    {outcome : Outcome IoError Bytes} {next : Wire} {rest : Stream}
    (read : wire.readExactly n received stream = (outcome, left, next, rest))
    (ready : outcome ≠ .waiting ∨ more = [] ∧ verge = verge') :
    ∃ left' next' rest', wire'.readExactly n received' stream' = (outcome, left', next', rest') ∧
      (outcome = .waiting → left'.toBytes = left.toBytes) ∧
      Later more verge verge' next rest next' rest' := by
  obtain ⟨_, _, _, _, read', advanced, cases⟩ := readExactly_cases n received wire stream
  obtain ⟨outcome', left', next', rest', read'', advanced', cases'⟩ :=
    readExactly_cases n received' wire' stream'
  obtain ⟨rfl, rfl, rfl, rfl⟩ : _ = outcome ∧ _ = left ∧ _ = next ∧ _ = rest := by
    simpa [read'] using read
  rw [same, later.octets, List.length_append] at cases'
  rw [later.behind] at cases
  rw [later.behind'] at cases'
  rcases cases with ⟨enough, rfl, octets⟩ | ⟨short, rfl, left_eq, octets⟩
  · rcases cases' with ⟨-, rfl, octets'⟩ | ⟨short', -⟩
    · refine ⟨left', next', rest', ?_, by simp, later.advanced advanced advanced' ?_⟩
      · rw [read'', ← List.append_assoc, List.take_append_of_le_length (by simpa using enough)]
      · rw [octets', octets, List.drop_append_of_le_length (by omega)]
    · omega
  · -- The first one does not wait, so that there is nothing more behind the second one.
    obtain ⟨rfl, rfl⟩ := later.nothing_more
      (ready.imp_left fun done waits => done (by rw [waits]; rfl))
    rcases cases' with ⟨enough', -⟩ | ⟨-, rfl, left_eq', octets'⟩
    · rw [List.length_nil] at enough'
      omega
    · refine ⟨left', next', rest', read'', fun _ => ?_, later.advanced advanced advanced' ?_⟩
      · rw [left_eq', left_eq, List.append_nil]
      · rw [octets', octets, List.append_nil]

/-- A reader that has waited for a message receives what the second one receives, which has had all
octets before it from the beginning. -/
theorem Later.readExactly_again (later : Later more .wait verge' wire stream wire' stream')
    {n : Nat} {received received' left left' : Buffer} (same : received'.toBytes = received.toBytes)
    {next again : Wire} {rest stream'' : Stream}
    (read : wire.readExactly n received stream = (.waiting, left, next, rest))
    (later' : Later more .wait verge' next rest again stream'')
    (same' : left'.toBytes = left.toBytes) :
    ∃ outcome left₁ wire₁ stream₁ left₂ wire₂ stream₂,
      again.readExactly n left' stream'' = (outcome, left₁, wire₁, stream₁) ∧
      wire'.readExactly n received' stream' = (outcome, left₂, wire₂, stream₂) ∧
      (outcome = .waiting → left₂.toBytes = left₁.toBytes) ∧
      Later [] verge' verge' wire₁ stream₁ wire₂ stream₂ := by
  obtain ⟨_, _, _, _, read', advanced, cases⟩ := readExactly_cases n received wire stream
  obtain ⟨rfl, rfl, rfl, rfl⟩ : _ = Outcome.waiting ∧ _ = left ∧ _ = next ∧ _ = rest := by
    simpa [read'] using read
  obtain ⟨outcome₁, left₁, wire₁, stream₁, read₁, advanced₁, cases₁⟩ :=
    readExactly_cases n left' again stream''
  obtain ⟨outcome₂, left₂, wire₂, stream₂, read₂, advanced₂, cases₂⟩ :=
    readExactly_cases n received' wire' stream'
  rcases cases with ⟨-, done, -⟩ | ⟨short, -, left_eq, octets⟩
  · cases done
  rw [later'.behind', same', left_eq, later'.octets, octets, List.nil_append,
    List.length_append] at cases₁
  rw [later.behind', same, later.octets, List.length_append] at cases₂
  rcases cases₁ with ⟨enough₁, rfl, octets₁⟩ | ⟨short₁, rfl, left₁_eq, octets₁⟩
  · rcases cases₂ with ⟨-, rfl, octets₂⟩ | ⟨short₂, -⟩
    · refine ⟨_, left₁, wire₁, stream₁, left₂, wire₂, stream₂, read₁, ?_, by simp,
        later.meet advanced later' advanced₁ advanced₂ ?_⟩
      · rw [read₂, List.append_assoc]
      · rw [octets₂, octets₁, List.drop_append, List.drop_of_length_le (by omega), List.nil_append]
        congr 1
        omega
    · omega
  · rcases cases₂ with ⟨enough₂, -⟩ | ⟨-, rfl, left₂_eq, octets₂⟩
    · omega
    · refine ⟨_, left₁, wire₁, stream₁, left₂, wire₂, stream₂, read₁, read₂, fun _ => ?_,
        later.meet advanced later' advanced₁ advanced₂ ?_⟩
      · rw [left₂_eq, left₁_eq, List.append_assoc]
      · rw [octets₂, octets₁]

end Wire

end PeerLink
