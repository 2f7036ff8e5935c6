import PeerLink.Proofs.Connection.Unsealing
import PeerLink.Proofs.Patience.Connection

/-!
# Reading octets until there are enough

`Connection.collect` reads octets until a certain number of them was read. How many a single read
gives depends on the pace of the stream and on the frames, and what `collect` gives does not: it is
run again with the octets that it has gathered when it had to wait.
-/

namespace PeerLink

namespace Connection

/-- Reads octets until there are as many as asked for, or the stream ends. When it waits it gives
the octets gathered so far. -/
def collect (suite : Suite) (total : Nat) (gathered : Bytes) (connection : Connection)
    (stream : Stream) : Outcome ConnectionError Unit × Bytes × Connection × Stream :=
  if total ≤ gathered.length then (.done (), gathered, connection, stream)
  else
    match connection.readBytes suite (total - gathered.length) stream with
    | (.waiting, connection, stream) => (.waiting, gathered, connection, stream)
    | (.failed e, connection, stream) => (.failed e, gathered, connection, stream)
    | (.done [], connection, stream) => (.done (), gathered, connection, stream)
    | (.done (b :: bytes), connection, stream) =>
      collect suite total (gathered ++ b :: bytes) connection stream
termination_by total - gathered.length
decreasing_by
  simp only [List.length_append, List.length_cons]
  omega

variable {suite : Suite} {more : Bytes} {verge verge' : ReadResult} {total : Nat}
  {gathered : Bytes} {address : Option Endpoint} {resolution : Resolution}

/-! ## Bare connections -/

/-- What collecting octets comes to when there are not enough of them, from what is behind. -/
def exhausted : ReadResult → Outcome ConnectionError Unit
  | .data _ => .done ()
  | .stop => .done ()
  | .wait => .waiting
  | .failed e => .failed (.io e)

/-- On a bare connection the octets are the next ones of the stream. -/
theorem collect_bare (frames : LengthPrefixed.State) (wire : Wire) (stream : Stream) :
    ∃ outcome next rest,
      collect suite total gathered ⟨some wire, .bare frames, address, resolution⟩ stream =
        (outcome, gathered ++ (wire.ahead stream).take (total - gathered.length),
          ⟨some next, .bare frames, address, resolution⟩, rest) ∧
      wire.Advanced stream next rest ∧
      next.ahead rest = (wire.ahead stream).drop (total - gathered.length) ∧
      (total - gathered.length ≤ (wire.ahead stream).length ∧ outcome = .done () ∨
        (wire.ahead stream).length < total - gathered.length ∧
          outcome = exhausted stream.inbound.verge) := by
  induction missing : total - gathered.length using Nat.strongRecOn
    generalizing gathered wire stream with
  | _ missing ih =>
    subst missing
    rw [collect]
    by_cases enough : total ≤ gathered.length
    · have nothing : total - gathered.length = 0 := by omega
      rw [if_pos enough, nothing]
      exact ⟨_, wire, stream, by simp, Wire.Advanced.refl wire stream, rfl, .inl ⟨by simp, rfl⟩⟩
    · have some_asked : total - gathered.length ≠ 0 := by omega
      simp only [if_neg enough, readBytes, if_neg some_asked]
      by_cases nothing : wire.ahead stream = []
      · rw [Wire.readSome_of_nothing nothing, nothing, List.take_nil, List.drop_nil,
          List.append_nil]
        refine ⟨exhausted stream.inbound.verge, wire, stream, ?_, Wire.Advanced.refl wire stream,
          nothing, .inr ⟨Nat.pos_of_ne_zero some_asked, rfl⟩⟩
        cases behind : stream.inbound.verge with
        | data bytes => exact absurd behind (stream.inbound.verge_ne_data bytes)
        | stop => rfl
        | wait => rfl
        | failed e => rfl
      · obtain ⟨bytes, next, rest, read, some_octets, le, octets, advanced⟩ :=
          Wire.readSome_of_ahead nothing some_asked
        rw [read]
        obtain ⟨b, bytes, rfl⟩ := List.exists_cons_of_ne_nil some_octets
        -- What was read comes first, and the rest is collected behind it.
        have left : total - (gathered ++ b :: bytes).length =
            total - gathered.length - (b :: bytes).length := by
          rw [List.length_append]
          omega
        obtain ⟨outcome, next', rest', collected, advanced', octets', cases⟩ :=
          ih _ (by rw [List.length_cons]; omega) next rest left
        rw [advanced.verge] at cases
        rw [← octets, List.length_append, List.take_append, List.take_of_length_le le,
          List.drop_append, List.drop_of_length_le le, List.nil_append, ← List.append_assoc]
        refine ⟨outcome, next', rest', collected, advanced.trans advanced', octets', ?_⟩
        rcases cases with ⟨enough', done⟩ | ⟨short, waits⟩
        · exact .inl ⟨by omega, done⟩
        · exact .inr ⟨by omega, waits⟩

/-- Both bare connections collect the same octets, unless the first one has to wait for them. -/
theorem collect_bare_of_later {wire wire' : Wire} {stream stream' : Stream}
    (later : wire.Later more verge verge' stream wire' stream') (frames : LengthPrefixed.State)
    {outcome : Outcome ConnectionError Unit} {left : Bytes} {next : Connection} {rest : Stream}
    (collected : collect suite total gathered ⟨some wire, .bare frames, address, resolution⟩
      stream = (outcome, left, next, rest))
    (ready : outcome ≠ .waiting ∨ more = [] ∧ verge = verge') :
    ∃ next' rest',
      collect suite total gathered ⟨some wire', .bare frames, address, resolution⟩ stream' =
        (outcome, left, next', rest') ∧ Later more verge verge' next rest next' rest' := by
  obtain ⟨outcome₁, next₁, rest₁, collected₁, advanced₁, octets₁, cases₁⟩ :=
    @collect_bare suite total gathered address resolution frames wire stream
  obtain ⟨outcome₂, next₂, rest₂, collected₂, advanced₂, octets₂, cases₂⟩ :=
    @collect_bare suite total gathered address resolution frames wire' stream'
  rw [collected₁] at collected
  simp only [Prod.mk.injEq] at collected
  obtain ⟨rfl, rfl, rfl, rfl⟩ := collected
  rw [later.octets] at octets₂ collected₂ cases₂
  rw [List.length_append] at cases₂
  rw [later.behind] at cases₁
  rw [later.behind'] at cases₂
  -- With enough octets both are done; otherwise nothing more has come.
  rcases cases₁ with ⟨enough, rfl⟩ | ⟨short, rfl⟩
  · rcases cases₂ with ⟨-, rfl⟩ | ⟨short', -⟩
    · rw [List.take_append_of_le_length enough] at collected₂
      rw [List.drop_append_of_le_length enough, ← octets₁] at octets₂
      exact ⟨_, _, collected₂, .bare (later.advanced advanced₁ advanced₂ octets₂) ..⟩
    · omega
  · obtain ⟨rfl, rfl⟩ := later.nothing_more
      (ready.imp_left fun done waits => done (by rw [waits]; rfl))
    rcases cases₂ with ⟨enough', -⟩ | ⟨-, rfl⟩
    · rw [List.length_nil] at enough'
      omega
    · rw [List.append_nil] at collected₂ octets₂
      rw [← octets₁, ← List.append_nil (next₁.ahead rest₁)] at octets₂
      exact ⟨_, _, collected₂, .bare (later.advanced advanced₁ advanced₂ octets₂) ..⟩

/-- A bare connection that has waited collects what the second one collects, which has had all
octets before it from the beginning. -/
theorem collect_bare_again {wire wire' : Wire} {stream stream' stream'' : Stream}
    (later : wire.Later more .wait verge' stream wire' stream') (frames : LengthPrefixed.State)
    {left : Bytes} {next : Connection} {rest : Stream}
    (collected : collect suite total gathered ⟨some wire, .bare frames, address, resolution⟩
      stream = (.waiting, left, next, rest))
    {connection : Connection} (later' : Later more .wait verge' next rest connection stream'') :
    ∃ outcome left' next₁ rest₁ next₂ rest₂,
      collect suite total left connection stream'' = (outcome, left', next₁, rest₁) ∧
      collect suite total gathered ⟨some wire', .bare frames, address, resolution⟩ stream' =
        (outcome, left', next₂, rest₂) ∧ Later [] verge' verge' next₁ rest₁ next₂ rest₂ := by
  obtain ⟨_, next, _, collected₁, advanced, octets, cases⟩ :=
    @collect_bare suite total gathered address resolution frames wire stream
  rw [collected₁] at collected
  simp only [Prod.mk.injEq] at collected
  obtain ⟨rfl, rfl, rfl, rfl⟩ := collected
  rcases cases with ⟨-, done⟩ | ⟨short, -⟩
  · cases done
  rw [List.take_of_length_le (by omega)]
  cases later' with
  | @bare _ again _ _ later' frames address resolution =>
    obtain ⟨outcome₁, next₁, rest₁, collected₁, advanced₁, octets₁, cases₁⟩ :=
      @collect_bare suite total (gathered ++ wire.ahead stream) address resolution frames again
        stream''
    obtain ⟨outcome₂, next₂, rest₂, collected₂, advanced₂, octets₂, cases₂⟩ :=
      @collect_bare suite total gathered address resolution frames wire' stream'
    -- All that the first one has had before it was collected, so that what it collects now is what
    -- the second one collects behind that.
    rw [List.drop_of_length_le (by omega)] at octets
    have missing : total - (gathered ++ wire.ahead stream).length =
        total - gathered.length - (wire.ahead stream).length := by
      rw [List.length_append]
      omega
    rw [later'.octets, octets, List.nil_append, missing] at collected₁ octets₁ cases₁
    rw [later.octets, List.take_append, List.take_of_length_le (by omega), ← List.append_assoc]
      at collected₂
    rw [later.octets, List.drop_append, List.drop_of_length_le (by omega), List.nil_append,
      ← octets₁] at octets₂
    rw [later.octets, List.length_append, later.behind'] at cases₂
    rw [later'.behind'] at cases₁
    obtain rfl : outcome₂ = outcome₁ := by
      rcases cases₁ with ⟨enough₁, rfl⟩ | ⟨short₁, rfl⟩
      · rcases cases₂ with ⟨-, rfl⟩ | ⟨short₂, -⟩
        · rfl
        · omega
      · rcases cases₂ with ⟨enough₂, -⟩ | ⟨-, rfl⟩
        · omega
        · rfl
    exact ⟨_, _, _, _, _, _, collected₁, collected₂,
      .bare (later.meet advanced later' advanced₁ advanced₂ octets₂) ..⟩

/-! ## Secure connections -/

section Secure

variable {wire wire' : Wire} {stream stream' : Stream} (layer : SecureLayer)

/-- Octets that are unsealed are read first. -/
theorem readBytes_of_unsealed {n : Nat} (some_asked : n ≠ 0)
    (some_unsealed : layer.unsealed.toBytes ≠ []) :
    readBytes suite n ⟨some wire, .secure layer, address, resolution⟩ stream =
      (.done (layer.unsealed.toBytes.take n),
        ⟨some wire, .secure { layer with unsealed := layer.unsealed.drop n }, address, resolution⟩,
        stream) := by
  have not_empty : layer.unsealed.isEmpty ≠ true := fun empty =>
    some_unsealed (Buffer.isEmpty_iff.1 empty)
  simp only [readBytes, if_neg some_asked]
  rw [SecureLayer.unsealSome, if_neg not_empty]
  simp only [Buffer.take_eq]

/-- The octets that are unsealed are enough. -/
theorem collect_of_enough (enough : total - gathered.length ≤ layer.unsealed.toBytes.length) :
    ∃ unsealed : Buffer,
      collect suite total gathered ⟨some wire, .secure layer, address, resolution⟩ stream =
        (.done (), gathered ++ layer.unsealed.toBytes.take (total - gathered.length),
          ⟨some wire, .secure { layer with unsealed }, address, resolution⟩, stream) ∧
      unsealed.toBytes = layer.unsealed.toBytes.drop (total - gathered.length) := by
  by_cases already : total ≤ gathered.length
  · have nothing : total - gathered.length = 0 := by omega
    refine ⟨layer.unsealed, ?_, by rw [nothing, List.drop_zero]⟩
    rw [collect, if_pos already, nothing, List.take_zero, List.append_nil]
  · have some_asked : total - gathered.length ≠ 0 := by omega
    have some_unsealed : layer.unsealed.toBytes ≠ [] := by
      rintro nothing
      rw [nothing, List.length_nil] at enough
      omega
    refine ⟨layer.unsealed.drop (total - gathered.length), ?_, Buffer.toBytes_drop _ _⟩
    rw [collect, if_neg already, readBytes_of_unsealed layer some_asked some_unsealed]
    -- One read gives all that is missing.
    have size : (layer.unsealed.toBytes.take (total - gathered.length)).length =
        total - gathered.length := by
      rw [List.length_take]
      omega
    generalize layer.unsealed.toBytes.take (total - gathered.length) = bytes at size
    cases bytes with
    | nil => exact absurd size.symm some_asked
    | cons b bytes =>
      have whole : total ≤ (gathered ++ b :: bytes).length := by
        rw [List.length_append]
        omega
      dsimp only
      rw [collect, if_pos whole]

/-- The octets that are unsealed are collected, and there are more to come. -/
theorem collect_of_short (short : layer.unsealed.toBytes.length < total - gathered.length) :
    collect suite total gathered ⟨some wire, .secure layer, address, resolution⟩ stream =
      collect suite total (gathered ++ layer.unsealed.toBytes)
        ⟨some wire, .secure { layer with unsealed := .empty }, address, resolution⟩ stream := by
  by_cases nothing : layer.unsealed.toBytes = []
  · have empty := Buffer.eq_empty (Buffer.isEmpty_iff.2 nothing)
    rw [nothing, List.append_nil, ← empty]
  · have not_enough : ¬ total ≤ gathered.length := by omega
    have emptied : layer.unsealed.drop (total - gathered.length) = .empty :=
      Buffer.eq_empty (Buffer.isEmpty_iff.2 (by
        rw [Buffer.toBytes_drop, List.drop_of_length_le (by omega)]))
    rw [collect, if_neg not_enough, readBytes_of_unsealed layer (by omega) nothing, emptied,
      List.take_of_length_le (by omega)]
    obtain ⟨b, bytes, unsealed⟩ := List.exists_cons_of_ne_nil nothing
    rw [unsealed]

/-- A frame that is read takes octets from the wire or from the stream. -/
theorem size_lt_of_readFrame {state frames : SealedFrames.State} {next : Wire} {rest : Stream}
    {message : Bytes} (valid : SealedFrames.Valid state)
    (read : wire.readFrame (SealedFrames.framing suite) state stream =
      (.done (some message), frames, next, rest)) :
    next.readAhead.size + rest.available < wire.readAhead.size + stream.available := by
  obtain ⟨_, _, _, _, read', advanced, reading⟩ :=
    SealedFrames.reading_readFrame suite valid wire stream
  rw [read] at read'
  simp only [Prod.mk.injEq] at read'
  obtain ⟨rfl, rfl, rfl, rfl⟩ := read'
  exact SecureLayer.size_lt_of_message reading advanced

/-- A frame that is read may be unsealed in advance. -/
theorem collect_of_message {frames : SealedFrames.State} {next : Wire} {rest : Stream}
    {message : Bytes} (some_missing : gathered.length < total)
    (valid : SealedFrames.Valid layer.frames)
    (read : wire.readFrame (SealedFrames.framing suite) layer.frames stream =
      (.done (some message), frames, next, rest)) :
    collect suite total gathered
        ⟨some wire, .secure { layer with unsealed := .empty }, address, resolution⟩ stream =
      collect suite total gathered ⟨some next,
        .secure { layer with frames, unsealed := .ofBytes message }, address, resolution⟩ rest := by
  have not_enough : ¬ total ≤ gathered.length := by omega
  have some_asked : total - gathered.length ≠ 0 := by omega
  have less := size_lt_of_readFrame valid read
  rw [collect, if_neg not_enough]
  conv_rhs => rw [collect, if_neg not_enough]
  simp only [readBytes, if_neg some_asked]
  rw [SecureLayer.unsealSome, if_pos (by rfl), read]
  simp only [dif_pos less]

/-- Anything else than a frame ends the collecting. -/
theorem collect_of_stop {frames : SealedFrames.State} {next : Wire} {rest : Stream}
    {outcome : Outcome SealedFrames.Error (Option Bytes)} (some_missing : gathered.length < total)
    (read : wire.readFrame (SealedFrames.framing suite) layer.frames stream =
      (outcome, frames, next, rest)) (no_message : ∀ message, outcome ≠ .done (some message)) :
    collect suite total gathered
        ⟨some wire, .secure { layer with unsealed := .empty }, address, resolution⟩ stream =
      ((outcome.map fun _ => ()).mapError .ofFrames, gathered, ⟨some next,
        .secure { layer with frames, unsealed := .empty }, address, resolution⟩, rest) := by
  have not_enough : ¬ total ≤ gathered.length := by omega
  have some_asked : total - gathered.length ≠ 0 := by omega
  rw [collect, if_neg not_enough]
  simp only [readBytes, if_neg some_asked]
  rw [SecureLayer.unsealSome, if_pos (by rfl), read]
  rcases outcome with (_ | message) | e | _
  · have emptied : Buffer.empty.drop (total - gathered.length) = .empty :=
      if_pos (Nat.zero_le _)
    simp only [Buffer.take_eq, Buffer.toBytes_empty, List.take_nil, emptied]
    rfl
  · exact absurd rfl (no_message message)
  · rfl
  · rfl

/-- Both secure connections collect the same octets, unless the first one has to wait for them. -/
theorem collect_secure_of_later (later : wire.Later more verge verge' stream wire' stream')
    (valid : SealedFrames.Valid layer.frames) {unsealed : Buffer}
    (same : unsealed.toBytes = layer.unsealed.toBytes)
    {outcome : Outcome ConnectionError Unit} {left : Bytes} {next : Connection} {rest : Stream}
    (collected : collect suite total gathered ⟨some wire, .secure layer, address, resolution⟩
      stream = (outcome, left, next, rest))
    (ready : outcome ≠ .waiting ∨ more = [] ∧ verge = verge') :
    ∃ next' rest',
      collect suite total gathered
          ⟨some wire', .secure { layer with unsealed }, address, resolution⟩ stream' =
        (outcome, left, next', rest') ∧ Later more verge verge' next rest next' rest' := by
  -- Every message takes octets, and the induction is on the number of the ones that are left.
  induction size : wire.readAhead.size + stream.available using Nat.strongRecOn
    generalizing gathered layer unsealed wire stream wire' stream' with
  | _ size ih =>
    subst size
    by_cases enough : total - gathered.length ≤ layer.unsealed.toBytes.length
    · obtain ⟨buffer, collected₁, buffer_eq⟩ :=
        @collect_of_enough suite total gathered address resolution wire stream layer enough
      obtain ⟨buffer', collected₂, buffer'_eq⟩ :=
        @collect_of_enough suite total gathered address resolution wire' stream'
          { layer with unsealed } (by rwa [same])
      rw [collected₁] at collected
      simp only [Prod.mk.injEq] at collected
      obtain ⟨rfl, rfl, rfl, rfl⟩ := collected
      rw [same] at collected₂ buffer'_eq
      refine ⟨_, _, collected₂, ?_⟩
      exact .secure later { layer with unsealed := buffer } valid
        (buffer'_eq.trans buffer_eq.symm) ..
    · -- Behind the octets that are unsealed both layers are the same.
      rw [collect_of_short _ (by omega)] at collected
      rw [collect_of_short _ (by rw [same]; omega), same]
      have some_missing : (gathered ++ layer.unsealed.toBytes).length < total := by
        rw [List.length_append]
        omega
      rcases read : wire.readFrame (SealedFrames.framing suite) layer.frames stream with
        ⟨found, frames, wire₁, stream₁⟩
      have valid' := SealedFrames.valid_of_readFrame valid read
      by_cases message : ∃ message, found = .done (some message)
      · obtain ⟨message, rfl⟩ := message
        obtain ⟨wire₂, stream₂, read', later'⟩ :=
          later.readFrame (SealedFrames.incremental suite) read (.inl (by simp))
        -- Both unseal the same message, and go on collecting behind it.
        rw [collect_of_message _ some_missing valid read] at collected
        rw [collect_of_message _ some_missing valid read']
        exact ih _ (size_lt_of_readFrame valid read) _ later' valid' rfl collected rfl
      · have no_message (text : Bytes) : found ≠ .done (some text) := fun found_eq =>
          message ⟨text, found_eq⟩
        rw [collect_of_stop _ some_missing read no_message] at collected
        simp only [Prod.mk.injEq] at collected
        obtain ⟨rfl, rfl, rfl, rfl⟩ := collected
        obtain ⟨wire₂, stream₂, read', later'⟩ :=
          later.readFrame (SealedFrames.incremental suite) read
            (ready.imp_left fun done waits => done (by rw [waits]; rfl))
        rw [collect_of_stop _ some_missing read' no_message]
        refine ⟨_, _, rfl, ?_⟩
        exact .secure later' { layer with frames, unsealed := .empty } valid' rfl ..

/-- A secure connection that has waited collects what the second one collects, which has had all
octets before it from the beginning. -/
theorem collect_secure_again (later : wire.Later more .wait verge' stream wire' stream')
    (valid : SealedFrames.Valid layer.frames) {unsealed : Buffer}
    (same : unsealed.toBytes = layer.unsealed.toBytes)
    {left : Bytes} {next : Connection} {rest : Stream}
    (collected : collect suite total gathered ⟨some wire, .secure layer, address, resolution⟩
      stream = (.waiting, left, next, rest))
    {connection : Connection} {stream'' : Stream}
    (later' : Later more .wait verge' next rest connection stream'') :
    ∃ outcome left' next₁ rest₁ next₂ rest₂,
      collect suite total left connection stream'' = (outcome, left', next₁, rest₁) ∧
      collect suite total gathered
          ⟨some wire', .secure { layer with unsealed }, address, resolution⟩ stream' =
        (outcome, left', next₂, rest₂) ∧ Later [] verge' verge' next₁ rest₁ next₂ rest₂ := by
  induction size : wire.readAhead.size + stream.available using Nat.strongRecOn
    generalizing gathered layer unsealed wire stream wire' stream' with
  | _ size ih =>
    subst size
    have short : layer.unsealed.toBytes.length < total - gathered.length := by
      by_contra enough
      obtain ⟨_, done, -⟩ := @collect_of_enough suite total gathered address resolution wire stream
        layer (by omega)
      rw [done] at collected
      simp at collected
    rw [collect_of_short layer short] at collected
    rw [collect_of_short _ (by rw [same]; omega), same]
    have some_missing : (gathered ++ layer.unsealed.toBytes).length < total := by
      rw [List.length_append]
      omega
    rcases read : wire.readFrame (SealedFrames.framing suite) layer.frames stream with
      ⟨found, frames, wire₁, stream₁⟩
    have valid' := SealedFrames.valid_of_readFrame valid read
    by_cases message : ∃ message, found = .done (some message)
    · obtain ⟨message, rfl⟩ := message
      obtain ⟨wire₂, stream₂, read', later₂⟩ :=
        later.readFrame (SealedFrames.incremental suite) read (.inl (by simp))
      rw [collect_of_message _ some_missing valid read] at collected
      rw [collect_of_message _ some_missing valid read']
      exact ih _ (size_lt_of_readFrame valid read) _ later₂ valid' rfl collected rfl
    · have no_message (text : Bytes) : found ≠ .done (some text) := fun found_eq =>
        message ⟨text, found_eq⟩
      rw [collect_of_stop _ some_missing read no_message] at collected
      simp only [Prod.mk.injEq] at collected
      obtain ⟨waits, rfl, rfl, rfl⟩ := collected
      obtain rfl := Outcome.map_eq_waiting.1 (Outcome.mapError_eq_waiting.1 waits)
      -- The frame that the first reader has waited for is the one that the second one reads.
      cases later' with
      | @secure _ again _ _ later' _ valid'' unsealed' same' address resolution =>
        have emptied : unsealed' = .empty := Buffer.eq_empty (Buffer.isEmpty_iff.2 same')
        subst emptied
        obtain ⟨found, frames', wire₁, stream₁, wire₂, stream₂, read₁, read₂, later₂⟩ :=
          later.readFrame_again (SealedFrames.incremental suite) read later'
        have valid₂ := SealedFrames.valid_of_readFrame valid'' read₁
        by_cases message : ∃ message, found = .done (some message)
        · -- Behind this frame both have the same before them.
          obtain ⟨message, rfl⟩ := message
          rw [collect_of_message layer some_missing valid read₂,
            collect_of_message { layer with frames } some_missing valid'' read₁]
          rcases collected₂ : collect suite total (gathered ++ layer.unsealed.toBytes)
              ⟨some wire₁, .secure { layer with frames := frames', unsealed := .ofBytes message },
                address, resolution⟩ stream₁ with ⟨outcome, left, next, rest⟩
          obtain ⟨next', rest', collected', later₃⟩ :=
            collect_secure_of_later _ later₂ valid₂ rfl collected₂ (.inr ⟨rfl, rfl⟩)
          exact ⟨_, _, _, _, _, _, rfl, collected', later₃⟩
        · have no_message (text : Bytes) : found ≠ .done (some text) := fun found_eq =>
            message ⟨text, found_eq⟩
          rw [collect_of_stop layer some_missing read₂ no_message,
            collect_of_stop { layer with frames } some_missing read₁ no_message]
          refine ⟨_, _, _, _, _, _, rfl, rfl, ?_⟩
          exact .secure later₂ { layer with frames := frames', unsealed := .empty } valid₂ rfl ..

end Secure

/-! ## Any connections -/

variable {connection connection' : Connection} {stream stream' : Stream}

/-- Both connections collect the same octets, unless the first one has to wait for them. -/
theorem Later.collect (later : Later more verge verge' connection stream connection' stream')
    {outcome : Outcome ConnectionError Unit} {left : Bytes} {next : Connection} {rest : Stream}
    (collected : connection.collect suite total gathered stream = (outcome, left, next, rest))
    (ready : outcome ≠ .waiting ∨ more = [] ∧ verge = verge') :
    ∃ next' rest',
      connection'.collect suite total gathered stream' = (outcome, left, next', rest') ∧
      Later more verge verge' next rest next' rest' := by
  cases later with
  | bare later frames => exact collect_bare_of_later later frames collected ready
  | secure later layer valid same =>
    exact collect_secure_of_later layer later valid same collected ready

/-- A connection that has waited collects what the second one collects, which has had all octets
before it from the beginning. -/
theorem Later.collect_again (later : Later more .wait verge' connection stream connection' stream')
    {left : Bytes} {next again : Connection} {rest stream'' : Stream}
    (collected : connection.collect suite total gathered stream = (.waiting, left, next, rest))
    (later' : Later more .wait verge' next rest again stream'') :
    ∃ outcome left' next₁ rest₁ next₂ rest₂,
      again.collect suite total left stream'' = (outcome, left', next₁, rest₁) ∧
      connection'.collect suite total gathered stream' = (outcome, left', next₂, rest₂) ∧
      Later [] verge' verge' next₁ rest₁ next₂ rest₂ := by
  cases later with
  | bare later frames => exact collect_bare_again later frames collected later'
  | secure later layer valid same =>
    exact collect_secure_again layer later valid same collected later'

end Connection

end PeerLink
