import PeerLink.Proofs.Connection.Bounds
import PeerLink.Proofs.Negotiation.Binding

/-!
# The arithmetic of a transcript stays in bounds

The two envelopes of a negotiation stand in its transcript with their lengths in front of them, in
four octets each. The envelope of a side is never long, and the one that it hears has come in a
frame, so both lengths fit. `framing_is_in_bounds` puts this together with what is known of sealed
frames and of reading: whatever the other side sends, and however it arrives, no length is cut off,
no difference is negative and nothing behind the end of a buffer is asked for.
-/

namespace PeerLink.Negotiation

/-- `transcript` with everything checked: that both lengths fit four octets. -/
def transcriptChecked (offer reply : Bytes) : Option Bytes := do
  let offered ← Bytes.ofNatBE? 4 offer.length
  let replied ← Bytes.ofNatBE? 4 reply.length
  some (offered ++ offer ++ replied ++ reply)

/-- A prologue is the transcript of an offer and a reply that are not too long for it. -/
structure Transcribes (offer reply prologue : Bytes) : Prop where
  /-- The length of the offer fits four octets. -/
  offer_fits : offer.length < 2 ^ 32
  /-- The length of the reply fits four octets. -/
  reply_fits : reply.length < 2 ^ 32
  /-- The transcript is the one with everything checked. -/
  checked : transcriptChecked offer reply = some prologue

/-- Nothing goes wrong in a transcript of frames that are not too long. -/
theorem transcribes_transcript {offer reply : Bytes} (short : offer.length < 2 ^ 32)
    (short' : reply.length < 2 ^ 32) : Transcribes offer reply (transcript offer reply) := by
  have width : (2 : Nat) ^ 32 = Nat.pow 256 4 := by decide
  refine ⟨short, short', ?_⟩
  rw [width] at short short'
  rw [transcriptChecked, Bytes.ofNatBE?, Bytes.ofNatBE?, if_pos short, if_pos short']
  rfl

/-- The transcript that a dialer holds. -/
def DialPhase.prologue? : DialPhase → Option Bytes
  | .registering prologue _ _ _ => some prologue
  | .lookingUp prologue _ _ => some prologue
  | _ => none

/-- The transcript that a listener holds. -/
def AcceptPhase.prologue? : AcceptPhase → Option Bytes
  | .registering prologue _ _ _ => some prologue
  | .awaitingInitiation prologue _ _ _ => some prologue
  | _ => none

variable {suite : Suite} {party : Party} {deeds : List Deed} {prologue : Bytes}

/-- A dialer holds the transcript of what it has said and heard. -/
theorem Dialer.Took.transcribes {dialer : Dialer}
    (took : Dialer.Took suite party deeds (.active dialer))
    (holds : dialer.phase.prologue? = some prologue) :
    ∃ offer reply rest, deeds = .said offer :: .heard reply :: rest ∧
      Transcribes offer reply prologue := by
  have knows : Dialer.Doing suite party deeds dialer := took.knows
  have short := party.length_envelope_lt suite
  cases knows with
  | offering wire => cases holds
  | awaitingReply wire valid => cases holds
  | registering wire secures =>
    obtain rfl := Option.some.inj holds
    exact ⟨_, _, _, rfl, transcribes_transcript short secures.short⟩
  | lookingUp wire secures =>
    obtain rfl := Option.some.inj holds
    exact ⟨_, _, _, rfl, transcribes_transcript short secures.short⟩
  | awaitingResponse wire secures received => cases holds

/-- A listener holds the transcript of what it has heard and said. -/
theorem Listener.Took.transcribes {listener : Listener}
    (took : Listener.Took suite party deeds (.active listener))
    (holds : listener.phase.prologue? = some prologue) :
    ∃ offer reply rest, deeds = .heard offer :: .said reply :: rest ∧
      Transcribes offer reply prologue := by
  have knows : Listener.Doing suite { party with expected := none } deeds listener := took.knows
  have short := party.length_envelope_lt suite
  cases knows with
  | awaitingOffer wire valid => cases holds
  | registering wire secures =>
    obtain rfl := Option.some.inj holds
    exact ⟨_, _, _, rfl, transcribes_transcript secures.short short⟩
  | awaitingInitiation wire secures received =>
    obtain rfl := Option.some.inj holds
    exact ⟨_, _, _, rfl, transcribes_transcript secures.short short⟩
  | lookingUp wire secures responds => cases holds

/-- The arithmetic of the framing cannot go wrong. A decoder of sealed frames stays in bounds behind
any calls, with any octets; what is sealed has a length that any decoder takes; a side that gets to
the handshake has a transcript of which both lengths fit their octets; and no read of octets brings
more of them than there is room for. -/
theorem framing_is_in_bounds (suite : Suite) :
    (∀ receiver calls,
      let decoder := SealedFrames.run suite (⟨receiver, none⟩, .empty) calls
      SealedFrames.InBounds suite decoder.1 decoder.2) ∧
    (∀ sender message,
      SealedFrames.encodeChecked suite sender message =
          some (SealedFrames.encode? suite sender message) ∧
        ∀ frame sender', SealedFrames.encode? suite sender message = some (frame, sender') →
          SealedFrames.Encoded message frame) ∧
    (∀ party deeds dialer prologue, Dialer.Took suite party deeds (.active dialer) →
      dialer.phase.prologue? = some prologue →
        ∃ offer reply rest, deeds = .said offer :: .heard reply :: rest ∧
          Transcribes offer reply prologue) ∧
    (∀ party deeds listener prologue, Listener.Took suite party deeds (.active listener) →
      listener.phase.prologue? = some prologue →
        ∃ offer reply rest, deeds = .heard offer :: .said reply :: rest ∧
          Transcribes offer reply prologue) ∧
    (∀ n wire stream, Wire.InBounds n wire stream) ∧
    ∀ n connection stream, Connection.InBounds suite n connection stream := by
  refine ⟨fun receiver calls => ?_, fun sender message => ?_, fun _ _ _ _ took => took.transcribes,
    fun _ _ _ _ took => took.transcribes, Wire.inBounds, Connection.inBounds suite⟩
  · have fresh : SealedFrames.Valid ⟨receiver, none⟩ := by rintro n ⟨⟩
    exact SealedFrames.inBounds_of_valid suite (SealedFrames.valid_run fresh calls) _
  · exact ⟨SealedFrames.encodeChecked_eq suite sender message,
      fun _ _ => SealedFrames.encoded_of_encode?⟩

/-- A decoder behind the length of a frame, a message of an octet, and two sides that exchange their
envelopes. -/
theorem framing_is_in_bounds_of_expecting :
    let half := Sealing.start []
    let decoder := SealedFrames.run .standard (⟨half, none⟩, .empty) [.feed [0, 21], .cut]
    let dialing := Meeting.expecting.dialer
    let listening := Meeting.expecting.listener
    let offer := dialing.envelope .standard
    let reply := listening.envelope .standard
    (decoder.1.expected = some 21 ∧ SealedFrames.InBounds .standard decoder.1 decoder.2) ∧
    (∃ frame sender, SealedFrames.encode? .standard half [7] = some (frame, sender) ∧
      SealedFrames.Encoded [7] frame) ∧
    (∃ dialer prologue,
      Dialer.Took .standard dialing [.said offer, .heard reply] (.active dialer) ∧
      dialer.phase.prologue? = some prologue ∧ Transcribes offer reply prologue) ∧
    ∃ listener prologue,
      Listener.Took .standard listening [.heard offer, .said reply] (.active listener) ∧
      listener.phase.prologue? = some prologue ∧ Transcribes offer reply prologue := by
  intro half decoder dialing listening offer reply
  obtain ⟨decoding, encoding, dialed, accepted, -⟩ := framing_is_in_bounds .standard
  have secrets : Meeting.expecting.secrets = some (.filled 1, .filled 2) := rfl
  have agrees := Meeting.secures_reply Meeting.welcome_expecting secrets
  have agrees' := Meeting.secures_offer .standard secrets
  refine ⟨⟨rfl, decoding half _⟩, ⟨_, _, rfl, (encoding half [7]).2 _ _ rfl⟩, ?_, ?_⟩
  · obtain ⟨_, said, does⟩ := Dialer.step_offering .standard dialing .empty Wire.idle_new
    obtain ⟨_, _, -, heard, does'⟩ :=
      Dialer.step_awaitingReply .standard dialing .empty Wire.idle_new agrees offer
    have took := (Took.start.next said does).next heard does'
    obtain ⟨said, heard, _, same, transcribes⟩ := dialed _ _ _ _ took rfl
    rw [List.nil_append, List.singleton_append] at same
    simp only [List.cons.injEq, Deed.said.injEq, Deed.heard.injEq] at same
    obtain ⟨rfl, rfl, -⟩ := same
    exact ⟨_, _, took, rfl, transcribes⟩
  · obtain ⟨_, _, -, heard, does⟩ := Listener.step_awaitingOffer .standard
      { listening with expected := none } .empty Wire.idle_new agrees'
    have took := Took.start.next heard does
    obtain ⟨heard, said, _, same, transcribes⟩ := accepted _ _ _ _ took rfl
    rw [List.nil_append] at same
    simp only [List.cons.injEq, Deed.said.injEq, Deed.heard.injEq] at same
    obtain ⟨rfl, rfl, -⟩ := same
    exact ⟨_, _, took, rfl, transcribes⟩

end PeerLink.Negotiation
