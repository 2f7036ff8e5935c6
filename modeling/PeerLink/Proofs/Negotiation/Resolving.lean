import PeerLink.Proofs.Negotiation.Deeds
import PeerLink.Proofs.Negotiation.Offers

/-!
# What a negotiation resolves

A connection says in three ways whether it is secure: by the layer over its wire, by the upgrades
that it was resolved to, and by the identity of its peer. A negotiation settles the upgrades when
the envelopes are compared, and the two others when the handshake is over, or when there is none.
`Resolution.Tells` is what a resolution is to say of the layer; `agree_tells` shows it of any two
envelopes, and `Dialer.Took.resolves` and `Listener.Took.resolves` of the connections that come of
them.
-/

namespace PeerLink

/-- A resolution tells whether a connection is secure. -/
structure Resolution.Tells (resolution : Resolution) (secure : Bool) : Prop where
  /-- The secure channel is among the upgrades exactly if the connection is secure. -/
  contains_eq : resolution.contains .secureChannel = secure
  /-- A resolution without upgrades is not a list of them. -/
  ne_resolved_nil : resolution ≠ .resolved []
  /-- No upgrade is listed twice. -/
  nodup : resolution.kinds.Nodup

/-- A stream that is used as it is is not secure. -/
theorem Resolution.tells_bare : bare.Tells false := ⟨rfl, nofun, .nil⟩

/-- A stream with the secure channel is secure. -/
theorem Resolution.tells_secureChannel : (resolved [.secureChannel]).Tells true :=
  ⟨rfl, nofun, by decide⟩

/-- A connection that a negotiation has prepared, with a secure layer if the resolution tells so. -/
inductive Connection.Resolved (remote : Endpoint) : Connection → Prop
  /-- The connection over a wire. -/
  | intro (wire : Wire) {resolution : Resolution} {channel : Option Noise.Established}
      (tells : resolution.Tells channel.isSome) :
      Resolved remote (.negotiated wire resolution channel remote)

/-- A connection that was negotiated tells whether it is secure. -/
theorem Connection.Resolved.tells {remote : Endpoint} {connection : Connection}
    (resolved : connection.Resolved remote) :
    connection.resolution.Tells connection.isSecure := by
  cases resolved with
  | @intro wire resolution channel tells => cases channel <;> exact tells

namespace Negotiation

variable {suite : Suite} {party : Party} {resolution : Resolution} {done : List Deed}
  {connection : Connection}

/-- A side has keys for a handshake exactly if it agrees on the secure channel. -/
theorem agree_tells {envelope : Envelope} {keys : Option (SecretKey × PublicKey)}
    (agreed : agree party envelope = .ok ⟨resolution, keys⟩) : resolution.Tells keys.isSome := by
  cases keys with
  | none =>
    obtain ⟨-, rfl⟩ := not_shares_of_agree agreed
    exact Resolution.tells_bare
  | some keys =>
    obtain ⟨-, rfl, -⟩ := shares_of_agree agreed
    exact Resolution.tells_secureChannel

/-- A party that secures an envelope resolves to the secure channel. -/
theorem Party.Secures.tells {message : Bytes} {secret : SecretKey} {key : PublicKey}
    (secures : party.Secures message resolution secret key) : resolution.Tells true := by
  obtain ⟨envelope, -, agreed⟩ := secures.agreed
  exact agree_tells agreed

/-- A side whose negotiation is over has taken a last step. -/
theorem Took.last {σ : Type} {deeds : Registry → σ → Stream → List Deed}
    {step : Registry → σ → Stream → Move σ × Registry × Stream} {start : σ}
    {result : Except NegotiationError Connection}
    (took : Took deeds step start done (.finished result)) :
    ∃ done' state registry stream, Took deeds step start done' (.active state) ∧
      (step registry state stream).1 = .finished result := by
  generalize ended : Side.finished result = side at took
  cases took with
  | start => cases ended
  | @step done' state took registry stream =>
    refine ⟨done', state, registry, stream, took, ?_⟩
    cases move : (step registry state stream).1 with
    | next => simp [move, Move.side] at ended
    | wait => simp [move, Move.side] at ended
    | finished result' =>
      rw [move] at ended
      exact congrArg Move.finished (Side.finished.inj ended).symm

namespace Dialer

/-- The last step of a dialer gives a connection that tells whether it is secure. -/
theorem Doing.resolves {dialer : Dialer} (doing : Doing suite party done dialer)
    {registry : Registry} {stream : Stream}
    (last : (dialer.step suite registry stream).1 = .finished (.ok connection)) :
    connection.Resolved party.remote := by
  unfold Dialer.step at last
  cases doing with
  | offering wire =>
    dsimp only at last
    split at last <;> simp at last
  | awaitingReply wire =>
    dsimp only at last
    split at last
    · simp at last
    · simp at last
    · simp at last
    · -- A dialer that agrees on a bare stream is done with the reply.
      split at last
      · simp at last
      · split at last
        · simp at last
        · rename_i agreed
          obtain rfl := Except.ok.inj (Move.finished.inj last)
          exact .intro _ (agree_tells agreed)
        · simp at last
  | registering => simp at last
  | lookingUp wire secures =>
    dsimp only at last
    split at last
    · simp at last
    · split at last <;> simp at last
  | awaitingResponse wire secures received =>
    dsimp only at last
    split at last
    · simp at last
    · simp at last
    · split at last
      · simp at last
      · obtain rfl := Except.ok.inj (Move.finished.inj last)
        exact .intro _ secures.tells

/-- The connection that a dialer gets tells whether it is secure. -/
theorem Took.resolves (took : Took suite party done (.finished (.ok connection))) :
    connection.Resolved party.remote := by
  obtain ⟨_, _, _, _, before, last⟩ := took.last
  exact Doing.resolves (Took.knows before) last

end Dialer

namespace Listener

/-- The last step of a listener gives a connection that tells whether it is secure. -/
theorem Doing.resolves {listener : Listener} (doing : Doing suite party done listener)
    {registry : Registry} {stream : Stream}
    (last : (listener.step suite registry stream).1 = .finished (.ok connection)) :
    connection.Resolved party.remote := by
  unfold Listener.step at last
  cases doing with
  | awaitingOffer wire =>
    dsimp only at last
    split at last
    · simp at last
    · simp at last
    · simp at last
    · split at last
      · -- The peer does not negotiate.
        obtain rfl := Except.ok.inj (Move.finished.inj last)
        exact .intro _ Resolution.tells_bare
      · split at last
        · simp at last
        · split at last
          · simp at last
          · rename_i agreed
            obtain rfl := Except.ok.inj (Move.finished.inj last)
            exact .intro _ (agree_tells agreed)
          · simp at last
  | registering => simp at last
  | awaitingInitiation wire secures received =>
    dsimp only at last
    split at last
    · simp at last
    · simp at last
    · split at last <;> simp at last
  | lookingUp wire secures =>
    dsimp only at last
    split at last
    · simp at last
    · split at last
      · split at last
        · simp at last
        · obtain rfl := Except.ok.inj (Move.finished.inj last)
          exact .intro _ secures.tells
      · simp at last

/-- The connection that a listener gets tells whether it is secure. -/
theorem Took.resolves (took : Took suite party done (.finished (.ok connection))) :
    connection.Resolved party.remote := by
  obtain ⟨_, _, _, _, before, last⟩ := took.last
  have resolved := Doing.resolves (Took.knows before) last
  exact resolved

end Listener

end Negotiation

end PeerLink
