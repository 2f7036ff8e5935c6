import PeerLink.Noise.Handshake
import PeerLink.Proofs.Crypto.Standard

/-!
# What the answer to a handshake proves

An initiator takes two secrets into the chaining secret that it agrees on with the owner of a public
key, so that the key of the answer comes from them. If nobody but this owner seals under such keys,
an answer that can be opened proves that its sender owns the public key: `finish?_answered` has this
assumption as a hypothesis, `Suite.OpensOnly`, and nothing else is assumed of the primitives.
-/

namespace PeerLink

/-- A chaining secret that comes from the secret that the owner of a secret key and the one of a
public key agree on. -/
inductive Suite.Chained (suite : Suite) (secret : SecretKey) (key : PublicKey) : Bytes → Prop
  /-- The secret was taken in last. -/
  | agreed (chaining : Bytes) :
      Chained suite secret key (suite.derive chaining (suite.agree secret key)).1
  /-- Something else was taken in later. -/
  | later {chaining : Bytes} (chained : Chained suite secret key chaining) (material : Bytes) :
      Chained suite secret key (suite.derive chaining material).1

/-- A key that an answer may be sealed under: behind the secret of the two owners at least two more
secrets were taken in. The initiator seals its own message before that. -/
inductive Suite.AnswerKey (suite : Suite) (secret : SecretKey) (key : PublicKey) : Bytes → Prop
  /-- The key of two more secrets. -/
  | intro {chaining : Bytes} (chained : suite.Chained secret key chaining) (first second : Bytes) :
      AnswerKey suite secret key
        ((suite.derive (suite.derive chaining first).1 second).2.take 32)

/-- Whatever opens under the key of an answer was sealed: `sealed` says what the owner of the public
key has sealed, as key, nonce, associated data and ciphertext. -/
def Suite.OpensOnly (suite : Suite) (secret : SecretKey) (key : PublicKey)
    (sealed : Bytes → Nat → Bytes → Bytes → Prop) : Prop :=
  ∀ cipher nonce ad ciphertext text, suite.AnswerKey secret key cipher →
    suite.decrypt? cipher nonce ad ciphertext = some text → sealed cipher nonce ad ciphertext

namespace Suite

/-- What a suite has sealed: every ciphertext of a text. -/
def Sealed (suite : Suite) (cipher : Bytes) (nonce : Nat) (ad ciphertext : Bytes) : Prop :=
  ∃ text, ciphertext = suite.encrypt cipher nonce ad text

/-- What opens by the suite in use was sealed by it. -/
theorem opensOnly_standard (secret : SecretKey) (key : PublicKey) :
    standard.OpensOnly secret key standard.Sealed := by
  intro cipher nonce ad ciphertext text answer opened
  exact ⟨text, Aead.eq_encrypt_of_decrypt? cipher nonce ad opened⟩

end Suite

namespace Noise

variable {suite : Suite} {sealed : Bytes → Nat → Bytes → Bytes → Prop}

/-- The payload of an answer was sealed for the handshake of an initiator, under a key that comes
from its secrets: the associated data is the running hash with the ephemeral key of the answer. -/
def Initiator.Answered (suite : Suite) (sealed : Bytes → Nat → Bytes → Bytes → Prop)
    (initiator : Initiator) (message : Bytes) : Prop :=
  ∃ cipher, suite.AnswerKey initiator.ephemeral initiator.responder cipher ∧
    sealed cipher 0 (suite.hash (initiator.state.hash ++ message.take keySize))
      (message.drop keySize)

/-- The initiator has taken in the secret of its ephemeral key and the key of the responder. -/
theorem chained_initiate (prologue : Bytes) (secret ephemeral : SecretKey) (key : PublicKey) :
    suite.Chained ephemeral key
      (initiate suite prologue secret ephemeral key).2.state.chaining := by
  have chained := @Suite.Chained.agreed suite ephemeral key
    (protocolName ++ List.replicate (Suite.hashSize - protocolName.length) 0)
  exact chained.later (suite.agree secret key)

/-- What an initiator knows when its channel is complete: the channel is the one with the responder
that it wants to reach, and the payload of the answer opens. -/
theorem Initiator.finish?_eq_some {initiator : Initiator} {message : Bytes} {channel : Established}
    (h : initiator.finish? suite message = some channel) :
    channel.remote = initiator.responder ∧ ∃ first second text,
      suite.decrypt?
        ((suite.derive (suite.derive initiator.state.chaining first).1 second).2.take 32) 0
        (suite.hash (initiator.state.hash ++ message.take keySize)) (message.drop keySize) =
          some text := by
  unfold Initiator.finish? at h
  simp only [Option.bind_eq_bind, Option.bind_eq_some_iff] at h
  obtain ⟨e, ephemeral, ⟨text, s⟩, opened, established⟩ := h
  -- The first part of the message is the ephemeral key of the responder.
  have bytes : e.bytes = message.take keySize := by
    unfold PublicKey.ofBytes? at ephemeral
    split at ephemeral
    · rw [← Option.some.inj ephemeral]
    · simp at ephemeral
  unfold Symmetric.decrypt? at opened
  split at opened
  · simp at opened
  · rename_i text' decrypted
    refine ⟨?_, suite.agree initiator.ephemeral e, suite.agree initiator.secret e, text', ?_⟩
    · rw [← Option.some.inj established]
    · rw [← bytes]
      exact decrypted

/-- A channel that is complete is one with the owner of the public key, who has answered. -/
theorem finish?_answered {prologue : Bytes} {secret ephemeral : SecretKey} {key : PublicKey}
    {message : Bytes} {channel : Established} (opens_only : suite.OpensOnly ephemeral key sealed)
    (h : (initiate suite prologue secret ephemeral key).2.finish? suite message = some channel) :
    channel.remote = key ∧
      (initiate suite prologue secret ephemeral key).2.Answered suite sealed message := by
  obtain ⟨remote, first, second, text, opened⟩ := Initiator.finish?_eq_some h
  have chained := @chained_initiate suite prologue secret ephemeral key
  have answer := Suite.AnswerKey.intro chained first second
  exact ⟨remote, _, answer, opens_only _ 0 _ _ text answer opened⟩

end Noise

end PeerLink
