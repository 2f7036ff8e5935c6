import Mathlib.Data.List.Basic
import Mathlib.Tactic.Set
import PeerLink.Noise.Handshake

/-!
# Both sides of a handshake understand each other

A responder reads what an initiator has sent to its public key, and then both are in the same state;
the initiator reads the answer, and then the halves of both sides belong together. Of the primitives
only this is used: what is encrypted is decrypted, and the owners of the keys that take part agree
on the same secrets.
-/

namespace PeerLink

/-- A public key is made of its octets. -/
theorem PublicKey.ofBytes?_bytes (key : PublicKey) : ofBytes? key.bytes = some key := by
  rw [ofBytes?, dif_pos key.length_bytes]

namespace Noise

variable {suite : Suite}

/-- What is encrypted is decrypted, and both sides are in the same state then. -/
theorem Symmetric.decrypt?_encrypt (opens : suite.Opens) (text : Bytes) (s : Symmetric) :
    decrypt? suite (s.encrypt suite text).1 s = some (text, (s.encrypt suite text).2) := by
  simp only [decrypt?, encrypt, opens _ _ _ text]

/-- A ciphertext is as long as its text, with the tag behind. -/
theorem Symmetric.length_encrypt (text : Bytes) (s : Symmetric) :
    (s.encrypt suite text).1.length = text.length + Suite.tagSize :=
  suite.length_encrypt _ _ _ _

/-- The first message has its fixed size. -/
theorem length_initiate (prologue : Bytes) (secret ephemeral : SecretKey) (responder : PublicKey) :
    (initiate suite prologue secret ephemeral responder).1.length = initiationSize := by
  simp only [initiate, List.length_append, Symmetric.length_encrypt, PublicKey.length_bytes,
    List.length_nil]
  rfl

/-- The second message has its fixed size. -/
theorem length_reply (ephemeral : SecretKey) (r : Responder) :
    (r.reply suite ephemeral).1.length = responseSize := by
  simp only [Responder.reply, List.length_append, Symmetric.length_encrypt, PublicKey.length_bytes,
    List.length_nil]
  rfl

/-- There are octets in the first message. -/
theorem initiate_ne_nil (prologue : Bytes) (secret ephemeral : SecretKey) (responder : PublicKey) :
    (initiate suite prologue secret ephemeral responder).1 ≠ [] := by
  refine List.ne_nil_of_length_pos ?_
  rw [length_initiate]
  decide

/-- There are octets in the second message. -/
theorem reply_ne_nil (ephemeral : SecretKey) (r : Responder) :
    (r.reply suite ephemeral).1 ≠ [] := by
  refine List.ne_nil_of_length_pos ?_
  rw [length_reply]
  decide

/-- A responder reads the message to its public key, and is in the state of the initiator then. -/
theorem respond?_initiate (opens : suite.Opens) (prologue : Bytes)
    {secret ephemeral secret' : SecretKey} (agrees : suite.Agrees secret secret')
    (agrees_first : suite.Agrees ephemeral secret') :
    respond? suite prologue secret'
        (initiate suite prologue secret ephemeral (suite.publicKey secret')).1 =
      some ⟨(initiate suite prologue secret ephemeral (suite.publicKey secret')).2.state,
        suite.publicKey ephemeral, suite.publicKey secret⟩ := by
  -- The responder finds the two secrets by its own key.
  have shared : suite.agree secret' (suite.publicKey secret) =
      suite.agree secret (suite.publicKey secret') := Eq.symm agrees
  have shared_first : suite.agree secret' (suite.publicKey ephemeral) =
      suite.agree ephemeral (suite.publicKey secret') := Eq.symm agrees_first
  unfold initiate
  -- The states of the initiator in front of its two ciphertexts.
  set s := (((Symmetric.start suite prologue (suite.publicKey secret')).mixHash suite
    (suite.publicKey ephemeral).bytes).mixKey suite
      (suite.agree ephemeral (suite.publicKey secret'))) with s_eq
  set s' := ((s.encrypt suite (suite.publicKey secret).bytes).2.mixKey suite
    (suite.agree secret (suite.publicKey secret'))) with s'_eq
  have key_size : (suite.publicKey ephemeral).bytes.length = keySize :=
    (suite.publicKey ephemeral).length_bytes
  have static_size : (s.encrypt suite (suite.publicKey secret).bytes).1.length =
      keySize + Suite.tagSize := by
    rw [Symmetric.length_encrypt, PublicKey.length_bytes]
    rfl
  simp only [respond?, List.append_assoc, List.take_left' key_size, List.drop_left' key_size,
    PublicKey.ofBytes?_bytes, Option.bind_eq_bind, Option.bind_some,
    shared_first, ← s_eq, List.take_left' static_size, List.drop_left' static_size,
    Symmetric.decrypt?_encrypt opens, shared, ← s'_eq]

/-- An initiator reads the answer to its message, and the halves of both sides belong together. -/
theorem finish?_reply (opens : suite.Opens) (state : Symmetric)
    {secret ephemeral ephemeral' : SecretKey} (agrees : suite.Agrees secret ephemeral')
    (agrees_first : suite.Agrees ephemeral ephemeral') (responder : PublicKey) :
    let r : Responder := ⟨state, suite.publicKey ephemeral, suite.publicKey secret⟩
    Initiator.finish? suite (r.reply suite ephemeral').1 ⟨state, secret, ephemeral, responder⟩ =
      some ⟨(r.reply suite ephemeral').2.receiver, (r.reply suite ephemeral').2.sender,
        responder⟩ := by
  -- The initiator finds the two secrets by the key of the answer.
  have shared : suite.agree secret (suite.publicKey ephemeral') =
      suite.agree ephemeral' (suite.publicKey secret) := agrees
  have shared_first : suite.agree ephemeral (suite.publicKey ephemeral') =
      suite.agree ephemeral' (suite.publicKey ephemeral) := agrees_first
  unfold Responder.reply
  -- The state of the responder in front of its ciphertext.
  set s := (((state.mixHash suite (suite.publicKey ephemeral').bytes).mixKey suite
    (suite.agree ephemeral' (suite.publicKey ephemeral))).mixKey suite
      (suite.agree ephemeral' (suite.publicKey secret))) with s_eq
  have key_size : (suite.publicKey ephemeral').bytes.length = keySize :=
    (suite.publicKey ephemeral').length_bytes
  simp only [Initiator.finish?, List.take_left' key_size, List.drop_left' key_size,
    PublicKey.ofBytes?_bytes, Option.bind_eq_bind, Option.bind_some,
    shared_first, shared, ← s_eq, Symmetric.decrypt?_encrypt opens]

end Noise

end PeerLink
