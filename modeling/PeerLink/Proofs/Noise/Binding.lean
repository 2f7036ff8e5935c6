import PeerLink.Proofs.Noise.Handshake

/-!
# A handshake is bound to its prologue

The running hash takes in the prologue, the public key of the responder and the ephemeral key of the
initiator, and the first ciphertext of the handshake is sealed under it. So a responder that opens
this ciphertext has taken in the same: `prologue_eq_of_respond?` needs nothing but a hash that tells
these inputs apart (`Suite.Separates`), and a cipher that opens what was sealed only.
-/

namespace PeerLink

/-- The hash tells apart what two runs take into it, place by place. -/
def Suite.Separates (suite : Suite) (inputs inputs' : List Bytes) : Prop :=
  ∀ pair ∈ inputs.zip inputs', suite.hash pair.1 = suite.hash pair.2 → pair.1 = pair.2

/-- Runs that take in the same need nothing of the hash. -/
theorem Suite.separates_self (suite : Suite) (inputs : List Bytes) :
    suite.Separates inputs inputs := by
  rintro ⟨input, input'⟩ mem -
  induction inputs with
  | nil => exact absurd mem List.not_mem_nil
  | cons first rest ih =>
    rcases List.mem_cons.1 mem with here | later
    · rw [(Prod.mk.inj here).1, (Prod.mk.inj here).2]
    · exact ih later

namespace Noise

/-- A ciphertext with all that it was sealed under, or is to be opened under. -/
structure Box where
  /-- The key. -/
  key : Bytes
  /-- The counter. -/
  counter : Nat
  /-- The associated data. -/
  ad : Bytes
  /-- The ciphertext. -/
  ciphertext : Bytes

/-- The box opens. -/
def Box.Opens (suite : Suite) (box : Box) : Prop :=
  suite.decrypt? box.key box.counter box.ad box.ciphertext ≠ none

/-- A ciphertext with all that a state seals it or opens it under. -/
def Symmetric.box (s : Symmetric) (ciphertext : Bytes) : Box :=
  ⟨s.sealing.key, s.sealing.counter, s.hash, ciphertext⟩

variable (suite : Suite)

/-- The state in front of the first ciphertext of a handshake. -/
def Symmetric.greeted (prologue : Bytes) (responder ephemeral : PublicKey) (secret : Bytes) :
    Symmetric :=
  ((start suite prologue responder).mixHash suite ephemeral.bytes).mixKey suite secret

/-- What the hash takes in up to the first ciphertext of a handshake. -/
def hashed (prologue : Bytes) (responder ephemeral : PublicKey) : List Bytes :=
  let name := protocolName ++ List.replicate (Suite.hashSize - protocolName.length) 0
  [name ++ prologue, suite.hash (name ++ prologue) ++ responder.bytes,
    suite.hash (suite.hash (name ++ prologue) ++ responder.bytes) ++ ephemeral.bytes]

/-- The boxes that an initiator seals: its public key, and then a payload without octets. -/
def initiated (prologue : Bytes) (secret ephemeral : SecretKey) (responder : PublicKey) :
    List Box :=
  let s := Symmetric.greeted suite prologue responder (suite.publicKey ephemeral)
    (suite.agree ephemeral responder)
  let (static, s') := s.encrypt suite (suite.publicKey secret).bytes
  let s' := s'.mixKey suite (suite.agree secret responder)
  [s.box static, s'.box (s'.encrypt suite []).1]

/-- The box in which a responder finds the public key of the initiator. -/
def presented (prologue : Bytes) (secret : SecretKey) (ephemeral : PublicKey) (message : Bytes) :
    Box :=
  (Symmetric.greeted suite prologue (suite.publicKey secret) ephemeral
    (suite.agree secret ephemeral)).box ((message.drop keySize).take (keySize + Suite.tagSize))

/-- The box that a responder seals: a payload without octets. -/
def Responder.replied (ephemeral : SecretKey) (r : Responder) : Box :=
  let s := r.state.mixHash suite (suite.publicKey ephemeral).bytes
  let s := s.mixKey suite (suite.agree ephemeral r.remoteEphemeral)
  let s := s.mixKey suite (suite.agree ephemeral r.initiator)
  s.box (s.encrypt suite []).1

variable {suite}

/-- A responder that goes on has opened the box with the public key of the initiator. -/
theorem opens_of_respond? {prologue message : Bytes} {secret : SecretKey} {r : Responder}
    (responds : respond? suite prologue secret message = some r) :
    ∃ ephemeral, PublicKey.ofBytes? (message.take keySize) = some ephemeral ∧
      (presented suite prologue secret ephemeral message).Opens suite := by
  simp only [respond?, Option.bind_eq_bind, Option.bind_eq_some_iff] at responds
  obtain ⟨ephemeral, first, ⟨static, s⟩, opened, -⟩ := responds
  refine ⟨ephemeral, first, fun fails => ?_⟩
  unfold Symmetric.decrypt? at opened
  split at opened
  · simp at opened
  · rename_i text decrypted
    exact Option.some_ne_none text (decrypted.symm.trans fails)

/-- The ephemeral key stands in front of the first message. -/
theorem take_initiate (prologue : Bytes) (secret ephemeral : SecretKey) (key : PublicKey) :
    PublicKey.ofBytes? ((initiate suite prologue secret ephemeral key).1.take keySize) =
      some (suite.publicKey ephemeral) := by
  have size : (suite.publicKey ephemeral).bytes.length = keySize :=
    (suite.publicKey ephemeral).length_bytes
  simp only [initiate, List.append_assoc, List.take_left' size, PublicKey.ofBytes?_bytes]

/-- The box that the owner of the responder's key opens is the first one of the initiator. -/
theorem presented_mem_initiated (prologue : Bytes) (secret : SecretKey)
    {ephemeral secret' : SecretKey} (agrees : suite.Agrees ephemeral secret') :
    presented suite prologue secret' (suite.publicKey ephemeral)
        (initiate suite prologue secret ephemeral (suite.publicKey secret')).1 ∈
      initiated suite prologue secret ephemeral (suite.publicKey secret') := by
  have shared : suite.agree secret' (suite.publicKey ephemeral) =
      suite.agree ephemeral (suite.publicKey secret') := Eq.symm agrees
  have key_size : (suite.publicKey ephemeral).bytes.length = keySize :=
    (suite.publicKey ephemeral).length_bytes
  simp only [presented, shared, initiated, initiate, List.append_assoc, List.drop_left' key_size]
  rw [List.take_left']
  · exact List.mem_cons_self
  · rw [Symmetric.length_encrypt, PublicKey.length_bytes]
    rfl

/-- Of the boxes of a handshake only the one with the public key of the initiator is as long as
this. -/
theorem eq_static_of_mem {prologue : Bytes} {secret ephemeral ephemeral' : SecretKey}
    {key : PublicKey} {r : Responder} {box : Box}
    (mem : box ∈ initiated suite prologue secret ephemeral key ++ [r.replied suite ephemeral'])
    (long : box.ciphertext.length = keySize + Suite.tagSize) :
    box.ad = (Symmetric.greeted suite prologue key (suite.publicKey ephemeral)
      (suite.agree ephemeral key)).hash := by
  have short : ([] : Bytes).length + Suite.tagSize ≠ keySize + Suite.tagSize := by decide
  simp only [initiated, Responder.replied, List.mem_append, List.mem_cons, List.not_mem_nil,
    or_false] at mem
  rcases mem with (rfl | rfl) | rfl
  · rfl
  · exact absurd ((Symmetric.length_encrypt [] _).symm.trans long) short
  · exact absurd ((Symmetric.length_encrypt [] _).symm.trans long) short

/-- What was taken in is determined by the running hash. -/
theorem eq_of_hash_greeted {prologue prologue' secret secret' : Bytes}
    {key key' ephemeral ephemeral' : PublicKey}
    (separates : suite.Separates (hashed suite prologue key ephemeral)
      (hashed suite prologue' key' ephemeral'))
    (same : (Symmetric.greeted suite prologue key ephemeral secret).hash =
      (Symmetric.greeted suite prologue' key' ephemeral' secret').hash) :
    prologue = prologue' ∧ key = key' ∧ ephemeral = ephemeral' := by
  simp only [Suite.Separates, hashed, List.zip_cons_cons, List.zip_nil_right, List.forall_mem_cons,
    List.not_mem_nil, false_implies, implies_true, and_true] at separates
  obtain ⟨first, second, third⟩ := separates
  -- The hash is undone from the outside to the inside; keys have the same size.
  have sizes : ephemeral.bytes.length = ephemeral'.bytes.length := by
    rw [ephemeral.length_bytes, ephemeral'.length_bytes]
  obtain ⟨inner, ephemeral_eq⟩ := List.append_inj' (third same) sizes
  have sizes : key.bytes.length = key'.bytes.length := by
    rw [key.length_bytes, key'.length_bytes]
  obtain ⟨innermost, key_eq⟩ := List.append_inj' (second inner) sizes
  have prologue_eq := List.append_cancel_left (first innermost)
  refine ⟨prologue_eq, ?_, ?_⟩
  · cases key
    cases key'
    congr
  · cases ephemeral
    cases ephemeral'
    congr

/-- A responder that reads the message of an initiator has the same prologue. -/
theorem prologue_eq_of_respond? {prologue prologue' : Bytes}
    {secret ephemeral secret' ephemeral' : SecretKey} {key : PublicKey} {r : Responder}
    (responds : respond? suite prologue' secret' (initiate suite prologue secret ephemeral key).1 =
      some r)
    (separates : suite.Separates (hashed suite prologue key (suite.publicKey ephemeral))
      (hashed suite prologue' (suite.publicKey secret') (suite.publicKey ephemeral)))
    (opens_only :
      let box := presented suite prologue' secret' (suite.publicKey ephemeral)
        (initiate suite prologue secret ephemeral key).1
      box.Opens suite →
        box ∈ initiated suite prologue secret ephemeral key ++ [r.replied suite ephemeral']) :
    prologue = prologue' := by
  obtain ⟨e, first, opens⟩ := opens_of_respond? responds
  obtain rfl := Option.some.inj ((take_initiate prologue secret ephemeral key).symm.trans first)
  have length : ((initiate suite prologue secret ephemeral key).1.drop keySize).length =
      keySize + Suite.tagSize + Suite.tagSize := by
    rw [List.length_drop, length_initiate]
    rfl
  have long : (presented suite prologue' secret' (suite.publicKey ephemeral)
      (initiate suite prologue secret ephemeral key).1).ciphertext.length =
        keySize + Suite.tagSize := by
    show (List.take _ _).length = _
    rw [List.length_take, length]
    omega
  have same : (Symmetric.greeted suite prologue key (suite.publicKey ephemeral)
      (suite.agree ephemeral key)).hash =
        (Symmetric.greeted suite prologue' (suite.publicKey secret') (suite.publicKey ephemeral)
          (suite.agree secret' (suite.publicKey ephemeral))).hash :=
    (eq_static_of_mem (opens_only opens) long).symm
  exact (eq_of_hash_greeted separates same).1

end Noise

end PeerLink
