import Mathlib.Data.List.Basic
import PeerLink.Noise.Sealing

/-!
# The messages of a half

The messages that are sealed with a half stand in a sequence: each of them has its own key and its
own counter. `Sealing.after` is the half at a place of the sequence, and `Sealing.Authentic` is what
a cipher promises to a receiver whose peer has sealed certain messages and to whom a network that
does not know the keys has delivered certain ciphertexts. It promises nothing of the ciphertexts
that anyone with the keys could make but nobody has delivered.
-/

namespace PeerLink

namespace Sealing

variable (suite : Suite)

/-- The half after `n` messages. -/
def after : Nat → Sealing → Sealing
  | 0, half => half
  | n + 1, half => after n (half.advance suite)

/-- One more message. -/
theorem after_succ (n : Nat) (half : Sealing) :
    after suite (n + 1) half = (after suite n half).advance suite := by
  induction n generalizing half with
  | zero => rfl
  | succ n ih => rw [after, ih, after]

/-- Some messages and then some more. -/
theorem after_add (m n : Nat) (half : Sealing) :
    after suite (m + n) half = after suite n (after suite m half) := by
  induction n with
  | zero => rfl
  | succ n ih => rw [← Nat.add_assoc, after_succ, ih, after_succ]

/-- Of what is delivered at a place of the sequence, as the half of the place and a ciphertext, only
the ciphertext that was sealed there opens, and it opens to the message that it was made of; where
nothing was sealed yet nothing of it opens. -/
def Authentic (half : Sealing) (delivered : Sealing → Bytes → Prop) (sent : List Bytes) : Prop :=
  ∀ place ciphertext text, delivered (after suite place half) ciphertext →
    suite.decrypt? (after suite place half).key (after suite place half).counter [] ciphertext =
        some text →
      sent[place]? = some text ∧
        ciphertext = ((after suite place half).sealMessage suite text).1

/-- Seals messages one after the other. -/
def sealAll : Sealing → List Bytes → List Bytes
  | _, [] => []
  | half, text :: texts =>
    let (message, half) := half.sealMessage suite text
    message :: sealAll half texts

/-- Unseals messages one after the other. -/
def unsealAll : Sealing → List Bytes → List (Except SealingError Bytes)
  | _, [] => []
  | half, message :: messages =>
    let (text, half) := half.unsealMessage suite message
    text :: unsealAll half messages

/-- Whatever one half seals next, the other one unseals. -/
def Pairs (half half' : Sealing) : Prop :=
  ∀ texts, half'.unsealAll suite (half.sealAll suite texts) = texts.map .ok

/-- A half pairs with itself: both sides of a channel hold the same one. -/
theorem pairs_self {suite : Suite} (opens : suite.Opens) (half : Sealing) :
    half.Pairs suite half := by
  intro texts
  induction texts generalizing half with
  | nil => rfl
  | cons text texts ih =>
    have opened : half.unsealMessage suite (half.sealMessage suite text).1 =
        (.ok text, half.advance suite) := by
      rw [unsealMessage, sealMessage, opens _ _ _ _]
    show (half.unsealMessage suite (half.sealMessage suite text).1).1 ::
      (half.unsealMessage suite (half.sealMessage suite text).1).2.unsealAll suite
        ((half.advance suite).sealAll suite texts) = _
    rw [opened, ih, List.map_cons]

/-- The counter has counted the messages. -/
theorem counter_after (n : Nat) (half : Sealing) :
    (after suite n half).counter = half.counter + n := by
  induction n with
  | zero => rfl
  | succ n ih =>
    rw [after_succ]
    show (after suite n half).counter + 1 = _
    rw [ih, Nat.add_assoc]

variable {suite} {delivered : Sealing → Bytes → Prop}

/-- What is delivered at the place of the half and opens is the first of the messages. -/
theorem Authentic.eq_cons {half : Sealing} {sent : List Bytes}
    (h : half.Authentic suite delivered sent) {ciphertext text : Bytes}
    (here : delivered half ciphertext)
    (opened : suite.decrypt? half.key half.counter [] ciphertext = some text) :
    ∃ later, sent = text :: later ∧ ciphertext = (half.sealMessage suite text).1 := by
  obtain ⟨first, genuine⟩ := h 0 ciphertext text here opened
  cases sent with
  | nil => simp at first
  | cons message later =>
    simp only [List.getElem?_cons_zero, Option.some.injEq] at first
    subst first
    exact ⟨later, rfl, genuine⟩

/-- The places behind the first one. -/
theorem Authentic.tail {half : Sealing} {message : Bytes} {later : List Bytes}
    (h : half.Authentic suite delivered (message :: later)) :
    (half.advance suite).Authentic suite delivered later := by
  intro place ciphertext text there opened
  obtain ⟨next, genuine⟩ := h (place + 1) ciphertext text there opened
  rw [List.getElem?_cons_succ] at next
  exact ⟨next, genuine⟩

end Sealing

end PeerLink
