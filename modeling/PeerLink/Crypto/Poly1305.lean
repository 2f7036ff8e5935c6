import PeerLink.Bytes

/-!
# Poly1305

The tag of sixteen octets that authenticates a message under a key of 32 octets, used once: the
message's blocks are the coefficients of a polynomial over the integers modulo `2 ^ 130 - 5`, taken
at the first half of the key; the second half is added.
-/

namespace PeerLink.Poly1305

/-- The prime modulus. -/
def modulus : Nat := (1 <<< 130) - 5

/-- The bits of the first half of the key that count. -/
def mask : Nat := 0x0ffffffc0ffffffc0ffffffc0fffffff

/-- The polynomial of a message's blocks, each with a one behind its last octet. -/
def evaluate (r acc : Nat) : Bytes → Nat
  | [] => acc
  | b :: rest =>
    let block := (b :: rest).take 16
    let n := Bytes.toNatLE block + 1 <<< (8 * block.length)
    evaluate r ((acc + n) * r % modulus) ((b :: rest).drop 16)
termination_by message => message.length

/-- The tag of a message. -/
def tag (key message : Bytes) : Bytes :=
  let r := Nat.land (Bytes.toNatLE (key.take 16)) mask
  let s := Bytes.toNatLE (key.drop 16)
  Bytes.ofNatLE 16 (evaluate r 0 message + s)

/-- A tag has sixteen octets. -/
@[simp]
theorem length_tag (key message : Bytes) : (tag key message).length = 16 := by
  simp [tag]

end PeerLink.Poly1305
