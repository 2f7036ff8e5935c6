/-!
# Octets

A byte string is a finite list of octets. This module has the words of fixed width that frames and
nonces are made of: the most significant octet first (big endian) on the wire, the least
significant first (little endian) inside the cipher. Writing a number and reading it back gives the
number modulo `256 ^ width`.
-/

namespace PeerLink

/-- A finite string of octets, as it travels on a stream. -/
abbrev Bytes := List UInt8

namespace Bytes

/-- The number whose octets, the most significant first, are the given ones. -/
def toNatBE (bytes : Bytes) : Nat :=
  bytes.foldl (fun n b => 256 * n + b.toNat) 0

/-- The number whose octets, the least significant first, are the given ones. -/
def toNatLE (bytes : Bytes) : Nat :=
  bytes.foldr (fun b n => b.toNat + 256 * n) 0

/-- The `width` lowest octets of a number, the least significant first. -/
def ofNatLE : Nat → Nat → Bytes
  | 0, _ => []
  | width + 1, n => UInt8.ofNat n :: ofNatLE width (n / 256)

/-- The `width` lowest octets of a number, the most significant first. -/
def ofNatBE (width n : Nat) : Bytes :=
  (ofNatLE width n).reverse

/-- `ofNatLE` writes as many octets as it is asked for. -/
@[simp]
theorem length_ofNatLE (width n : Nat) : (ofNatLE width n).length = width := by
  induction width generalizing n with
  | zero => rfl
  | succ width ih => simp [ofNatLE, ih]

/-- `ofNatBE` writes as many octets as it is asked for. -/
@[simp]
theorem length_ofNatBE (width n : Nat) : (ofNatBE width n).length = width := by
  simp [ofNatBE]

/-- A number is read back from its octets, up to the width. -/
theorem toNatLE_ofNatLE (width n : Nat) : toNatLE (ofNatLE width n) = n % Nat.pow 256 width := by
  induction width generalizing n with
  | zero => simp [ofNatLE, toNatLE, Nat.mod_one]
  | succ width ih =>
    have h := ih (n / 256)
    simp only [toNatLE] at h ⊢
    have octet : (UInt8.ofNat n).toNat = n % 256 := by simp
    simp only [ofNatLE, List.foldr_cons, h, octet]
    show _ = n % (Nat.pow 256 width * 256)
    rw [Nat.mul_comm (Nat.pow 256 width) 256, Nat.mod_mul]

/-- Reading the most significant octet first is reading the reversed octets the other way. -/
theorem toNatBE_eq_toNatLE_reverse (bytes : Bytes) : toNatBE bytes = toNatLE bytes.reverse := by
  simp only [toNatBE, toNatLE, List.foldr_reverse]
  congr 1
  funext n b
  omega

/-- A number is read back from its octets, up to the width. -/
theorem toNatBE_ofNatBE (width n : Nat) : toNatBE (ofNatBE width n) = n % Nat.pow 256 width := by
  rw [toNatBE_eq_toNatLE_reverse, ofNatBE, List.reverse_reverse, toNatLE_ofNatLE]

end Bytes

end PeerLink
