import Mathlib.Data.List.Basic
import PeerLink.Bytes

/-!
# Numbers of fixed width

The octets of a fixed width and the numbers below the power of 256 are in bijection, so that a
length on the wire is read as exactly the length that was written.
-/

namespace PeerLink.Bytes

/-- The octets of the number of a byte string are the byte string. -/
theorem ofNatLE_toNatLE (bytes : Bytes) : ofNatLE bytes.length (toNatLE bytes) = bytes := by
  induction bytes with
  | nil => rfl
  | cons b bytes ih =>
    have octet := b.toNat_lt
    show ofNatLE (bytes.length + 1) (b.toNat + 256 * toNatLE bytes) = b :: bytes
    have low : UInt8.ofNat (b.toNat + 256 * toNatLE bytes) = b := by
      apply UInt8.toNat_inj.1
      rw [UInt8.toNat_ofNat']
      omega
    have high : (b.toNat + 256 * toNatLE bytes) / 256 = toNatLE bytes := by omega
    rw [ofNatLE, low, high, ih]

/-- The octets of the number of a byte string, the most significant first. -/
theorem ofNatBE_toNatBE {bytes : Bytes} {width : Nat} (h : bytes.length = width) :
    ofNatBE width (toNatBE bytes) = bytes := by
  have octets := ofNatLE_toNatLE bytes.reverse
  rw [List.length_reverse, h] at octets
  rw [ofNatBE, toNatBE_eq_toNatLE_reverse, octets, List.reverse_reverse]

/-- A number that fits its width is read back. -/
theorem toNatBE_ofNatBE_of_lt {width n : Nat} (h : n < Nat.pow 256 width) :
    toNatBE (ofNatBE width n) = n := by
  rw [toNatBE_ofNatBE, Nat.mod_eq_of_lt h]

end PeerLink.Bytes
