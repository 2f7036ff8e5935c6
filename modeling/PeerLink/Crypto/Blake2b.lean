import PeerLink.Bytes
import PeerLink.Crypto.Square

/-!
# BLAKE2b

The hash of 64 octets that the handshake mixes its transcript with. Words are of 64 bits, the least
significant octet first.
-/

namespace PeerLink.Blake2b

/-- The first 64 bits of the fractional parts of the square roots of the first eight primes. -/
def initial : Vector UInt64 8 :=
  #v[0x6a09e667f3bcc908, 0xbb67ae8584caa73b, 0x3c6ef372fe94f82b, 0xa54ff53a5f1d36f1,
    0x510e527fade682d1, 0x9b05688c2b3e6c1f, 0x1f83d9abfb41bd6b, 0x5be0cd19137e2179]

/-- The order in which each of the twelve rounds takes the words of a block. -/
def schedule : List (List Nat) :=
  [[0, 1, 2, 3, 4, 5, 6, 7, 8, 9, 10, 11, 12, 13, 14, 15],
    [14, 10, 4, 8, 9, 15, 13, 6, 1, 12, 0, 2, 11, 7, 5, 3],
    [11, 8, 12, 0, 5, 2, 15, 13, 10, 14, 3, 6, 7, 1, 9, 4],
    [7, 9, 3, 1, 13, 12, 11, 14, 2, 6, 5, 10, 4, 0, 15, 8],
    [9, 0, 5, 7, 2, 4, 10, 15, 14, 1, 11, 12, 6, 8, 3, 13],
    [2, 12, 6, 10, 0, 11, 8, 3, 4, 13, 7, 5, 15, 14, 1, 9],
    [12, 5, 1, 15, 14, 13, 4, 10, 0, 7, 6, 3, 9, 2, 8, 11],
    [13, 11, 7, 14, 12, 1, 3, 9, 5, 0, 15, 4, 8, 6, 2, 10],
    [6, 15, 14, 9, 11, 3, 0, 8, 12, 2, 13, 7, 1, 4, 10, 5],
    [10, 2, 8, 4, 7, 6, 1, 5, 15, 11, 9, 14, 3, 12, 13, 0],
    [0, 1, 2, 3, 4, 5, 6, 7, 8, 9, 10, 11, 12, 13, 14, 15],
    [14, 10, 4, 8, 9, 15, 13, 6, 1, 12, 0, 2, 11, 7, 5, 3]]

/-- A word turned right by `n` bits. -/
def rotate (x : UInt64) (n : UInt64) : UInt64 :=
  (x >>> n) ||| (x <<< (64 - n))

/-- Mixes two words of the message into a lane of the working square. -/
def mix (v : Square UInt64) (lane : Fin 16 × Fin 16 × Fin 16 × Fin 16) (x y : UInt64) :
    Square UInt64 :=
  let (i, j, k, l) := lane
  let a := v.get i + v.get j + x
  let d := rotate (v.get l ^^^ a) 32
  let c := v.get k + d
  let b := rotate (v.get j ^^^ c) 24
  let a := a + b + y
  let d := rotate (d ^^^ a) 16
  let c := c + d
  let b := rotate (b ^^^ c) 63
  v.put lane a b c d

/-- One round: the steps take two words each from the message, in the given order. -/
def round (m : Array UInt64) (v : Square UInt64) :
    List (Fin 16 × Fin 16 × Fin 16 × Fin 16) → List Nat → Square UInt64
  | lane :: rest, x :: y :: order => round m (mix v lane (m.getD x 0) (m.getD y 0)) rest order
  | _, _ => v

/-- The sixteen words of a block; the octets that a short block lacks are zeros. -/
def words (block : Bytes) : Array UInt64 :=
  Array.ofFn fun i : Fin 16 =>
    UInt64.ofNat (Bytes.toNatLE ((block.drop (8 * i.val)).take 8))

/-- Takes a block into the state; `count` octets have been taken with it, and the last block is
marked. -/
def compress (h : Vector UInt64 8) (block : Bytes) (count : Nat) (last : Bool) : Vector UInt64 8 :=
  let v : Square UInt64 := h ++ initial
  let v := v.set 12 (v[12] ^^^ UInt64.ofNat count)
  let v := v.set 13 (v[13] ^^^ UInt64.ofNat (count / UInt64.size))
  let v := if last then v.set 14 (~~~v[14]) else v
  let m := words block
  let v := schedule.foldl (fun v order => round m v Square.lanes order) v
  Vector.ofFn fun i => h[i] ^^^ v[i.val] ^^^ v[i.val + 8]

/-- Takes the blocks of a message into the state; `count` octets have been taken before. -/
def absorb (h : Vector UInt64 8) (count : Nat) (message : Bytes) : Vector UInt64 8 :=
  let block := message.take 128
  let count := count + block.length
  match left : message.drop 128 with
  | [] => compress h block count true
  | b :: rest =>
    have : (b :: rest).length < message.length := by
      rw [← left, List.length_drop]
      have := congrArg List.length left
      simp only [List.length_drop, List.length_cons] at this
      omega
    absorb (compress h block count false) count (b :: rest)
termination_by message.length

/-- The hash of a message. -/
def hash (message : Bytes) : Bytes :=
  let start := initial.set 0 (initial[0] ^^^ 0x01010040)
  (absorb start 0 message).toList.flatMap fun w => Bytes.ofNatLE 8 w.toNat

end PeerLink.Blake2b
