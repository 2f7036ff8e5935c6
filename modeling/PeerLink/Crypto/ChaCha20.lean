import PeerLink.Bytes
import PeerLink.Crypto.Square

/-!
# ChaCha20

The key stream of the cipher, from a key of 32 octets, a nonce of twelve octets and a block counter.
Words are of 32 bits, the least significant octet first.
-/

namespace PeerLink.ChaCha20

/-- The words of a text, four octets each. -/
def words : Bytes → List UInt32
  | a :: b :: c :: d :: rest =>
    (a.toUInt32 ||| b.toUInt32 <<< 8 ||| c.toUInt32 <<< 16 ||| d.toUInt32 <<< 24) :: words rest
  | _ => []

/-- The octets of a word. -/
def octets (w : UInt32) : Bytes :=
  [w.toUInt8, (w >>> 8).toUInt8, (w >>> 16).toUInt8, (w >>> 24).toUInt8]

/-- A word turned left by `n` bits. -/
def rotate (x : UInt32) (n : UInt32) : UInt32 :=
  (x <<< n) ||| (x >>> (32 - n))

/-- Mixes the words of a lane. -/
def quarter (s : Square UInt32) (lane : Fin 16 × Fin 16 × Fin 16 × Fin 16) : Square UInt32 :=
  let (i, j, k, l) := lane
  let a := s.get i + s.get j
  let d := rotate (s.get l ^^^ a) 16
  let c := s.get k + d
  let b := rotate (s.get j ^^^ c) 12
  let a := a + b
  let d := rotate (d ^^^ a) 8
  let c := c + d
  let b := rotate (b ^^^ c) 7
  s.put lane a b c d

/-- Mixes the columns, then the diagonals. -/
def doubleRound (s : Square UInt32) : Square UInt32 :=
  Square.lanes.foldl quarter s

/-- The state that a block starts from. -/
def start (key nonce : List UInt32) (counter : UInt32) : Square UInt32 :=
  Vector.ofFn fun i =>
    ([0x61707865, 0x3320646e, 0x79622d32, 0x6b206574] ++ key ++ counter :: nonce).getD i.val 0

/-- A block of the key stream. -/
def block (key nonce : List UInt32) (counter : UInt32) : Bytes :=
  let s := start key nonce counter
  let mixed := Nat.repeat doubleRound 10 s
  (s.zipWith (· + ·) mixed).toList.flatMap octets

/-- Combines a text with the key stream from the block `counter` on, behind the octets `done`, which
are in reverse order. -/
def applyFrom (key nonce : List UInt32) (counter : UInt32) (done : Bytes) : Bytes → Bytes
  | [] => done.reverse
  | b :: rest =>
    let text := b :: rest
    let piece := List.zipWith (· ^^^ ·) (text.take 64) (block key nonce counter)
    applyFrom key nonce (counter + 1) (piece.reverseAux done) (text.drop 64)
termination_by text => text.length

/-- Combines a text with the key stream from the block `counter` on. -/
def apply (key nonce : Bytes) (counter : UInt32) (text : Bytes) : Bytes :=
  applyFrom (words key) (words nonce) counter [] text

/-- A block has sixteen words. -/
@[simp]
theorem length_block (key nonce : List UInt32) (counter : UInt32) :
    (block key nonce counter).length = 64 := by
  have words (square : List UInt32) : (square.flatMap octets).length = 4 * square.length := by
    induction square with
    | nil => rfl
    | cons w square ih =>
      rw [List.flatMap_cons, List.length_append, ih, octets]
      simp only [List.length_cons, List.length_nil]
      omega
  rw [block, words, Vector.length_toList]

/-- A combined text is as long as the text. -/
theorem length_applyFrom (key nonce : List UInt32) (counter : UInt32) (done text : Bytes) :
    (applyFrom key nonce counter done text).length = done.length + text.length := by
  fun_induction applyFrom key nonce counter done text with
  | case1 => simp
  | case2 counter done b rest text piece ih =>
    rw [ih]
    simp only [piece, text, List.reverseAux_eq, List.length_append, List.length_reverse,
      List.length_zipWith, List.length_take, length_block, List.length_drop]
    omega

/-- A combined text is as long as the text. -/
@[simp]
theorem length_apply (key nonce : Bytes) (counter : UInt32) (text : Bytes) :
    (apply key nonce counter text).length = text.length := by
  simp [apply, length_applyFrom]

end PeerLink.ChaCha20
