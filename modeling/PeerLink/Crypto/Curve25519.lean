import PeerLink.Crypto.Sha512

/-!
# The curve of the keys

Public keys are points of the twisted Edwards curve over the integers modulo `2 ^ 255 - 19`, written
as their second coordinate and the sign of the first. Two peers agree on a secret on the Montgomery
form of the same curve, by its first coordinate alone. Numbers are taken modulo the prime after each
operation.
-/

namespace PeerLink.Curve25519

/-- The prime modulus. -/
def p : Nat := (1 <<< 255) - 19

/-- The difference of two numbers below the modulus. -/
def sub (a b : Nat) : Nat := (a + p - b) % p

/-- The product modulo the prime. -/
def mul (a b : Nat) : Nat := a * b % p

/-- The power modulo the prime; `n` has at most `bits` binary digits. -/
def power (a n : Nat) : (bits : Nat) → Nat
  | 0 => 1
  | bits + 1 =>
    let half := power (mul a a) (n / 2) bits
    if n % 2 = 1 then mul a half else half

/-- The inverse modulo the prime; zero for zero. -/
def inverse (a : Nat) : Nat := power a (p - 2) 255

/-- The number of 32 octets with its three lowest bits and its highest bit cleared and the bit below
the highest one set. -/
def clamp (bytes : Bytes) : Nat :=
  let n := Bytes.toNatLE bytes
  n % (1 <<< 254) / 8 * 8 + (1 <<< 254)

/-- The secret scalar of a seed. -/
def scalar (seed : Bytes) : Nat :=
  clamp ((Sha512.hash seed).take 32)

/-! ## The Edwards form -/

/-- The constant of the curve. -/
def d : Nat := mul (p - 121665) (inverse 121666)

/-- A point by its projective coordinates and the product of the affine ones. -/
structure Point where
  /-- The first coordinate, times `z`. -/
  x : Nat
  /-- The second coordinate, times `z`. -/
  y : Nat
  /-- The common denominator. -/
  z : Nat
  /-- The product of the coordinates, times `z`. -/
  t : Nat

/-- The neutral point. -/
def Point.zero : Point := ⟨0, 1, 1, 0⟩

/-- The sum of two points. -/
def Point.add (a b : Point) : Point :=
  let m := mul (sub a.y a.x) (sub b.y b.x)
  let n := mul (a.y + a.x) (b.y + b.x)
  let t := mul (mul a.t (2 * d)) b.t
  let z := mul (2 * a.z) b.z
  let e := sub n m
  let f := sub z t
  let g := (z + t) % p
  let h := (n + m) % p
  ⟨mul e f, mul g h, mul f g, mul e h⟩

/-- The multiple of a point; `n` has at most `bits` binary digits. -/
def Point.smul (a : Point) (n : Nat) : (bits : Nat) → Point
  | 0 => .zero
  | bits + 1 =>
    let half := Point.smul (a.add a) (n / 2) bits
    if n % 2 = 1 then a.add half else half

/-- The second coordinate of the base point. -/
def baseY : Nat := mul 4 (inverse 5)

/-- The first coordinate of the base point. -/
def baseX : Nat :=
  15112221349535400772501151409588531511454012693041857206046113283949847762202

/-- The base point. -/
def base : Point := ⟨baseX, baseY, 1, mul baseX baseY⟩

/-- The octets of a point: the second coordinate, with the lowest bit of the first one on top. -/
def Point.encode (a : Point) : Bytes :=
  let z := inverse a.z
  Bytes.ofNatLE 32 (mul a.y z + (mul a.x z % 2) <<< 255)

/-- The public key of a seed. -/
def publicKey (seed : Bytes) : Bytes :=
  (base.smul (scalar seed) 255).encode

/-! ## The Montgomery form -/

/-- The two points of the ladder, as projective first coordinates. -/
structure Ladder where
  /-- The lower point. -/
  low : Nat × Nat
  /-- The upper point: the lower one plus the starting point. -/
  high : Nat × Nat

/-- A step of the ladder from the point `u`: one point is doubled, and the sum of both is the
other. -/
def Ladder.step (u : Nat) (s : Ladder) (bit : Bool) : Ladder :=
  let (x2, z2) := if bit then s.high else s.low
  let (x3, z3) := if bit then s.low else s.high
  let a := x2 + z2
  let aa := mul a a
  let b := sub x2 z2
  let bb := mul b b
  let e := sub aa bb
  let da := mul (sub x3 z3) a
  let cb := mul (x3 + z3) b
  let sum := da + cb
  let diff := sub da cb
  let double := (mul aa bb, mul e (aa + mul 121665 e))
  let added := (mul sum sum, mul u (mul diff diff))
  if bit then ⟨added, double⟩ else ⟨double, added⟩

/-- The first coordinate of a multiple of the point with first coordinate `u`. -/
def multiply (n u : Nat) : Nat :=
  let bits := (List.range 255).reverse.map n.testBit
  let s := bits.foldl (Ladder.step u) ⟨(1, 0), (u, 1)⟩
  mul s.low.1 (inverse s.low.2)

/-- The first coordinate on the Montgomery form of a public key. -/
def montgomery (key : Bytes) : Nat :=
  let y := Bytes.toNatLE key % (1 <<< 255) % p
  mul (1 + y) (inverse (sub 1 y))

/-- The secret that the owner of a seed and the owner of a public key agree on. -/
def agree (seed key : Bytes) : Bytes :=
  Bytes.ofNatLE 32 (multiply (scalar seed) (montgomery key))

end PeerLink.Curve25519
