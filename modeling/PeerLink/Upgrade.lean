import PeerLink.Envelope
import PeerLink.SecureChannel

/-!
# Upgrades

What a transport can layer over a bare stream. A transport has at most one upgrade of each kind;
they are offered in the order in which the kinds were first added.
-/

namespace PeerLink

/-- An upgrade. -/
inductive Upgrade where
  /-- The stream is encrypted and both peers are authenticated. -/
  | secureChannel (channel : SecureChannel)

/-- The kind of an upgrade. -/
def Upgrade.kind : Upgrade → UpgradeKind
  | secureChannel _ => .secureChannel

/-- The upgrades of a transport, in the order in which they are offered. -/
structure Upgrades where
  /-- The upgrades, at most one of each kind. -/
  entries : List Upgrade
  /-- No kind occurs twice. -/
  nodup : (entries.map Upgrade.kind).Nodup

namespace Upgrades

/-- No upgrades. -/
def empty : Upgrades := ⟨[], by simp⟩

/-- The kinds of the upgrades, in the order in which they are offered. -/
def kinds (upgrades : Upgrades) : List UpgradeKind :=
  upgrades.entries.map Upgrade.kind

/-- The number of upgrades. -/
def size (upgrades : Upgrades) : Nat :=
  upgrades.entries.length

/-- The upgrade of a kind. -/
def get? (upgrades : Upgrades) (kind : UpgradeKind) : Option Upgrade :=
  upgrades.entries.find? (·.kind == kind)

/-- Puts an upgrade in the place of the one of its kind. -/
def replace (upgrades : Upgrades) (upgrade : Upgrade) : Upgrades where
  entries := upgrades.entries.map fun u => if u.kind = upgrade.kind then upgrade else u
  nodup := by
    have kind_replaced (u : Upgrade) :
        Upgrade.kind (if u.kind = upgrade.kind then upgrade else u) = u.kind := by
      by_cases h : u.kind = upgrade.kind
      · rw [if_pos h, h]
      · rw [if_neg h]
    rw [List.map_map]
    exact (List.map_congr_left fun u _ => kind_replaced u).symm ▸ upgrades.nodup

/-- Adds an upgrade behind the others, or in the place of the one of its kind. -/
def insert (upgrades : Upgrades) (upgrade : Upgrade) : Upgrades :=
  if h : upgrade.kind ∈ upgrades.kinds then upgrades.replace upgrade
  else
    ⟨upgrades.entries ++ [upgrade], by
      simp only [List.map_append, List.map_cons, List.map_nil]
      refine List.nodup_append.2 ⟨upgrades.nodup, by simp, ?_⟩
      intro kind hk kind' hk' he
      have hk' : kind' = upgrade.kind := List.mem_singleton.1 hk'
      exact h (hk' ▸ he ▸ hk)⟩

/-- The secure channel among the upgrades. -/
def secureChannel? (upgrades : Upgrades) : Option SecureChannel :=
  (upgrades.get? .secureChannel).map fun | .secureChannel channel => channel

/-- The registry of the secure channel; empty without one. -/
def registry (upgrades : Upgrades) : Registry :=
  match upgrades.secureChannel? with
  | none => .empty
  | some channel => channel.registry

/-- The envelope that offers the upgrades (`envelope`). -/
def envelope (suite : Suite) (upgrades : Upgrades) : Envelope where
  offered := upgrades.kinds.map UpgradeDescriptor.ofKind
  material := upgrades.secureChannel?.map fun channel =>
    ChannelMaterial.ofPublicKey (channel.identity suite)

/-- The kinds of the upgrades that are also offered by the other side, in the order of the upgrades
(`intersect`). -/
def intersect (upgrades : Upgrades) (offered : List UpgradeDescriptor) : List UpgradeKind :=
  upgrades.kinds.filter fun kind => offered.any fun descriptor => descriptor.kind? == some kind

/-- A description of the upgrades. -/
def describe (suite : Suite) (upgrades : Upgrades) : String :=
  let entry : Upgrade → String
    | .secureChannel channel =>
      "SecureChannel: SecureChannel(" ++ channel.describe suite ++ ")"
  "Upgrades(\x7b" ++ String.intercalate ", " (upgrades.entries.map entry) ++ "\x7d)"

end Upgrades

end PeerLink
