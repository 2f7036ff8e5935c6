import PeerLink.Envelope

/-!
# Resolutions

What a negotiation comes to: the upgrades that both sides have, or a bare stream if there is none.
-/

namespace PeerLink

/-- The outcome of a negotiation. -/
inductive Resolution where
  /-- The stream is used as it is. -/
  | bare
  /-- The upgrades of both sides, in the order of this one. -/
  | resolved (kinds : List UpgradeKind)
  deriving DecidableEq, Repr

namespace Resolution

/-- The resolution of the upgrades of both sides. -/
def ofKinds : List UpgradeKind → Resolution
  | [] => bare
  | kind :: rest => resolved (kind :: rest)

/-- The upgrades of both sides. -/
def kinds : Resolution → List UpgradeKind
  | bare => []
  | resolved kinds => kinds

/-- Whether an upgrade is among the ones of both sides. -/
def contains (resolution : Resolution) (kind : UpgradeKind) : Bool :=
  resolution.kinds.contains kind

/-- Whether the stream is used as it is. -/
def isBare : Resolution → Bool
  | bare => true
  | resolved _ => false

/-- The text of a resolution. -/
def text : Resolution → String
  | bare => "bare"
  | resolved kinds => "\x7b" ++ String.intercalate ", " (kinds.map UpgradeKind.tag) ++ "\x7d"

/-- A description of a resolution. -/
def describe : Resolution → String
  | bare => "Bare"
  | resolved kinds =>
    "Resolved([" ++ String.intercalate ", " (kinds.map UpgradeKind.describe) ++ "])"

/-- The upgrades of a resolution are the ones it was made of. -/
@[simp]
theorem kinds_ofKinds (kinds : List UpgradeKind) : (ofKinds kinds).kinds = kinds := by
  cases kinds <;> rfl

end Resolution

end PeerLink
