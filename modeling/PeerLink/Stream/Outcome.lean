/-!
# Outcomes

What an operation on a stream comes to: a value, a failure, or a wait for something that the other
end has to do first. An operation that waits has left its state such that it can be run again.
-/

namespace PeerLink

/-- The outcome of an operation. -/
inductive Outcome (ε α : Type) where
  /-- The operation is done. -/
  | done (value : α)
  /-- The operation failed. -/
  | failed (error : ε)
  /-- The operation waits. -/
  | waiting
  deriving DecidableEq, Repr

namespace Outcome

/-- The outcome with another value. -/
def map {ε α β : Type} (f : α → β) : Outcome ε α → Outcome ε β
  | done value => done (f value)
  | failed error => failed error
  | waiting => waiting

/-- The outcome with another error. -/
def mapError {ε δ α : Type} (f : ε → δ) : Outcome ε α → Outcome δ α
  | done value => done value
  | failed error => failed (f error)
  | waiting => waiting

/-- The outcome of what cannot wait. -/
def ofExcept {ε α : Type} : Except ε α → Outcome ε α
  | .ok value => done value
  | .error error => failed error

end Outcome

end PeerLink
