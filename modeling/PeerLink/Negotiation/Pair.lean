import PeerLink.Link
import PeerLink.Negotiation.Dialer
import PeerLink.Negotiation.Listener

/-!
# Two sides of a negotiation

A dialer and a listener at the two ends of a link. They run in turns, the dialer first, until both
are done or neither can go on; then a side that still waits is abandoned, and lets go of its end.
-/

namespace PeerLink.Negotiation

/-- A side of a negotiation. -/
inductive Side (σ : Type) where
  /-- There is nobody. -/
  | absent
  /-- The side is at work. -/
  | active (state : σ)
  /-- The negotiation of the side is over. -/
  | finished (result : Except NegotiationError Connection)
  /-- The side was abandoned while it waited. -/
  | abandoned

namespace Side

/-- The connection that a side has negotiated. -/
def connection? {σ : Type} : Side σ → Option Connection
  | finished (.ok connection) => some connection
  | _ => none

end Side

/-- A dialer and a listener, with their registries, at the ends of a link. -/
structure Pair where
  /-- The side that dials. -/
  dialer : Side Dialer
  /-- The registry of the dialer. -/
  dialerRegistry : Registry
  /-- The side that listens. -/
  listener : Side Listener
  /-- The registry of the listener. -/
  listenerRegistry : Registry
  /-- The link between the sides. -/
  link : Link

namespace Pair

/-- Runs the dialer as far as it goes. -/
def runDialer (suite : Suite) (pair : Pair) : Pair :=
  match pair.dialer with
  | .active dialer =>
    let (move, dialerRegistry, stream) := dialer.run suite pair.dialerRegistry pair.link.dialing
    let link := Link.ofDialing stream
    match move with
    | .next dialer => { pair with dialer := .active dialer, dialerRegistry, link }
    | .wait dialer => { pair with dialer := .active dialer, dialerRegistry, link }
    | .finished result => { pair with dialer := .finished result, dialerRegistry, link }
  | _ => pair

/-- Runs the listener as far as it goes. -/
def runListener (suite : Suite) (pair : Pair) : Pair :=
  match pair.listener with
  | .active listener =>
    let (move, listenerRegistry, stream) :=
      listener.run suite pair.listenerRegistry pair.link.listening
    let link := Link.ofListening stream
    match move with
    | .next listener => { pair with listener := .active listener, listenerRegistry, link }
    | .wait listener => { pair with listener := .active listener, listenerRegistry, link }
    | .finished result => { pair with listener := .finished result, listenerRegistry, link }
  | _ => pair

/-- Lets go of the ends of the sides that still wait. -/
def abandon (pair : Pair) : Pair :=
  let pair :=
    match pair.dialer with
    | .active _ =>
      { pair with dialer := .abandoned, link := .ofDialing pair.link.dialing.release }
    | _ => pair
  match pair.listener with
  | .active _ =>
    { pair with listener := .abandoned, link := .ofListening pair.link.listening.release }
  | _ => pair

/-- The sides take turns. -/
def takeTurns (suite : Suite) : (turns : Nat) → Pair → Pair
  | 0, pair => pair
  | turns + 1, pair => takeTurns suite turns ((pair.runDialer suite).runListener suite)

/-- A turn in which no side comes to a later phase changes nothing, and there are no more phases
than this. -/
def maxTurns : Nat := 10

/-- Runs the negotiation. -/
def run (suite : Suite) (pair : Pair) : Pair :=
  (pair.takeTurns suite maxTurns).abandon

end Pair

end PeerLink.Negotiation
