import PeerLink.Peer.Exchange
import PeerLink.Peer.FanOut
import PeerLink.Transport.Tcp

/-!
# Bootstrapping

A node asks one peer, the bootstrap peer, for the addresses of others, and dials the ones it has no
connection to, a few at a time and until a deadline. A connection to the bootstrap peer that is in
the store is used again; if the peer does not answer, the store is left without it. What a failed
dial is told to the log is left out.
-/

namespace PeerLink

/-- How the dials of a node go: how long the `n`-th one takes if it is to an address, and what it
comes to. -/
abbrev Dialing (κ : Type) := Nat → PeerAddress → Dial PeerAddress (Except TransportError κ)

/-- Why a node does not get the peers of its bootstrap peer. -/
inductive BootstrapError where
  /-- The bootstrap peer cannot be reached. -/
  | connect (bootstrap : PeerAddress) (cause : TransportError)
  /-- The bootstrap peer does not answer. -/
  | request (bootstrap : PeerAddress) (cause : RequestError)
  deriving DecidableEq, Repr

/-- The text of an error, with the ones of its causes. -/
def BootstrapError.message : BootstrapError → String
  | connect bootstrap cause =>
    "Cannot connect to the bootstrap peer " ++ bootstrap.text ++ ": " ++ cause.message
  | request bootstrap cause => "Cannot bootstrap from " ++ bootstrap.text ++ ": " ++ cause.message

/-- How many dials may run at once, and for how long all of them together. -/
structure DialLimits where
  /-- The most dials at once; zero is taken for one. -/
  concurrency : Nat
  /-- The time for all dials, in milliseconds. -/
  deadline : Nat
  deriving DecidableEq, Repr

/-- What a bootstrap comes to. -/
structure Bootstrapping where
  /-- The number of connections that were registered, the one to the bootstrap peer aside. -/
  result : Outcome BootstrapError Nat
  /-- The store afterwards. -/
  store : Peerstore Session
  /-- Who was dialed, in the order in which the dials started. -/
  dialed : List PeerAddress
  /-- The most dials that ran at once. -/
  mostAtOnce : Nat

namespace Peerstore

/-- Registers the connections that dials came to. -/
def registerAll {κ : Type} (store : Peerstore κ)
    (outcomes : List (PeerAddress × Except TransportError κ)) : Peerstore κ × Nat :=
  outcomes.foldl
    (fun (store, count) (address, outcome) =>
      match outcome with
      | .ok connection => (store.register address connection, count + 1)
      | .error _ => (store, count))
    (store, 0)

/-- The addresses of an answer to dial: all but the one of the bootstrap peer and the known ones. -/
def unknown {κ : Type} (store : Peerstore κ) (bootstrap : PeerAddress)
    (addresses : List PeerAddress) : List PeerAddress :=
  addresses.filter fun address => address ≠ bootstrap && !store.contains address

/-- The addresses of a list are dialed (`dial_all`), the first of them by the `first`-th dial of the
node. -/
def dialAll (store : Peerstore Session) (dialing : Dialing Session) (first : Nat)
    (addresses : List PeerAddress) (limits : DialLimits) :
    Peerstore Session × Nat × FanOut PeerAddress (Except TransportError Session) :=
  let dials := addresses.mapIdx fun i address => dialing (first + i) address
  let ended := (FanOut.new dials).run (max limits.concurrency 1) limits.deadline
  let (store, count) := store.registerAll ended.outcomes
  (store, count, ended)

/-- Asks the bootstrap peer over a connection for its peers, and dials them. -/
def bootstrapOver (suite : Suite) (store : Peerstore Session) (dialing : Dialing Session)
    (bootstrap : PeerAddress) (limits : DialLimits) (dialed : List PeerAddress)
    (session : Session) : Bootstrapping :=
  match requestPeers suite session.connection session.stream with
  | (.waiting, _, _) => ⟨.waiting, store, dialed, dialed.length⟩
  | (.failed cause, _, _) => ⟨.failed (.request bootstrap cause), store, dialed, dialed.length⟩
  | (.done addresses, connection, stream) =>
    let store := store.register bootstrap ⟨connection, stream⟩
    let (store, count, dials) :=
      store.dialAll dialing dialed.length (store.unknown bootstrap addresses) limits
    ⟨.done count, store, dialed ++ dials.started.reverse, max dialed.length dials.mostAtOnce⟩

/-- Bootstraps a node from a peer (`bootstrap`). -/
def bootstrap (suite : Suite) (store : Peerstore Session) (dialing : Dialing Session)
    (bootstrap : PeerAddress) (limits : DialLimits) : Bootstrapping :=
  match store.take bootstrap with
  | .ok (session, store) => store.bootstrapOver suite dialing bootstrap limits [] session
  | .error _ =>
    let dial := dialing 0 bootstrap
    match dial.duration, dial.outcome with
    | none, _ => ⟨.waiting, store, [bootstrap], 1⟩
    | some _, .error cause => ⟨.failed (.connect bootstrap cause), store, [bootstrap], 1⟩
    | some _, .ok session => store.bootstrapOver suite dialing bootstrap limits [bootstrap] session

end Peerstore

end PeerLink
