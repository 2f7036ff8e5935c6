import Mathlib.Data.List.Basic
import PeerLink.Transport.Tcp

/-!
# Who dials an address

A transport hands an address down its chain to the first carrier of its transport. A chain that is
put at the end of another one is tried behind it (`Transport.carriers_append`), so that the order of
a transport that is completed step by step is the one of the steps (`TcpTransport.carriers_built`).

To say who dials, `Transport.noted` makes every carrier note in a journal that it dials and for
which address. `first_of_its_transport_dials` reads the journal: the first carrier of the transport
of the address dials it once and nobody else does, or there is no such carrier and nobody dials.
-/

namespace PeerLink

variable {m : Type → Type} {κ : Type}

/-- Who has dialed, by the place in the chain, and which address, the first dial first. -/
abbrev Journal := List (Nat × PeerAddress)

/-- The carrier at a place of a chain, which notes every address that it dials. -/
def Carrier.noted [Monad m] (place : Nat) (carrier : Carrier m κ) :
    Carrier (StateT Journal m) κ where
  tag := carrier.tag
  dial address journal := (·, journal ++ [(place, address)]) <$> carrier.dial address

namespace Transport

/-- The chain of carriers that note what they dial, the first of them at the place `first`. -/
def noted [Monad m] (first : Nat) : Transport m κ → Transport (StateT Journal m) κ
  | alone carrier => alone (carrier.noted first)
  | backed carrier fallback => backed (carrier.noted first) (fallback.noted (first + 1))

/-- A carrier at a place of a list is the first one for an address. -/
structure FirstFor (address : PeerAddress) (carriers : List (Carrier m κ)) (place : Nat)
    (carrier : Carrier m κ) : Prop where
  /-- It is at this place. -/
  here : carriers[place]? = some carrier
  /-- It is for the transport of the address. -/
  suits : carrier.tag = address.transport
  /-- The carriers in front of it are for other transports. -/
  others : ∀ other ∈ carriers.take place, other.tag ≠ address.transport

/-- A chain dials an address as the first one of a list of carriers that is for its transport. The
places are counted from `start`. -/
inductive Dispatches [Monad m] (start : Nat) (address : PeerAddress)
    (carriers : List (Carrier m κ)) (transport : Transport m κ) : Prop
  /-- There is one: it dials this address, and notes it behind whatever was noted before. -/
  | own {place : Nat} {carrier : Carrier m κ} (first : FirstFor address carriers place carrier)
      (dialed : transport.dial address = carrier.dial address)
      (journal : ∀ journal : Journal, (transport.noted start).dial address journal =
        (·, journal ++ [(start + place, address)]) <$> carrier.dial address)
  /-- There is none: the transport of the address is not supported, and nobody dials. -/
  | nobody (others : ∀ carrier ∈ carriers, carrier.tag ≠ address.transport)
      (refused : transport.dial address =
        pure (.error (.unsupportedTransport address.transport)))
      (journal : ∀ journal : Journal, (transport.noted start).dial address journal =
        pure (.error (.unsupportedTransport address.transport), journal))

/-- The carrier in front is the first one if it is for the transport of the address. -/
theorem FirstFor.head {address : PeerAddress} {carrier : Carrier m κ}
    (suits : carrier.tag = address.transport) (carriers : List (Carrier m κ)) :
    FirstFor address (carrier :: carriers) 0 carrier :=
  ⟨rfl, suits, by simp⟩

/-- The first carrier behind one for another transport is the first one. -/
theorem FirstFor.behind {address : PeerAddress} {carriers : List (Carrier m κ)} {place : Nat}
    {carrier other : Carrier m κ} (first : FirstFor address carriers place carrier)
    (differs : other.tag ≠ address.transport) :
    FirstFor address (other :: carriers) (place + 1) carrier := by
  refine ⟨first.here, first.suits, ?_⟩
  rw [List.take_succ_cons]
  exact List.forall_mem_cons.2 ⟨differs, first.others⟩

/-- A chain dials as the first of its carriers for the transport of the address. -/
theorem dispatches [Monad m] (start : Nat) (address : PeerAddress) (transport : Transport m κ) :
    Dispatches start address transport.carriers transport := by
  induction transport generalizing start with
  | alone carrier =>
    by_cases suits : address.transport = carrier.tag
    · exact .own (.head suits.symm []) (if_pos suits) fun journal => congrFun (if_pos suits) journal
    · exact .nobody (List.forall_mem_singleton.2 (Ne.symm suits)) (if_neg suits) fun journal =>
        congrFun (if_neg suits) journal
  | backed carrier fallback ih =>
    by_cases suits : address.transport = carrier.tag
    · exact .own (.head suits.symm fallback.carriers) (if_pos suits) fun journal =>
        congrFun (if_pos suits) journal
    · -- The address is handed down, and nothing is noted.
      have handed : (backed carrier fallback).dial address = fallback.dial address := if_neg suits
      have handed_noted (journal : Journal) :
          ((backed carrier fallback).noted start).dial address journal =
            (fallback.noted (start + 1)).dial address journal :=
        congrFun (if_neg suits) journal
      rcases ih (start + 1) with ⟨first, dialed, noted⟩ | ⟨others, refused, noted⟩
      · refine .own (first.behind (Ne.symm suits)) (handed.trans dialed) fun journal => ?_
        rw [handed_noted, noted, Nat.add_assoc, Nat.add_comm 1]
      · exact .nobody (List.forall_mem_cons.2 ⟨Ne.symm suits, others⟩) (handed.trans refused)
          fun journal => (handed_noted journal).trans (noted journal)

end Transport

namespace TcpTransport

/-- A step by which a transport is completed. -/
inductive Setting (m : Type → Type) (κ : Type) where
  /-- One more upgrade. -/
  | upgrade (upgrade : Upgrade)
  /-- Another chain at the end of the fallbacks. -/
  | fallback (last : Transport m κ)
  /-- Other times to wait. -/
  | timeouts (timeouts : Timeouts)

/-- The carriers that a step puts at the end of the chain. -/
def Setting.carriers : Setting m κ → List (Carrier m κ)
  | upgrade _ => []
  | fallback last => last.carriers
  | timeouts _ => []

/-- The transport after a step. -/
def complete (transport : TcpTransport m κ) : Setting m κ → TcpTransport m κ
  | .upgrade upgrade => transport.withUpgrade upgrade
  | .fallback last => transport.withFallback last
  | .timeouts timeouts => transport.withTimeouts timeouts

/-- The transport after some steps. -/
def built (settings : List (Setting m κ)) : TcpTransport m κ :=
  settings.foldl complete .new

variable (own : PeerAddress → m (Except TransportError κ)) (transport : TcpTransport m κ)

/-- A transport that gets a fallback is a chain with another one at its end. -/
theorem chain_withFallback (last : Transport m κ) :
    (transport.withFallback last).chain own = .append last (transport.chain own) := by
  unfold withFallback chain
  cases transport.fallback <;> rfl

/-- A step puts its carriers at the end of the chain. -/
theorem carriers_complete (setting : Setting m κ) :
    ((transport.complete setting).chain own).carriers =
      (transport.chain own).carriers ++ setting.carriers := by
  cases setting with
  | upgrade upgrade => exact (List.append_nil _).symm
  | fallback last => rw [complete, chain_withFallback, Transport.carriers_append, Setting.carriers]
  | timeouts timeouts => exact (List.append_nil _).symm

/-- Steps put their carriers at the end of the chain, in their order. -/
theorem carriers_foldl (settings : List (Setting m κ)) :
    ((settings.foldl complete transport).chain own).carriers =
      (transport.chain own).carriers ++ settings.flatMap Setting.carriers := by
  induction settings generalizing transport with
  | nil => exact (List.append_nil _).symm
  | cons setting settings ih =>
    rw [List.foldl_cons, ih, carriers_complete, List.append_assoc, List.flatMap_cons]

/-- The carriers of a transport that was completed step by step. -/
theorem carriers_built (settings : List (Setting m κ)) :
    ((built settings).chain own).carriers = ⟨.tcp, own⟩ :: settings.flatMap Setting.carriers :=
  carriers_foldl own .new settings

/-- A transport that was completed step by step tries its own carrier and then the ones of its
fallbacks, chain by chain in the order of the steps. An address is dialed by the first of them that
is for its transport, as it is, and by no other one; if there is none, nobody dials, and the
transport of the address is not supported. A transport that is itself a fallback is such a chain
too, and what falls back on it is put at the end of it. -/
theorem first_of_its_transport_dials [Monad m] (settings : List (Setting m κ)) :
    ((built settings).chain own).carriers = ⟨.tcp, own⟩ :: settings.flatMap Setting.carriers ∧
      (∀ address, Transport.Dispatches 0 address
        (⟨.tcp, own⟩ :: settings.flatMap Setting.carriers) ((built settings).chain own)) ∧
      ∀ last : Transport m κ, ((built settings).withFallback last).chain own =
        .append last ((built settings).chain own) := by
  have order := carriers_built own settings
  refine ⟨order, fun address => ?_, fun last => chain_withFallback own _ last⟩
  rw [← order]
  exact Transport.dispatches 0 address _

/-- Of two fallbacks for one transport the one that was given first dials. -/
example : (chain (fun _ => none) (built [.fallback (.alone ⟨⟨"udp", rfl⟩, fun _ => some (.ok 1)⟩),
      .fallback (.alone ⟨⟨"udp", rfl⟩, fun _ => some (.ok 2)⟩)])).dial
    ⟨.v4 ⟨127, 0, 0, 1⟩, ⟨"udp", rfl⟩, 9001, none⟩ = some (.ok 1) := by
  decide

end TcpTransport

end PeerLink
