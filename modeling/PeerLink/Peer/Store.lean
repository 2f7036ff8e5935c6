import PeerLink.Address.Peer

/-!
# The peer store

The connections that a node has opened to other peers, by address. A connection has a single owner:
it is taken out of the store to be used, and registered again afterwards. The key of an entry is
the text of the address.
-/

namespace PeerLink

/-- Connections `κ` by the texts of their addresses. -/
structure Peerstore (κ : Type) where
  /-- The entries, the first registered first. -/
  entries : List (String × κ)
  /-- No text has two entries. -/
  nodup : (entries.map (·.1)).Nodup

/-- Why the store does not give a connection. -/
inductive PeerstoreError where
  /-- The peer has no entry. -/
  | notFound (text : String)
  deriving DecidableEq, Repr

/-- The text of an error. -/
def PeerstoreError.message : PeerstoreError → String
  | notFound text => "No connection to the peer " ++ text

namespace Peerstore

variable {κ : Type}

/-- The store without connections. -/
def empty : Peerstore κ := ⟨[], by simp⟩

/-- The number of connections. -/
def size (store : Peerstore κ) : Nat :=
  store.entries.length

/-- The store without the entry of a text. -/
def erase (store : Peerstore κ) (text : String) : Peerstore κ where
  entries := store.entries.filter (·.1 ≠ text)
  nodup := store.nodup.sublist (List.filter_sublist.map _)

/-- Registers a connection (`register`); it replaces the one that was registered for the same
address. -/
def register (store : Peerstore κ) (address : PeerAddress) (connection : κ) : Peerstore κ where
  entries := (store.erase address.text).entries ++ [(address.text, connection)]
  nodup := by
    simp only [List.map_append, List.map_cons, List.map_nil]
    refine List.nodup_append.2 ⟨(store.erase address.text).nodup, by simp, ?_⟩
    intro text ht text' ht' he
    obtain ⟨entry, hentry, rfl⟩ := List.mem_map.1 ht
    have hne := (List.mem_filter.1 hentry).2
    simp_all

/-- The connection that is registered for an address. -/
def get? (store : Peerstore κ) (address : PeerAddress) : Option κ :=
  store.entries.lookup address.text

/-- Whether a connection is registered for an address. -/
def contains (store : Peerstore κ) (address : PeerAddress) : Bool :=
  (store.get? address).isSome

/-- Takes the connection to a peer out of the store (`take`). -/
def take (store : Peerstore κ) (address : PeerAddress) :
    Except PeerstoreError (κ × Peerstore κ) :=
  match store.get? address with
  | none => .error (.notFound address.text)
  | some connection => .ok (connection, store.erase address.text)

/-- The addresses of the peers (`addresses`). A map gives them in no certain order, where the first
registered comes first here. -/
def addresses (store : Peerstore κ) : List PeerAddress :=
  store.entries.filterMap fun entry => (PeerAddress.parse entry.1).toOption

end Peerstore

end PeerLink
