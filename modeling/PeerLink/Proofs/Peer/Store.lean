import Mathlib.Data.List.Nodup
import PeerLink.Peer.Store
import PeerLink.Proofs.Address.Peer

/-!
# The addresses of a store

A store knows its peers by the texts of their addresses. Since an address is read back from its text
and from no other one, the list of its addresses has each of them once, and no others.
-/

namespace PeerLink

/-- Different addresses have different texts. -/
theorem PeerAddress.text_injective : Function.Injective PeerAddress.text := by
  intro address address' same
  have read : PeerAddress.parse address.text = .ok address := parse_eq_ok_iff.2 rfl
  rw [same, parse_eq_ok_iff.2 rfl] at read
  exact (Except.ok.inj read).symm

namespace Peerstore

variable {κ : Type} (store : Peerstore κ)

/-- The addresses of a store are read from the texts of its entries. -/
theorem addresses_eq : store.addresses =
    (store.entries.map (·.1)).filterMap fun text => (PeerAddress.parse text).toOption := by
  rw [List.filterMap_map]
  rfl

/-- An address is read from its text and from no other one. -/
theorem toOption_parse_eq_some_iff {text : String} {address : PeerAddress} :
    (PeerAddress.parse text).toOption = some address ↔ address.text = text := by
  rw [PeerAddress.toOption_parse_eq_some_iff, PeerAddress.parse_eq_ok_iff]

/-- A store whose texts are the ones of some addresses lists these addresses. -/
theorem addresses_of_texts {addresses : List PeerAddress}
    (texts : store.entries.map (·.1) = addresses.map PeerAddress.text) :
    store.addresses = addresses := by
  rw [addresses_eq, texts, List.filterMap_map]
  have read (address : PeerAddress) :
      (PeerAddress.parse address.text).toOption = some address :=
    toOption_parse_eq_some_iff.2 rfl
  simp [read]

/-- No address is in the list twice. -/
theorem nodup_addresses : store.addresses.Nodup := by
  rw [addresses_eq]
  refine List.Nodup.filterMap ?_ store.nodup
  intro text text' address read read'
  rw [← toOption_parse_eq_some_iff.1 read, ← toOption_parse_eq_some_iff.1 read']

/-- An address is registered if its text has an entry. -/
theorem contains_iff {address : PeerAddress} :
    store.contains address = true ↔ address.text ∈ store.entries.map (·.1) := by
  rw [contains, get?]
  induction store.entries with
  | nil => simp
  | cons entry entries ih =>
    obtain ⟨text, connection⟩ := entry
    rw [List.lookup_cons, List.map_cons, List.mem_cons, ← ih]
    cases same : address.text == text with
    | true => simp [eq_of_beq same]
    | false => simp [ne_of_beq_false same]

/-- The addresses in the list are the ones that are registered. -/
theorem mem_addresses_iff {address : PeerAddress} :
    address ∈ store.addresses ↔ store.contains address = true := by
  rw [contains_iff, addresses_eq, List.mem_filterMap]
  constructor
  · rintro ⟨text, mem, read⟩
    rw [toOption_parse_eq_some_iff.1 read]
    exact mem
  · exact fun mem => ⟨_, mem, toOption_parse_eq_some_iff.2 rfl⟩

/-- Registering an address adds it to the ones that are registered. -/
theorem contains_register {address other : PeerAddress} {connection : κ} :
    (store.register address connection).contains other = true ↔
      other = address ∨ store.contains other = true := by
  have texts : other.text = address.text ↔ other = address := PeerAddress.text_injective.eq_iff
  rw [contains_iff, contains_iff, register, ← texts]
  simp only [erase, List.map_append, List.map_cons, List.map_nil, List.mem_append,
    List.mem_singleton, List.mem_map, List.mem_filter, decide_eq_true_eq]
  constructor
  · rintro (⟨entry, ⟨mem, -⟩, same⟩ | same)
    · exact .inr ⟨entry, mem, same⟩
    · exact .inl same
  · rintro (same | ⟨entry, mem, text⟩)
    · exact .inr same
    · by_cases same : entry.1 = address.text
      · exact .inr (text.symm.trans same)
      · exact .inl ⟨entry, ⟨mem, same⟩, text⟩

/-- An address that is registered anew need not be taken out first. -/
theorem register_erase (address : PeerAddress) (connection : κ) :
    (store.erase address.text).register address connection =
      store.register address connection := by
  simp only [register, erase, List.filter_filter, Bool.and_self]

/-! ## The connections of a store -/

/-- The connection of an address is the one in its entry. -/
theorem get?_eq_some_iff {address : PeerAddress} {connection : κ} :
    store.get? address = some connection ↔ (address.text, connection) ∈ store.entries := by
  rw [get?, List.lookup_eq_some_iff]
  constructor
  · rintro ⟨front, behind, parts, -⟩
    rw [parts]
    simp
  · intro mem
    obtain ⟨front, behind, parts⟩ := List.append_of_mem mem
    refine ⟨front, behind, parts, fun entry here => bne_iff_ne.2 ?_⟩
    -- The text has one entry only.
    have once := store.nodup
    rw [parts, List.map_append, List.map_cons, List.nodup_append] at once
    exact fun same => once.2.2 _ (List.mem_map_of_mem here) _ List.mem_cons_self same.symm

/-- Nothing is erased if the address has no entry. -/
theorem erase_of_absent {address : PeerAddress} (absent : store.contains address = false) :
    store.erase address.text = store := by
  have others : ∀ entry ∈ store.entries, decide (entry.1 ≠ address.text) = true := by
    intro entry mem
    refine decide_eq_true fun same => ?_
    have here : store.contains address = true :=
      store.contains_iff.2 (List.mem_map.2 ⟨entry, mem, same⟩)
    rw [absent] at here
    cases here
  obtain ⟨entries, nodup⟩ := store
  simp only [erase, mk.injEq]
  exact List.filter_eq_self.2 others

/-- A connection to a new address is an entry behind the previous ones. -/
theorem entries_register_of_absent {address : PeerAddress} {connection : κ}
    (absent : store.contains address = false) :
    (store.register address connection).entries =
      store.entries ++ [(address.text, connection)] := by
  have same := congrArg entries (store.erase_of_absent absent)
  exact congrArg (· ++ [(address.text, connection)]) same

/-- The connection of an address when one entry is erased. -/
theorem get?_erase {address other : PeerAddress} : (store.erase address.text).get? other =
    if other = address then none else store.get? other := by
  have texts : other.text = address.text ↔ other = address := PeerAddress.text_injective.eq_iff
  refine Option.ext fun connection => ?_
  rw [get?_eq_some_iff, erase, List.mem_filter, decide_eq_true_iff]
  dsimp only
  rw [Ne, texts, ← get?_eq_some_iff]
  split_ifs with same <;> simp [same]

/-- The connection of an address when one is registered. -/
theorem get?_register {address other : PeerAddress} {connection : κ} :
    (store.register address connection).get? other =
      if other = address then some connection else store.get? other := by
  have texts : other.text = address.text ↔ other = address := PeerAddress.text_injective.eq_iff
  refine Option.ext fun found => ?_
  rw [get?_eq_some_iff, register, List.mem_append, ← get?_eq_some_iff, get?_erase,
    List.mem_singleton, Prod.mk.injEq, texts]
  split_ifs with same <;> simp [same, eq_comm]

/-- An address has a connection when it is registered, and only then. -/
theorem get?_eq_none_iff {address : PeerAddress} :
    store.get? address = none ↔ store.contains address = false := by
  rw [contains, Option.isSome_eq_false_iff, Option.isNone_iff_eq_none]

end Peerstore

end PeerLink
