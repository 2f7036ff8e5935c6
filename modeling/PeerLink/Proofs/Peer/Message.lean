import Mathlib.Algebra.GroupWithZero.Nat
import PeerLink.Peer.Message
import PeerLink.Proofs.Address.Peer
import PeerLink.Proofs.Json.Tagged

/-!
# Messages survive the stream

Every message is read back from its octets, whatever addresses it has and whatever their key
segments hold. The number of the octets is the one of the addresses and the marks between them, so
that it grows with the addresses and has no bound.
-/

namespace PeerLink

open Json

namespace Message

/-- The members of a message behind its tag. -/
def members (addresses : List PeerAddress) : List (String × Json) :=
  [("peerAddresses", .array (addresses.map PeerAddress.toJson))]

/-- Addresses are read back from their tree. -/
theorem ofTree_addresses (addresses : List PeerAddress) :
    (Decoder.list PeerAddress.decoder).ofTree (.array (addresses.map PeerAddress.toJson)) =
      some addresses := by
  refine mapM_map_eq_some fun address _ => ?_
  show (PeerAddress.parse address.text).toOption = some address
  rw [PeerAddress.parse_eq_ok_iff.2 rfl]
  rfl

/-- The members of a message are not nested deeply. -/
theorem shallow_members (addresses : List PeerAddress) :
    ∀ member ∈ members addresses, Shallow 126 member.2 := by
  intro member mem
  obtain rfl := List.mem_singleton.1 mem
  refine .array fun element mem => ?_
  obtain ⟨address, -, rfl⟩ := List.mem_map.1 mem
  exact .string

/-- A message is read back from its octets. -/
theorem decode_encode (message : Message) : decoder.decode message.toJson.encode = .ok message := by
  obtain ⟨addresses⟩ := message
  have read := ofTree_addresses addresses
  refine Decoder.decode_tagged _ ?_ (shallow_members addresses) ?_
  · intro member mem
    obtain rfl := List.mem_singleton.1 mem
    show "peerAddresses" ≠ "type"
    decide
  · simp [Decoder.filterMap, Decoder.record, Decoder.fieldsOfMembers,
      Decoder.Field.defaulted, Decoder.Field.required, read, Decoder.fillAbsent]

/-- There is no message in a text without octets. -/
theorem decode_nil (message : Message) : decoder.decode [] ≠ .ok message := by
  have empty : decoder.decode [] = .error .truncated := rfl
  rw [empty]
  simp

/-! ## The size of a message -/

/-- The number of octets of elements behind another one, with the end of the array. -/
theorem length_elementsOctets_later (elements : List Json) :
    (elementsOctets false elements).length =
      1 + (elements.map fun element => element.encode.length + 1).sum := by
  induction elements with
  | nil => rfl
  | cons element rest ih =>
    rw [elementsOctets, List.length_append, List.length_append, ih, List.map_cons, List.sum_cons]
    simp only [Bool.false_eq_true, if_false, List.length_singleton]
    omega

/-- The number of octets of an array: the ones of its elements, a mark between any two of them, and
the two around them. -/
theorem length_encode_array (elements : List Json) : (array elements).encode.length =
    2 + (elements.map fun element => element.encode.length).sum + (elements.length - 1) := by
  rw [encode_array, List.length_cons]
  cases elements with
  | nil => rfl
  | cons element rest =>
    have commas : (rest.map fun element => element.encode.length + 1).sum =
        (rest.map fun element => element.encode.length).sum + rest.length := by
      induction rest with
      | nil => rfl
      | cons element rest ih =>
        simp only [List.map_cons, List.sum_cons, List.length_cons, ih]
        omega
    rw [elementsOctets, List.length_append, List.length_append, length_elementsOctets_later, commas,
      List.map_cons, List.sum_cons, List.length_cons]
    simp only [if_true, List.length_nil]
    omega

/-- The number of octets of a message. -/
theorem length_encode (addresses : List PeerAddress) :
    (bootstrap addresses).toJson.encode.length =
      39 + (addresses.map fun address => address.toJson.encode.length).sum +
        (addresses.length - 1) := by
  have array := length_encode_array (addresses.map PeerAddress.toJson)
  rw [List.map_map, List.length_map, Function.comp_def] at array
  have tag : (Json.string "BOOTSTRAP").encode.length = 11 := by decide
  have first : (tailOctets "type").length = 5 := by decide
  have second : (tailOctets "peerAddresses").length = 14 := by decide
  rw [toJson, encode_object]
  simp only [membersOctets, memberOctets, List.length_cons, List.length_append, array, tag, first,
    second, if_true, Bool.false_eq_true, if_false, List.length_nil]
  generalize (addresses.map fun address => address.toJson.encode.length).sum = elements
  omega

end Message

end PeerLink
