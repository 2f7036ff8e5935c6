import PeerLink.Proofs.Address.Peer

/-!
# The grammar of peer addresses

A text is read as a peer address exactly if it follows the grammar of addresses, and is blamed for
its first fault otherwise.

`Segmented` says what the segments of a text are, and the predicates behind it what a segment of
each place is. `FirstFault` names the fault of any other text: the one of the whole text if it has
no segments, and else the one of its first faulty segment, whatever the later ones are.
-/

namespace PeerLink

namespace PeerAddress

/-! ## The grammar -/

/-- A text is a slash and these segments with slashes between them: four or five of them, each with
characters and without a slash. -/
structure Segmented (text : String) (segments : List String) : Prop where
  /-- There are four or five. -/
  count : segments.length = 4 ∨ segments.length = 5
  /-- Each has characters, and no slash among them. -/
  segment : ∀ segment ∈ segments, segment ≠ "" ∧ '/' ∉ segment.toList
  /-- The text has nothing else. -/
  joined : text = "/" ++ "/".intercalate segments

/-- The segment of a family. -/
def IsFamily (segment : String) : Prop :=
  segment = "ip4" ∨ segment = "ip6"

/-- The segment of a host of a family: the canonical text of one of its addresses. -/
def IsHost (family segment : String) : Prop :=
  ∃ host : IpAddress, host.family.name = family ∧ segment = String.ofList host.chars

/-- The segment of a transport: `quic`, or two or three small letters. -/
def IsTransport (segment : String) : Prop :=
  segment = "quic" ∨
    (segment.length = 2 ∨ segment.length = 3) ∧
      ∀ c ∈ segment.toList, c ∈ "abcdefghijklmnopqrstuvwxyz".toList

/-- The segment of a port: the decimal digits of a number up to 65535. -/
def IsPort (segment : String) : Prop :=
  ∃ n ≤ 65535, segment = toString n

/-- A text follows the grammar: each of its segments is one of its place. -/
def Grammatical (text : String) : Prop :=
  ∃ (family host transport port : String) (key : Option String),
    Segmented text ([family, host, transport, port] ++ key.toList) ∧
      IsFamily family ∧ IsHost family host ∧ IsTransport transport ∧ IsPort port

/-- What a text that does not follow the grammar is blamed for: its form, or its first segment that
is none of its place. -/
inductive FirstFault (text : String) : AddressError → Prop
  /-- The text has no segments. -/
  | form (formless : ∀ segments, ¬ Segmented text segments) :
      FirstFault text (.malformedAddress text)
  /-- The first segment is no family. -/
  | family {family host transport port : String} {key : Option String}
      (segmented : Segmented text ([family, host, transport, port] ++ key.toList))
      (fault : ¬ IsFamily family) : FirstFault text (.invalidFamily family)
  /-- The second segment is no host of the family. -/
  | host {host transport port : String} {key : Option String} {family : Family}
      (segmented : Segmented text ([family.name, host, transport, port] ++ key.toList))
      (fault : ¬ IsHost family.name host) : FirstFault text (.invalidHost family host)
  /-- The third segment is no transport. -/
  | transport {family host transport port : String} {key : Option String}
      (segmented : Segmented text ([family, host, transport, port] ++ key.toList))
      (knownFamily : IsFamily family) (knownHost : IsHost family host)
      (fault : ¬ IsTransport transport) : FirstFault text (.invalidTransport transport)
  /-- The fourth segment is no port. -/
  | port {family host transport port : String} {key : Option String}
      (segmented : Segmented text ([family, host, transport, port] ++ key.toList))
      (knownFamily : IsFamily family) (knownHost : IsHost family host)
      (knownTransport : IsTransport transport) (fault : ¬ IsPort port) :
      FirstFault text (.invalidPort port)

end PeerAddress

/-! ## The segments of each place -/

open PeerAddress

/-- A family is read from its segment only. -/
theorem Family.isFamily_iff {segment : String} :
    IsFamily segment ↔ ∃ family, ofName? segment = some family := by
  simp only [ofName?_eq_some_iff]
  constructor
  · rintro (rfl | rfl)
    · exact ⟨.ip4, rfl⟩
    · exact ⟨.ip6, rfl⟩
  · rintro ⟨family | family, rfl⟩
    · exact .inl rfl
    · exact .inr rfl

/-- A host is read from its segment only. -/
theorem IpAddress.isHost_iff {family : Family} {segment : String} :
    IsHost family.name segment ↔ ∃ host, ofChars? family segment.toList = some host := by
  have names {a b : Family} (same : a.name = b.name) : a = b :=
    Option.some.inj ((Family.ofName?_eq_some_iff.2 rfl).symm.trans
      (Family.ofName?_eq_some_iff.2 same.symm))
  simp only [ofChars?_eq_some_iff, IsHost]
  constructor
  · rintro ⟨host, name, rfl⟩
    exact ⟨host, names name, String.toList_ofList.symm⟩
  · rintro ⟨host, rfl, chars⟩
    exact ⟨host, rfl, by rw [chars, String.ofList_toList]⟩

/-- A small letter is one from `a` to `z`. -/
theorem mem_letters_iff {c : Char} :
    c ∈ "abcdefghijklmnopqrstuvwxyz".toList ↔ 'a' ≤ c ∧ c ≤ 'z' := by
  have letters : "abcdefghijklmnopqrstuvwxyz".toList =
      (List.range 26).map fun k => Char.ofNat (97 + k) := by decide
  rw [letters, List.mem_map]
  constructor
  · rintro ⟨k, below, rfl⟩
    have bounds : ∀ k < 26, 'a' ≤ Char.ofNat (97 + k) ∧ Char.ofNat (97 + k) ≤ 'z' := by decide
    exact bounds k (List.mem_range.1 below)
  · rintro ⟨first, last⟩
    have bounds : 97 ≤ c.toNat ∧ c.toNat ≤ 122 := ⟨first, last⟩
    refine ⟨c.toNat - 97, List.mem_range.2 (by omega), ?_⟩
    rw [Nat.add_sub_cancel' bounds.1, Char.ofNat_toNat]

/-- A tag is read from the segment of a transport only. -/
theorem TransportTag.isTransport_iff {segment : String} :
    IsTransport segment ↔ ∃ tag, ofName? segment = some tag := by
  have known : IsTransport segment ↔ isTransportTag segment = true := by
    simp only [IsTransport, isTransportTag, mem_letters_iff, Bool.or_eq_true, beq_iff_eq,
      Bool.and_eq_true, List.all_eq_true, decide_eq_true_eq, String.length_toList]
  rw [known]
  simp only [ofName?]
  constructor
  · exact fun isTag => ⟨⟨segment, isTag⟩, dif_pos isTag⟩
  · rintro ⟨tag, read⟩
    by_contra other
    simp [dif_neg other] at read

/-- A port is read from its segment only. -/
theorem Text.Decimal.isPort_iff {segment : String} :
    IsPort segment ↔ ∃ n, parse? 65535 segment.toList = some n := by
  simp only [parse?_eq_some_iff, IsPort]
  constructor
  · rintro ⟨n, bound, rfl⟩
    exact ⟨n, bound, String.toList_ofList.symm⟩
  · rintro ⟨n, bound, digits⟩
    exact ⟨n, bound, by rw [← String.ofList_toList (s := segment), ← digits]; rfl⟩

namespace PeerAddress

/-! ## Reading segments -/

/-- The characters of a text with segments. -/
theorem Segmented.toList_eq {text : String} {segments : List String}
    (segmented : Segmented text segments) :
    text.toList = '/' :: ['/'].intercalate (segments.map String.toList) := by
  rw [segmented.joined, String.toList_append, String.toList_intercalate]
  rfl

/-- The segments of a text are found between its slashes. -/
theorem Segmented.splitOn_eq {text : String} {segments : List String}
    (segmented : Segmented text segments) :
    (['/'].intercalate (segments.map String.toList)).splitOn '/' = segments.map String.toList := by
  refine List.splitOn_intercalate '/' ?_ ?_
  · intro chars mem
    obtain ⟨segment, here, rfl⟩ := List.mem_map.1 mem
    exact (segmented.segment segment here).2
  · intro empty
    have count := segmented.count
    rw [List.map_eq_nil_iff.1 empty] at count
    simp at count

/-- A text with segments is read as they are. -/
theorem Segmented.parse_eq {text family host transport port : String} {key : Option String}
    (segmented : Segmented text ([family, host, transport, port] ++ key.toList)) :
    parse text = ofSegments family.toList host.toList transport.toList port.toList
      (key.bind fun key => keySegment? key.toList) := by
  have split := segmented.splitOn_eq
  have nonempty : ¬ (List.map String.toList ([family, host, transport, port] ++ key.toList)).any
      (·.isEmpty) := by
    simp only [List.any_eq_true, List.isEmpty_iff, not_exists, not_and, List.mem_map]
    rintro chars ⟨segment, mem, rfl⟩ empty
    exact (segmented.segment segment mem).1 (String.toList_eq_nil_iff.1 empty)
  unfold parse
  rw [segmented.toList_eq]
  simp only [split, if_neg nonempty]
  cases key <;> rfl

/-- Four or five parts between slashes, none of them empty, are segments. -/
theorem segmented_splitOn {text : String} {rest : List Char} (slash : text.toList = '/' :: rest)
    (nonempty : ¬ (rest.splitOn '/').any (·.isEmpty))
    (count : (rest.splitOn '/').length = 4 ∨ (rest.splitOn '/').length = 5) :
    Segmented text ((rest.splitOn '/').map String.ofList) := by
  refine ⟨by simpa using count, ?_, ?_⟩
  · intro segment mem
    obtain ⟨chars, here, rfl⟩ := List.mem_map.1 mem
    rw [String.toList_ofList]
    refine ⟨fun empty => nonempty (List.any_eq_true.2 ⟨chars, here, ?_⟩),
      not_mem_of_mem_splitOn here⟩
    have empty := congrArg String.toList empty
    rw [String.toList_ofList] at empty
    simpa using empty
  · have kept : String.toList ∘ String.ofList = id := funext fun _ => String.toList_ofList
    have separator : "/".toList = ['/'] := rfl
    apply String.toList_injective
    rw [String.toList_append, String.toList_intercalate, List.map_map, kept, List.map_id, separator,
      List.intercalate_splitOn, slash]
    rfl

/-- A text without segments is blamed as a whole. -/
theorem parse_of_formless {text : String} (formless : ∀ segments, ¬ Segmented text segments) :
    parse text = .error (.malformedAddress text) := by
  unfold parse
  split
  case h_2 => rfl
  case h_1 rest slash =>
    dsimp only
    split
    case isTrue => rfl
    case isFalse nonempty =>
      have other := fun count => formless _ (segmented_splitOn slash nonempty count)
      split
      case h_1 split => exact (other (by simp [split])).elim
      case h_2 split => exact (other (by simp [split])).elim
      case h_3 => rfl

/-- Segments are four with perhaps a fifth one. -/
theorem Segmented.exists_five {text : String} {segments : List String}
    (segmented : Segmented text segments) :
    ∃ (family host transport port : String) (key : Option String),
      Segmented text ([family, host, transport, port] ++ key.toList) := by
  match segments, segmented.count with
  | [family, host, transport, port], _ => exact ⟨family, host, transport, port, none, segmented⟩
  | [family, host, transport, port, key], _ =>
    exact ⟨family, host, transport, port, some key, segmented⟩

/-! ## The address, or the first fault -/

/-- A text that follows the grammar is read as an address. -/
theorem exists_of_grammatical {text : String} (grammatical : Grammatical text) :
    ∃ address, parse text = .ok address := by
  obtain ⟨family, host, transport, port, key, segmented, isFamily, isHost, isTransport, isPort⟩ :=
    grammatical
  obtain ⟨known, readFamily⟩ := Family.isFamily_iff.1 isFamily
  obtain rfl := Family.ofName?_eq_some_iff.1 readFamily
  obtain ⟨_, readHost⟩ := IpAddress.isHost_iff.1 isHost
  obtain ⟨_, readTag⟩ := TransportTag.isTransport_iff.1 isTransport
  obtain ⟨_, readPort⟩ := Text.Decimal.isPort_iff.1 isPort
  rw [segmented.parse_eq]
  simp only [ofSegments, String.ofList_toList, readFamily, readHost, readTag, readPort]
  exact ⟨_, rfl⟩

/-- A text is blamed for its first fault. -/
theorem parse_of_firstFault {text : String} {error : AddressError}
    (fault : FirstFault text error) : parse text = .error error := by
  have none_of {α : Type} {read : Option α} (fault : ¬ ∃ a, read = some a) : read = none :=
    Option.eq_none_iff_forall_ne_some.2 fun a some => fault ⟨a, some⟩
  cases fault with
  | form formless => exact parse_of_formless formless
  | family segmented fault =>
    rw [Family.isFamily_iff] at fault
    rw [segmented.parse_eq]
    simp only [ofSegments, String.ofList_toList, none_of fault]
  | @host _ _ _ _ family segmented fault =>
    rw [IpAddress.isHost_iff] at fault
    have readFamily : Family.ofName? family.name = some family := Family.ofName?_eq_some_iff.2 rfl
    rw [segmented.parse_eq]
    simp only [ofSegments, String.ofList_toList, readFamily, none_of fault]
  | transport segmented isFamily isHost fault =>
    obtain ⟨known, readFamily⟩ := Family.isFamily_iff.1 isFamily
    obtain rfl := Family.ofName?_eq_some_iff.1 readFamily
    obtain ⟨_, readHost⟩ := IpAddress.isHost_iff.1 isHost
    rw [TransportTag.isTransport_iff] at fault
    rw [segmented.parse_eq]
    simp only [ofSegments, String.ofList_toList, readFamily, readHost, none_of fault]
  | port segmented isFamily isHost isTransport fault =>
    obtain ⟨known, readFamily⟩ := Family.isFamily_iff.1 isFamily
    obtain rfl := Family.ofName?_eq_some_iff.1 readFamily
    obtain ⟨_, readHost⟩ := IpAddress.isHost_iff.1 isHost
    obtain ⟨_, readTag⟩ := TransportTag.isTransport_iff.1 isTransport
    rw [Text.Decimal.isPort_iff] at fault
    rw [segmented.parse_eq]
    simp only [ofSegments, String.ofList_toList, readFamily, readHost, readTag, none_of fault]

/-- A text follows the grammar or has a first fault. -/
theorem grammatical_or_firstFault (text : String) :
    Grammatical text ∨ ∃ error, FirstFault text error := by
  by_cases formless : ∀ segments, ¬ Segmented text segments
  · exact .inr ⟨_, .form formless⟩
  obtain ⟨segments, segmented⟩ := not_forall_not.1 formless
  obtain ⟨family, host, transport, port, key, segmented⟩ := segmented.exists_five
  by_cases isFamily : IsFamily family
  · obtain ⟨known, readFamily⟩ := Family.isFamily_iff.1 isFamily
    obtain rfl := Family.ofName?_eq_some_iff.1 readFamily
    by_cases isHost : IsHost known.name host
    · by_cases isTransport : IsTransport transport
      · by_cases isPort : IsPort port
        · exact .inl ⟨_, _, _, _, _, segmented, isFamily, isHost, isTransport, isPort⟩
        · exact .inr ⟨_, .port segmented isFamily isHost isTransport isPort⟩
      · exact .inr ⟨_, .transport segmented isFamily isHost isTransport⟩
    · exact .inr ⟨_, .host segmented isHost⟩
  · exact .inr ⟨_, .family segmented isFamily⟩

/-- A text is blamed for its first fault, and for nothing else. -/
theorem parse_eq_error_iff {text : String} {error : AddressError} :
    parse text = .error error ↔ FirstFault text error := by
  refine ⟨fun blamed => ?_, parse_of_firstFault⟩
  rcases grammatical_or_firstFault text with grammatical | ⟨error', fault⟩
  · obtain ⟨address, read⟩ := exists_of_grammatical grammatical
    rw [read] at blamed
    cases blamed
  · rw [parse_of_firstFault fault] at blamed
    obtain rfl := Except.error.inj blamed
    exact fault

/-- A text that is read as an address follows the grammar. -/
theorem grammatical_of_parse {text : String} {address : PeerAddress}
    (read : parse text = .ok address) : Grammatical text := by
  rcases grammatical_or_firstFault text with grammatical | ⟨error, fault⟩
  · exact grammatical
  · rw [parse_of_firstFault fault] at read
    cases read

/-- The segments of an address as texts. -/
def segmentTexts (address : PeerAddress) : List String :=
  [address.family.name, String.ofList address.host.chars, address.transport.name,
    toString address.port.toNat] ++ (address.key.map KeySegment.text).toList

/-- The segments of an address are the characters of their texts. -/
theorem map_toList_segmentTexts (address : PeerAddress) :
    address.segmentTexts.map String.toList = address.segments := by
  obtain ⟨host, transport, port, key⟩ := address
  cases key <;> simp [segmentTexts, segments, Text.Decimal.digits]

/-- An address is read from the text that has its own segments only. -/
theorem parse_eq_ok_iff_segmented {text : String} {address : PeerAddress} :
    parse text = .ok address ↔ Segmented text address.segmentTexts := by
  have chars := address.map_toList_segmentTexts
  have slashes : address.text.toList = '/' :: ['/'].intercalate address.segments := by
    rw [PeerAddress.text, String.toList_ofList, flatMap_slash (by simp [segments])]
  rw [parse_eq_ok_iff]
  constructor
  · rintro rfl
    refine ⟨?_, ?_, ?_⟩
    · cases key : address.key <;> simp [segmentTexts, key]
    · intro segment mem
      have mem : segment.toList ∈ address.segments := chars ▸ List.mem_map_of_mem mem
      obtain ⟨nonempty, no_slash⟩ := isSegment_of_mem_segments mem
      exact ⟨fun empty => nonempty (by rw [empty]; rfl), no_slash⟩
    · apply String.toList_injective
      rw [slashes, ← chars, String.toList_append, String.toList_intercalate]
      rfl
  · intro segmented
    apply String.toList_injective
    rw [slashes, segmented.toList_eq, chars]

/-! ## The readers of addresses -/

/-- A text is valid exactly if it is read as an address. -/
theorem validate_iff {text : String} :
    validate text = true ↔ ∃ address, parse text = .ok address := by
  unfold validate
  cases parse text <;> simp

/-- An address is read from JSON exactly if it is read from the string that the JSON stands for. -/
theorem decode_eq_ok_iff {octets : Bytes} {address : PeerAddress} :
    decoder.decode octets = .ok address ↔
      ∃ text, Json.Decoder.string.decode octets = .ok text ∧ parse text = .ok address := by
  rw [decoder, Json.Decoder.decode_filterMap_eq_ok_iff]
  simp only [toOption_parse_eq_some_iff]

/-- An address is read from a JSON string exactly if it is read from its text. -/
theorem decode_string_iff {text : String} {address : PeerAddress} :
    decoder.decode (Json.string text).encode = .ok address ↔ parse text = .ok address := by
  have whole := Json.Decoder.decode_of_reads (Json.Decoder.reads_string Json.depthLimit text)
  rw [decode_eq_ok_iff, whole]
  simp

/-- A text is read as an address exactly if it follows the grammar, and then as the one of exactly
its segments; else it is blamed for its form or for its first faulty segment, whatever the segments
behind it are. All readers of addresses agree on this. -/
theorem parse_follows_grammar (text : String) :
    ((∃ address, parse text = .ok address) ↔ Grammatical text) ∧
      (∀ address, parse text = .ok address ↔ Segmented text address.segmentTexts) ∧
      (∀ error, parse text = .error error ↔ FirstFault text error) ∧
      (validate text = true ↔ Grammatical text) ∧
      ∀ address,
        (decoder.ofTree (.string text) = some address ↔ parse text = .ok address) ∧
        (decoder.decode (Json.string text).encode = .ok address ↔ parse text = .ok address) ∧
        ∀ octets, decoder.decode octets = .ok address ↔
          ∃ content, Json.Decoder.string.decode octets = .ok content ∧
            parse content = .ok address := by
  have read : (∃ address, parse text = .ok address) ↔ Grammatical text :=
    ⟨fun ⟨_, read⟩ => grammatical_of_parse read, exists_of_grammatical⟩
  refine ⟨read, fun _ => parse_eq_ok_iff_segmented, fun _ => parse_eq_error_iff,
    validate_iff.trans read, fun address => ⟨?_, decode_string_iff, fun _ => decode_eq_ok_iff⟩⟩
  exact toOption_parse_eq_some_iff

/-- A port with a leading zero is blamed, and the key behind it is not looked at. -/
example : parse "/ip4/127.0.0.1/tcp/0080/key" = .error (.invalidPort "0080") := by decide +kernel

end PeerAddress

end PeerLink
