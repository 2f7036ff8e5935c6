import PeerLink.Address.Json
import PeerLink.Proofs.Address.Ip
import PeerLink.Proofs.Hex
import PeerLink.Proofs.Json.Tagged

/-!
# The texts of peer addresses

Peer addresses and the texts that are read as one correspond one to one (`text_bijective`).

A text is a list of segments, each behind a slash. Neither a host nor a tag nor a port has a slash,
and a key segment has none by its type, so the segments of a text are found again (`toList_text`,
`segments_of_parse`); and each segment is read from one text only (`ofSegments_eq_ok_iff`).
-/

namespace PeerLink

/-- The parts between separators hold no separator. -/
theorem not_mem_of_mem_splitOn {α : Type} [BEq α] [LawfulBEq α] {separator : α} {xs part : List α}
    (mem : part ∈ xs.splitOn separator) : separator ∉ part := by
  induction xs generalizing part with
  | nil => simp_all [List.splitOn_nil]
  | cons x xs ih =>
    rw [List.splitOn_cons_eq_if_modifyHead] at mem
    obtain ⟨first, others, split⟩ := List.exists_cons_of_ne_nil (List.splitOn_ne_nil separator xs)
    simp only [split] at mem ih
    by_cases here : x == separator
    · rw [if_pos here] at mem
      rcases List.mem_cons.1 mem with rfl | later
      · exact List.not_mem_nil
      · exact ih later
    · rw [if_neg here, List.modifyHead_cons] at mem
      rcases List.mem_cons.1 mem with rfl | later
      · have differs : separator ≠ x := fun same => here (beq_iff_eq.2 same.symm)
        exact List.not_mem_cons_of_ne_of_not_mem differs (ih (List.mem_cons_self ..))
      · exact ih (List.mem_cons_of_mem first later)

/-- The octets of a hexadecimal text are no slashes. -/
theorem Hex.slash_not_mem_digits (bytes : Bytes) : '/' ∉ Hex.digits bytes := by
  have differs : ∀ n < 16, '/' ≠ Hex.digit n := by decide
  intro mem
  obtain ⟨b, -, here⟩ := List.mem_flatMap.1 mem
  have bound := b.toNat_lt
  rcases List.mem_cons.1 here with high | low
  · exact differs (b.toNat / 16) (by omega) high
  · exact differs (b.toNat % 16) (by omega) (by simpa using low)

/-- A text is the name of a family exactly if the family is read from it. -/
theorem Family.ofName?_eq_some_iff {name : String} {family : Family} :
    ofName? name = some family ↔ family.name = name := by
  cases family <;> simp only [ofName?, Family.name] <;> grind

/-- A text is a tag exactly if the tag is read from it. -/
theorem TransportTag.ofName?_eq_some_iff {name : String} {tag : TransportTag} :
    ofName? name = some tag ↔ tag.name = name := by
  obtain ⟨known, isTag⟩ := tag
  simp only [ofName?]
  constructor
  · intro h
    split at h
    · exact (congrArg TransportTag.name (Option.some.inj h)).symm
    · cases h
  · rintro rfl
    exact dif_pos isTag

/-- A segment has characters, and no slash among them. -/
theorem chars_of_isSegment {text : String} (h : isSegment text = true) :
    text.toList ≠ [] ∧ '/' ∉ text.toList := by
  simpa [isSegment] using h

/-- A tag has characters, and no slash among them. -/
theorem TransportTag.isSegment_name (tag : TransportTag) : isSegment tag.name = true := by
  have isTag := tag.isTag
  generalize tag.name = name at isTag ⊢
  simp only [isTransportTag, Bool.or_eq_true, beq_iff_eq, Bool.and_eq_true, List.all_eq_true,
    decide_eq_true_eq] at isTag
  rcases isTag with rfl | ⟨length, small⟩
  · decide
  · have nonempty : name.toList ≠ [] := fun empty => by simp [empty] at length
    have noSlash : '/' ∉ name.toList := fun slash => absurd (small '/' slash) (by decide)
    simpa [isSegment, nonempty] using noSlash

namespace PeerAddress

/-- A text that has characters and no slash is kept as a key segment. -/
theorem keySegment?_of_segment {text : List Char} (nonempty : text ≠ []) (noSlash : '/' ∉ text) :
    ∃ segment, keySegment? text = some segment ∧ segment.text.toList = text := by
  have here : isSegment (String.ofList text) = true := by
    simpa [isSegment, nonempty] using noSlash
  exact ⟨⟨String.ofList text, here⟩, dif_pos here, String.toList_ofList⟩

/-- A key segment is kept as itself. -/
theorem keySegment?_text (segment : KeySegment) :
    keySegment? segment.text.toList = some segment := by
  obtain ⟨text, isSegment⟩ := segment
  simp [keySegment?, isSegment]

/-- An address is made of segments exactly if they are its own. -/
theorem ofSegments_eq_ok_iff {family host transport port : List Char} {key : Option KeySegment}
    {address : PeerAddress} :
    ofSegments family host transport port key = .ok address ↔
      address.family.name.toList = family ∧ address.host.chars = host ∧
        address.transport.name.toList = transport ∧
        Text.Decimal.digits address.port.toNat = port ∧ address.key = key := by
  constructor
  · intro made
    unfold ofSegments at made
    split at made
    · cases made
    rename_i knownFamily readFamily
    split at made
    · cases made
    rename_i knownHost readHost
    split at made
    · cases made
    rename_i tag readTag
    split at made
    · cases made
    rename_i n readPort
    cases made
    -- Each segment was read, and each reader accepts the canonical text only.
    obtain ⟨ofFamily, hostChars⟩ := IpAddress.ofChars?_eq_some_iff.1 readHost
    obtain ⟨bound, portDigits⟩ := Text.Decimal.parse?_eq_some_iff.1 readPort
    have portNumber : (UInt16.ofNat n).toNat = n := by
      simp only [UInt16.toNat_ofNat']
      omega
    refine ⟨?_, hostChars, ?_, by rw [portNumber, portDigits], rfl⟩
    · rw [PeerAddress.family, ofFamily, Family.ofName?_eq_some_iff.1 readFamily,
        String.toList_ofList]
    · rw [TransportTag.ofName?_eq_some_iff.1 readTag, String.toList_ofList]
  · rintro ⟨rfl, rfl, rfl, rfl, rfl⟩
    obtain ⟨host, tag, port, key⟩ := address
    have bound := port.toNat_lt
    have readFamily : Family.ofName? host.family.name = some host.family :=
      Family.ofName?_eq_some_iff.2 rfl
    have readHost : IpAddress.ofChars? host.family host.chars = some host :=
      IpAddress.ofChars?_eq_some_iff.2 ⟨rfl, rfl⟩
    have readTag : TransportTag.ofName? tag.name = some tag :=
      TransportTag.ofName?_eq_some_iff.2 rfl
    have readPort : Text.Decimal.parse? 65535 (Text.Decimal.digits port.toNat) = some port.toNat :=
      Text.Decimal.parse?_eq_some_iff.2 ⟨by omega, rfl⟩
    simp only [ofSegments, PeerAddress.family, String.ofList_toList, readFamily, readHost, readTag,
      readPort, UInt16.ofNat_toNat]

/-- Segments behind slashes are a slash and the segments between slashes. -/
theorem flatMap_slash {segments : List (List Char)} (nonempty : segments ≠ []) :
    segments.flatMap ('/' :: ·) = '/' :: List.intercalate ['/'] segments := by
  induction segments with
  | nil => exact absurd rfl nonempty
  | cons segment rest ih =>
    cases rest with
    | nil => simp
    | cons next rest => simp [List.intercalate_cons_cons, ih]

/-- Each segment of an address has characters, and no slash among them. -/
theorem isSegment_of_mem_segments {address : PeerAddress} {segment : List Char}
    (mem : segment ∈ address.segments) : segment ≠ [] ∧ '/' ∉ segment := by
  simp only [segments, List.mem_append, List.mem_cons, List.not_mem_nil, or_false,
    Option.mem_toList, Option.map_eq_some_iff] at mem
  rcases mem with (rfl | rfl | rfl | rfl) | ⟨key, -, rfl⟩
  · cases address.family <;> decide
  · exact address.host.isSegment_chars
  · exact chars_of_isSegment address.transport.isSegment_name
  · exact ⟨Text.Decimal.digits_ne_nil _, Ip4.not_mem_digits (by decide) _⟩
  · exact chars_of_isSegment key.isSegment

/-- The segments of an address are found between the slashes of its text. -/
theorem toList_text (address : PeerAddress) :
    ∃ rest, address.text.toList = '/' :: rest ∧ rest.splitOn '/' = address.segments := by
  have nonempty : address.segments ≠ [] := by simp [segments]
  refine ⟨List.intercalate ['/'] address.segments, ?_, ?_⟩
  · rw [text, String.toList_ofList, flatMap_slash nonempty]
  · exact List.splitOn_intercalate '/' (fun _ mem => (isSegment_of_mem_segments mem).2) nonempty

/-- The segments that a text with an address has between its slashes are the ones of the address. -/
theorem segments_of_parse {text : String} {address : PeerAddress}
    (read : parse text = .ok address) :
    ∃ rest, text.toList = '/' :: rest ∧ rest.splitOn '/' = address.segments := by
  unfold parse at read
  split at read
  case h_2 => cases read
  case h_1 rest slash =>
    refine ⟨rest, slash, ?_⟩
    dsimp only at read
    split at read
    case isTrue => cases read
    case isFalse nonempty =>
      split at read
      case h_1 family host transport port split =>
        obtain ⟨rfl, rfl, rfl, rfl, key⟩ := ofSegments_eq_ok_iff.1 read
        simp [split, segments, key]
      case h_2 family host transport port key split =>
        have mem : key ∈ rest.splitOn '/' := by simp [split]
        obtain ⟨segment, kept, chars⟩ := keySegment?_of_segment
          (fun empty => nonempty (List.any_eq_true.2 ⟨key, mem, by simp [empty]⟩))
          (not_mem_of_mem_splitOn mem)
        obtain ⟨rfl, rfl, rfl, rfl, known⟩ := ofSegments_eq_ok_iff.1 read
        simp [split, segments, known, kept, chars]
      case h_3 => cases read

/-- An address is read from a text exactly if it is the text of this address. -/
theorem parse_eq_ok_iff {text : String} {address : PeerAddress} :
    parse text = .ok address ↔ address.text = text := by
  constructor
  · intro read
    obtain ⟨rest, slash, split⟩ := segments_of_parse read
    have nonempty : address.segments ≠ [] := by simp [segments]
    apply String.toList_injective
    rw [PeerAddress.text, String.toList_ofList, flatMap_slash nonempty, ← split,
      List.intercalate_splitOn, slash]
  · rintro rfl
    obtain ⟨rest, slash, split⟩ := toList_text address
    have nonempty : ¬ address.segments.any (·.isEmpty) := by
      simp only [List.any_eq_true, List.isEmpty_iff, not_exists, not_and]
      exact fun segment mem => (isSegment_of_mem_segments mem).1
    unfold parse
    simp only [slash, split, if_neg nonempty]
    obtain ⟨host, tag, port, key⟩ := address
    cases key with
    | none => exact ofSegments_eq_ok_iff.2 ⟨rfl, rfl, rfl, rfl, rfl⟩
    | some key =>
      exact ofSegments_eq_ok_iff.2 ⟨rfl, rfl, rfl, rfl, (keySegment?_text key).symm⟩

/-- What is read from a text is an address or nothing. -/
theorem toOption_parse_eq_some_iff {text : String} {address : PeerAddress} :
    (parse text).toOption = some address ↔ parse text = .ok address := by
  cases parse text <;> simp [Except.toOption]

/-- A public key is added as the hexadecimal text of its DER form. -/
theorem key_withPublicKey (address : PeerAddress) (key : PublicKey) :
    (address.withPublicKey key).key.map (·.text) = some (Hex.encode key.toDer) := by
  have nonempty : Hex.digits key.toDer ≠ [] := by
    simp [Hex.digits, PublicKey.toDer, PublicKey.derPreamble]
  obtain ⟨segment, kept, chars⟩ :=
    keySegment?_of_segment nonempty (Hex.slash_not_mem_digits key.toDer)
  have same : segment.text = Hex.encode key.toDer :=
    String.toList_injective (by rw [chars, Hex.encode, String.toList_ofList])
  simp [withPublicKey, segmentOfKey, kept, same]

/-- A public key that is added to an address is read from its key segment. -/
theorem publicKey_withPublicKey (address : PeerAddress) (key : PublicKey) :
    (address.withPublicKey key).publicKey = .ok (some key) := by
  obtain ⟨segment, kept, text⟩ := Option.map_eq_some_iff.1 (key_withPublicKey address key)
  simp [publicKey, kept, text, PublicKey.ofDerHex, Hex.decode_encode, PublicKey.ofDer_toDer]

/-- An address is read back from its JSON value. -/
theorem decode_toJson (address : PeerAddress) :
    decoder.decode address.toJson.encode = .ok address := by
  have accepted : (parse address.text).toOption = some address := by
    rw [parse_eq_ok_iff.2 rfl]
    rfl
  exact Json.Decoder.decode_of_reads
    (Json.Decoder.reads_filterMap (Json.Decoder.reads_string _ address.text) accepted)

/-- Peer addresses and the texts that are read as one correspond one to one, and so do the network
addresses and their host segments. A key that is added is a segment of its own, which gives the key
back, and the JSON string of the text is read as the address, whatever its key segment holds. -/
theorem text_bijective :
    (∀ (text : String) (address : PeerAddress), parse text = .ok address ↔ address.text = text) ∧
      (∀ a b : PeerAddress, a = b ↔ a.text = b.text) ∧
      (∀ (family : Family) (text : List Char) (host : IpAddress),
        IpAddress.ofChars? family text = some host ↔ host.family = family ∧ host.chars = text) ∧
      (∀ address : PeerAddress, address.toJson = .string address.text ∧
        decoder.decode address.toJson.encode = .ok address) ∧
      ∀ (address : PeerAddress) (key : PublicKey),
        (address.withPublicKey key).key.map (·.text) = some (Hex.encode key.toDer) ∧
          (address.withPublicKey key).publicKey = .ok (some key) := by
  refine ⟨fun _ _ => parse_eq_ok_iff, fun a b => ⟨congrArg text, fun same => ?_⟩,
    fun _ _ _ => IpAddress.ofChars?_eq_some_iff, fun address => ⟨rfl, decode_toJson address⟩,
    fun address key => ⟨key_withPublicKey address key, publicKey_withPublicKey address key⟩⟩
  -- The text that two addresses share is read as either of them.
  have first : parse b.text = .ok a := parse_eq_ok_iff.2 same
  have second : parse b.text = .ok b := parse_eq_ok_iff.2 rfl
  exact Except.ok.inj (first.symm.trans second)

end PeerAddress

end PeerLink
