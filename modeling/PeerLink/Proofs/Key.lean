import PeerLink.Proofs.Address.Peer
import PeerLink.Proofs.Envelope

/-!
# The public key that a text carries

A public key travels in its DER form, as the key segment of an address or as the material of an
envelope, and both are hexadecimal text. `carried_key_is_the_encoded_one` says which texts carry a
key, namely the ones of its DER form in either case of their digits, and what each other text is
blamed for: first for what is no hexadecimal text (`Hex.Fault`), then for its length and at last for
its preamble (`Foreign`).
-/

namespace PeerLink

namespace PublicKey

/-- What is wrong with octets that are not the DER form of a public key. -/
inductive Foreign (der : Bytes) : KeyError → Prop
  /-- They are too few or too many. -/
  | length (other : der.length ≠ derSize) : Foreign der (.invalidLength der.length)
  /-- They do not begin with the preamble. -/
  | preamble (size : der.length = derSize) (other : ¬ derPreamble <+: der) : Foreign der .invalidDer

/-- What is wrong with a text that carries no public key. -/
inductive Fault (text : String) : KeyError → Prop
  /-- It is not hexadecimal. -/
  | hex {cause : HexError} (fault : Hex.Fault (Utf8.encode text.toList) cause) :
      Fault text (.hex cause)
  /-- It is hexadecimal, in either case of its digits, but not of a DER form. -/
  | der {der : Bytes} {cause : KeyError} (hexadecimal : text.toLower = Hex.encode der)
      (foreign : Foreign der cause) : Fault text cause

/-- A public key is read from its DER form only. -/
theorem ofDer_eq_ok_iff {der : Bytes} {key : PublicKey} :
    ofDer der = .ok key ↔ der = key.toDer := by
  constructor
  · intro read
    unfold ofDer at read
    split_ifs at read with size preamble
    cases read
    rw [toDer, ← preamble, List.take_append_drop]
  · rintro rfl
    exact ofDer_toDer key

/-- Octets are blamed for their length, or else for their preamble. -/
theorem ofDer_eq_error_iff {der : Bytes} {cause : KeyError} :
    ofDer der = .error cause ↔ Foreign der cause := by
  have begins : der.take 12 = derPreamble ↔ derPreamble <+: der := by
    rw [List.prefix_iff_eq_take, eq_comm]
    rfl
  unfold ofDer
  split_ifs with size preamble
  · refine ⟨by simp, ?_⟩
    rintro (other | ⟨-, other⟩)
    · exact absurd size other
    · exact absurd (begins.1 preamble) other
  · constructor
    · rintro ⟨⟩
      exact .preamble size (mt begins.2 preamble)
    · rintro (other | _)
      · exact absurd size other
      · rfl
  · constructor
    · rintro ⟨⟩
      exact .length size
    · rintro (_ | ⟨size', -⟩)
      · rfl
      · exact absurd size' size

/-- A public key is read from the hexadecimal text of its DER form, in either case, and from no
other text. -/
theorem ofDerHex_eq_ok_iff {text : String} {key : PublicKey} :
    ofDerHex text = .ok key ↔ text.toLower = Hex.encode key.toDer := by
  rw [← Hex.decode_eq_ok_iff, ofDerHex]
  cases Hex.decode text with
  | error cause => exact ⟨by simp, by simp⟩
  | ok der => rw [ofDer_eq_ok_iff, Except.ok.injEq]

/-- A text is blamed for what makes it no hexadecimal text, or else for what is wrong with its
octets. -/
theorem ofDerHex_eq_error_iff {text : String} {cause : KeyError} :
    ofDerHex text = .error cause ↔ Fault text cause := by
  rw [ofDerHex]
  cases read : Hex.decode text with
  | error fault =>
    constructor
    · rintro ⟨⟩
      exact .hex (Hex.decode_eq_error_iff.1 read)
    · rintro (other | ⟨hexadecimal, -⟩)
      · rw [Hex.decode_eq_error_iff.2 other] at read
        cases read
        rfl
      · rw [Hex.decode_eq_ok_iff.2 hexadecimal] at read
        cases read
  | ok der =>
    constructor
    · exact fun blamed => .der (Hex.decode_eq_ok_iff.1 read) (ofDer_eq_error_iff.1 blamed)
    · rintro (other | ⟨hexadecimal, foreign⟩)
      · rw [Hex.decode_eq_error_iff.2 other] at read
        cases read
      · rw [Hex.decode_eq_ok_iff.2 hexadecimal] at read
        cases read
        exact ofDer_eq_error_iff.2 foreign

end PublicKey

/-! ## Key segments -/

namespace PeerAddress

variable {address : PeerAddress}

/-- An address gives the public key that its key segment carries. -/
theorem publicKey_eq_some_iff {key : PublicKey} : address.publicKey = .ok (some key) ↔
    ∃ segment, address.key = some segment ∧ segment.text.toLower = Hex.encode key.toDer := by
  rw [publicKey]
  cases address.key with
  | none => simp
  | some segment =>
    simp only [Option.some.injEq, exists_eq_left', ← PublicKey.ofDerHex_eq_ok_iff]
    cases PublicKey.ofDerHex segment.text <;> simp

/-- An address gives no public key, and is not blamed for it, if it has no key segment. -/
theorem publicKey_eq_none_iff : address.publicKey = .ok none ↔ address.key = none := by
  rw [publicKey]
  cases address.key with
  | none => simp
  | some segment => cases read : PublicKey.ofDerHex segment.text <;> simp [read]

/-- An address is blamed for what is wrong with its key segment. -/
theorem publicKey_eq_error_iff {error : AddressError} : address.publicKey = .error error ↔
    ∃ segment cause, address.key = some segment ∧ PublicKey.Fault segment.text cause ∧
      error = .invalidPublicKey cause := by
  rw [publicKey]
  cases address.key with
  | none => simp
  | some segment =>
    simp only [Option.some.injEq, exists_and_left, exists_eq_left',
      ← PublicKey.ofDerHex_eq_error_iff]
    cases PublicKey.ofDerHex segment.text <;> simp [eq_comm]

/-- An address and a public key are read from the text of an address whose key segment carries the
key. -/
theorem parseWithKey_eq_ok_iff {text : String} {key : PublicKey} :
    parseWithKey text = .ok (address, key) ↔
      address.text = text ∧ address.publicKey = .ok (some key) := by
  rw [← parse_eq_ok_iff, parseWithKey]
  cases parse text with
  | error error => simp
  | ok read =>
    dsimp only
    rcases carried : read.publicKey with error | _ | other
    · simp only [reduceCtorEq, Except.ok.injEq, false_iff, not_and]
      rintro rfl
      simp [carried]
    · simp only [reduceCtorEq, Except.ok.injEq, false_iff, not_and]
      rintro rfl
      simp [carried]
    · simp only [Except.ok.injEq, Prod.mk.injEq]
      constructor
      · rintro ⟨rfl, rfl⟩
        exact ⟨rfl, carried⟩
      · rintro ⟨rfl, same⟩
        rw [carried] at same
        simpa using same

end PeerAddress

/-! ## Channel material -/

namespace ChannelMaterial

variable {text : String} {material : ChannelMaterial}

/-- Material is read from its hexadecimal text, in either case of its digits. -/
theorem ofTree_eq_some_iff :
    decoder.ofTree (.string text) = some material ↔ text.toLower = material.text := by
  rw [ChannelMaterial.text, ← Hex.decode_eq_ok_iff]
  simp only [decoder, Json.Decoder.filterMap, Json.Decoder.string, Json.Decoder.scalar,
    Option.bind_eq_bind, Option.bind_some]
  obtain ⟨bytes⟩ := material
  cases Hex.decode text <;> simp

/-- Material is read from the octets of a JSON string exactly if it is read from the string. -/
theorem decode_eq_ok_iff {octets : Bytes} : decoder.decode octets = .ok material ↔
    ∃ text, Json.Decoder.string.decode octets = .ok text ∧ text.toLower = material.text := by
  rw [decoder, Json.Decoder.decode_filterMap_eq_ok_iff]
  exact exists_congr fun text => and_congr_right fun _ => ofTree_eq_some_iff

/-- The material of a text gives the key that the text carries, or the same blame. -/
theorem publicKey_of_text (same : text.toLower = material.text) :
    material.publicKey = PublicKey.ofDerHex text := by
  rw [publicKey, PublicKey.ofDerHex, Hex.decode_eq_ok_iff.2 same]

end ChannelMaterial

/-- Public keys and their DER forms correspond one to one. A text carries a public key, as the key
segment of an address or as channel material, exactly if it is the hexadecimal text of its DER form
in either case of the digits. Any other text is blamed, by the address, for its first fault: an odd
number of octets, the first octet that is no digit, the number of octets of the form, its preamble;
material is read from every hexadecimal text, and gives the same keys and the same blame. -/
theorem PublicKey.carried_key_is_the_encoded_one :
    (∀ der key, PublicKey.ofDer der = .ok key ↔ der = key.toDer) ∧
      (∀ (address : PeerAddress) (key : PublicKey),
        PeerAddress.parseWithKey (address.withPublicKey key).text =
          .ok (address.withPublicKey key, key)) ∧
      (∀ (text : String) (address : PeerAddress) (key : PublicKey),
        PeerAddress.parseWithKey text = .ok (address, key) ↔ address.text = text ∧
          ∃ segment, address.key = some segment ∧
            segment.text.toLower = Hex.encode key.toDer) ∧
      (∀ address : PeerAddress,
        (address.publicKey = .ok none ↔ address.key = none) ∧
        (∀ key, address.publicKey = .ok (some key) ↔ ∃ segment, address.key = some segment ∧
          segment.text.toLower = Hex.encode key.toDer) ∧
        ∀ error, address.publicKey = .error error ↔ ∃ segment cause,
          address.key = some segment ∧ PublicKey.Fault segment.text cause ∧
            error = .invalidPublicKey cause) ∧
      (∀ (octets : Bytes) (material : ChannelMaterial),
        ChannelMaterial.decoder.decode octets = .ok material ↔
          ∃ text, Json.Decoder.string.decode octets = .ok text ∧
            text.toLower = material.text) ∧
      ∀ text read, (∃ material, ChannelMaterial.decoder.ofTree (.string text) = some material ∧
          material.publicKey = read) ↔
        PublicKey.ofDerHex text = read ∧ ∀ cause, read ≠ .error (.hex cause) := by
  refine ⟨fun _ _ => ofDer_eq_ok_iff, fun address key => ?_, fun text address key => ?_,
    fun address => ⟨PeerAddress.publicKey_eq_none_iff, fun _ => PeerAddress.publicKey_eq_some_iff,
      fun _ => PeerAddress.publicKey_eq_error_iff⟩,
    fun _ _ => ChannelMaterial.decode_eq_ok_iff, fun text read => ?_⟩
  · exact PeerAddress.parseWithKey_eq_ok_iff.2 ⟨rfl, address.publicKey_withPublicKey key⟩
  · rw [PeerAddress.parseWithKey_eq_ok_iff, PeerAddress.publicKey_eq_some_iff]
  · constructor
    · rintro ⟨material, found, rfl⟩
      have same := ChannelMaterial.ofTree_eq_some_iff.1 found
      refine ⟨(ChannelMaterial.publicKey_of_text same).symm, fun cause blamed => ?_⟩
      rcases ofDer_eq_error_iff.1 blamed
    · rintro ⟨rfl, hexadecimal⟩
      cases octets : Hex.decode text with
      | error cause => exact absurd (by rw [ofDerHex, octets]) (hexadecimal cause)
      | ok bytes =>
        have same : text.toLower = (ChannelMaterial.mk bytes).text := Hex.decode_eq_ok_iff.1 octets
        exact ⟨⟨bytes⟩, ChannelMaterial.ofTree_eq_some_iff.2 same,
          ChannelMaterial.publicKey_of_text same⟩

/-- One character that is no digit may be an even number of octets. -/
example : PublicKey.ofDerHex "é" = .error (.hex (.invalidCharacter 0xc3 0)) := by decide

end PeerLink
