import PeerLink.Hex
import PeerLink.Proofs.Text.Utf8

/-!
# Octets survive their hexadecimal form

Each octet is read back from its two digits, in either case, and from nothing else
(`decode_eq_ok_iff`). Any other text is blamed for an odd number of octets or for its first octet
that is no digit (`decode_eq_error_iff`). `Denotes` says which octets characters denote, digit by
digit; a text of a fixed size is read as the octets that it denotes (`decodeExactly_eq_ok_iff`), and
between its two other faults it may have the wrong length (`decodeExactly_eq_error_iff`).
-/

namespace PeerLink.Hex

/-- The octet of a digit of a number below sixteen. -/
def digitOctet (n : Nat) : UInt8 :=
  UInt8.ofNat (digit n).toNat

/-- A digit is one octet of text. -/
theorem encodeChar_digit : ∀ n, n < 16 → Utf8.encodeChar (digit n) = [digitOctet n] := by
  decide

/-- A digit is read as its number. -/
theorem value?_digitOctet : ∀ n, n < 16 → value? (digitOctet n) = some n := by
  decide

/-- The octets of the digits of an octet. -/
theorem encode_digits_cons (b : UInt8) (bytes : Bytes) :
    Utf8.encode (digits (b :: bytes)) =
      digitOctet (b.toNat / 16) :: digitOctet (b.toNat % 16) :: Utf8.encode (digits bytes) := by
  have bound := b.toNat_lt
  have high := encodeChar_digit (b.toNat / 16) (by omega)
  have low := encodeChar_digit (b.toNat % 16) (by omega)
  rw [digits, List.flatMap_cons, Utf8.encode_append]
  simp only [Utf8.encode, List.flatMap_cons, List.flatMap_nil, high, low]
  rfl

/-- Octets are read back from their digits. -/
theorem decodeFrom_digits (index : Nat) (read bytes : Bytes) :
    decodeFrom index read (Utf8.encode (digits bytes)) = .ok (read.reverse ++ bytes) := by
  induction bytes generalizing index read with
  | nil =>
    rw [List.append_nil]
    rfl
  | cons b bytes ih =>
    have bound := b.toNat_lt
    have high := value?_digitOctet (b.toNat / 16) (by omega)
    have low := value?_digitOctet (b.toNat % 16) (by omega)
    have octet : UInt8.ofNat (16 * (b.toNat / 16) + b.toNat % 16) = b := by
      rw [Nat.div_add_mod]
      exact UInt8.ofNat_toNat
    rw [encode_digits_cons, decodeFrom, high]
    simp only [low]
    rw [octet, ih, List.reverse_cons, List.append_assoc]
    rfl

/-- There are two digits for each octet. -/
theorem length_encode_digits (bytes : Bytes) :
    (Utf8.encode (digits bytes)).length = 2 * bytes.length := by
  induction bytes with
  | nil => rfl
  | cons b bytes ih =>
    rw [encode_digits_cons, List.length_cons, List.length_cons, ih, List.length_cons]
    omega

/-- Octets are read back from their hexadecimal form. -/
theorem decode_encode (bytes : Bytes) : decode (encode bytes) = .ok bytes := by
  have length := length_encode_digits bytes
  rw [decode, encode, String.toList_ofList]
  rw [if_neg (by omega), decodeFrom_digits]
  rfl

/-! ## Digits of either case -/

/-- An octet of text, with a capital letter made small. -/
def small (b : UInt8) : UInt8 :=
  if 65 ≤ b.toNat ∧ b.toNat ≤ 90 then UInt8.ofNat (b.toNat + 32) else b

/-- A character beyond the ASCII ones has no other case. -/
theorem toLower_of_not_ascii {c : Char} (high : 128 ≤ c.toNat) : c.toLower = c := by
  refine dif_neg ?_
  rintro ⟨-, last⟩
  have : c.toNat ≤ 90 := last
  omega

/-- The octets of a character in lower case are the ones of the character with capitals made
small. -/
theorem encodeChar_toLower (c : Char) :
    Utf8.encodeChar c.toLower = (Utf8.encodeChar c).map small := by
  by_cases ascii : c.toNat < 128
  · have each : ∀ n < 128, Utf8.encodeChar (Char.ofNat n).toLower =
        (Utf8.encodeChar (Char.ofNat n)).map small := by decide
    have here := each c.toNat ascii
    rwa [Char.ofNat_toNat] at here
  · -- Neither the character nor one of its octets is a letter.
    have same := toLower_of_not_ascii (Nat.le_of_not_lt ascii)
    have kept (n : Nat) (high : 128 ≤ n) (low : n < 256) :
        small (UInt8.ofNat n) = UInt8.ofNat n := by
      have number : (UInt8.ofNat n).toNat = n := by
        rw [UInt8.toNat_ofNat']
        omega
      rw [small, if_neg (by omega)]
    have bound : c.toNat < 0x110000 := by
      rcases Utf8.isValidChar_toNat c with h | h
      · omega
      · exact h.2
    rw [same]
    unfold Utf8.encodeChar
    dsimp only
    split_ifs
    all_goals
      simp only [List.map_cons, List.map_nil]
      congr
    all_goals
      symm
      apply kept
      all_goals omega

/-- The octets of a text in lower case are the ones of the text with capitals made small. -/
theorem encode_toLower (text : String) :
    Utf8.encode text.toLower.toList = (Utf8.encode text.toList).map small := by
  have lower : text.toLower.toList = text.toList.map Char.toLower := String.toList_map
  rw [lower]
  induction text.toList with
  | nil => rfl
  | cons c text ih =>
    rw [List.map_cons, Utf8.encode_cons, Utf8.encode_cons, List.map_append, ih,
      encodeChar_toLower]

/-- An octet is read as a number exactly if it is the digit of the number, in either case. -/
theorem value?_eq_some_iff {b : UInt8} {n : Nat} :
    value? b = some n ↔ n < 16 ∧ small b = digitOctet n := by
  have octets : ∀ k < 256, value? (small (UInt8.ofNat k)) = value? (UInt8.ofNat k) ∧
      ∀ n ∈ value? (UInt8.ofNat k), n < 16 ∧ small (UInt8.ofNat k) = digitOctet n := by
    decide +kernel
  obtain ⟨either, digit⟩ := octets b.toNat b.toNat_lt
  rw [UInt8.ofNat_toNat] at either digit
  refine ⟨digit n, fun ⟨bound, same⟩ => ?_⟩
  rw [← either, same, value?_digitOctet n bound]

/-- Two octets of text and the ones behind them are digits, in either case, exactly if the first two
are the digits of an octet. -/
theorem map_small_eq_iff {high low : UInt8} {rest bytes : Bytes} :
    (high :: low :: rest).map small = Utf8.encode (digits bytes) ↔
      ∃ h l tail, value? high = some h ∧ value? low = some l ∧
        rest.map small = Utf8.encode (digits tail) ∧ bytes = UInt8.ofNat (16 * h + l) :: tail := by
  constructor
  · intro same
    cases bytes with
    | nil => simp [digits, Utf8.encode] at same
    | cons b tail =>
      have bound := b.toNat_lt
      rw [encode_digits_cons, List.map_cons, List.map_cons] at same
      simp only [List.cons.injEq] at same
      refine ⟨b.toNat / 16, b.toNat % 16, tail, value?_eq_some_iff.2 ⟨by omega, same.1⟩,
        value?_eq_some_iff.2 ⟨by omega, same.2.1⟩, same.2.2, ?_⟩
      rw [Nat.div_add_mod, UInt8.ofNat_toNat]
  · rintro ⟨h, l, tail, readHigh, readLow, same, rfl⟩
    obtain ⟨highBound, highDigit⟩ := value?_eq_some_iff.1 readHigh
    obtain ⟨lowBound, lowDigit⟩ := value?_eq_some_iff.1 readLow
    have number : (UInt8.ofNat (16 * h + l)).toNat = 16 * h + l := by
      rw [UInt8.toNat_ofNat']
      omega
    have quotient : (16 * h + l) / 16 = h := by omega
    have remainder : (16 * h + l) % 16 = l := by omega
    rw [encode_digits_cons, number, quotient, remainder, List.map_cons, List.map_cons, same,
      highDigit, lowDigit]

/-- Octets are read from their digits in either case, and from nothing else. -/
theorem decodeFrom_eq_ok_iff {index : Nat} {read octets bytes : Bytes} :
    decodeFrom index read octets = .ok bytes ↔
      ∃ tail, octets.map small = Utf8.encode (digits tail) ∧ bytes = read.reverse ++ tail := by
  fun_induction decodeFrom index read octets with
  -- By the recursion of the reader: the end, a single octet, either digit unread, and both read.
  | case1 index read =>
    constructor
    · intro done
      exact ⟨[], rfl, by simpa using (Except.ok.inj done).symm⟩
    · rintro ⟨_ | ⟨b, tail⟩, same, rfl⟩
      · rw [List.append_nil]
      · simp [encode_digits_cons] at same
  | case2 index read octet =>
    refine ⟨nofun, ?_⟩
    rintro ⟨tail, same, -⟩
    -- Pairs of digits are even in number.
    have length := congrArg List.length same
    rw [length_encode_digits, List.length_map, List.length_singleton] at length
    omega
  | case3 index read high low rest unread =>
    refine ⟨nofun, ?_⟩
    rintro ⟨tail, same, -⟩
    obtain ⟨h, l, -, readHigh, -⟩ := map_small_eq_iff.1 same
    rw [unread] at readHigh
    cases readHigh
  | case4 index read high low rest h readHigh unread =>
    refine ⟨nofun, ?_⟩
    rintro ⟨tail, same, -⟩
    obtain ⟨-, l, -, -, readLow, -⟩ := map_small_eq_iff.1 same
    rw [unread] at readLow
    cases readLow
  | case5 index read high low rest h readHigh l readLow ih =>
    rw [ih]
    constructor
    · rintro ⟨tail, same, rfl⟩
      refine ⟨UInt8.ofNat (16 * h + l) :: tail,
        map_small_eq_iff.2 ⟨h, l, tail, readHigh, readLow, same, rfl⟩, ?_⟩
      rw [List.reverse_cons, List.append_assoc, List.singleton_append]
    · rintro ⟨bytes, same, rfl⟩
      obtain ⟨h', l', tail, readHigh', readLow', behind, rfl⟩ := map_small_eq_iff.1 same
      obtain rfl := Option.some.inj (readHigh.symm.trans readHigh')
      obtain rfl := Option.some.inj (readLow.symm.trans readLow')
      refine ⟨tail, behind, ?_⟩
      rw [List.reverse_cons, List.append_assoc, List.singleton_append]

/-- Octets are read from their hexadecimal form in either case, and from no other text. -/
theorem decode_eq_ok_iff {text : String} {bytes : Bytes} :
    decode text = .ok bytes ↔ text.toLower = encode bytes := by
  have lower : text.toLower = encode bytes ↔
      (Utf8.encode text.toList).map small = Utf8.encode (digits bytes) := by
    rw [← encode_toLower]
    constructor
    · intro same
      rw [same, encode, String.toList_ofList]
    · intro same
      have chars := congrArg Utf8.decode? same
      rw [Utf8.decode?_encode, Utf8.decode?_encode] at chars
      apply String.toList_injective
      rw [encode, String.toList_ofList]
      exact Option.some.inj chars
  rw [lower, decode]
  split_ifs with odd
  · refine ⟨nofun, fun same => ?_⟩
    have length := congrArg List.length same
    rw [length_encode_digits, List.length_map] at length
    omega
  · rw [decodeFrom_eq_ok_iff]
    simp

/-! ## Texts that are not hexadecimal -/

/-- An octet of text is a hexadecimal digit of either case. -/
def IsDigit (octet : UInt8) : Prop :=
  octet.toNat ∈ "0123456789abcdefABCDEF".toList.map Char.toNat

/-- The digits are the octets that are read as numbers. -/
theorem isDigit_iff {octet : UInt8} : IsDigit octet ↔ ∃ n, value? octet = some n := by
  have alphabet : "0123456789abcdefABCDEF".toList.map Char.toNat =
      [48, 49, 50, 51, 52, 53, 54, 55, 56, 57, 97, 98, 99, 100, 101, 102, 65, 66, 67, 68, 69,
        70] := by
    decide
  have octets : ∀ k < 256, k ∈ [48, 49, 50, 51, 52, 53, 54, 55, 56, 57, 97, 98, 99, 100, 101, 102,
      65, 66, 67, 68, 69, 70] ↔ (value? (UInt8.ofNat k)).isSome := by
    decide +kernel
  have here := octets octet.toNat octet.toNat_lt
  rw [UInt8.ofNat_toNat] at here
  rw [IsDigit, alphabet, here, Option.isSome_iff_exists]

/-- What is wrong with the octets of a text that is not hexadecimal. -/
inductive Fault (octets : Bytes) : HexError → Prop
  /-- Their number is odd. -/
  | oddLength (odd : octets.length % 2 = 1) : Fault octets .oddLength
  /-- Their number is even, and this one is the first that is no digit. -/
  | invalidCharacter {front behind : Bytes} {octet : UInt8} (even : octets.length % 2 = 0)
      (parts : octets = front ++ octet :: behind) (digits : ∀ b ∈ front, IsDigit b)
      (other : ¬ IsDigit octet) : Fault octets (.invalidCharacter octet front.length)

/-- The first octet that is no digit is blamed. -/
theorem decodeFrom_of_other {index : Nat} {read front behind : Bytes} {octet : UInt8}
    (even : (front ++ octet :: behind).length % 2 = 0) (digits : ∀ b ∈ front, IsDigit b)
    (other : ¬ IsDigit octet) :
    decodeFrom index read (front ++ octet :: behind) =
      .error (.invalidCharacter octet (index + front.length)) := by
  have unread : value? octet = none :=
    Option.eq_none_iff_forall_ne_some.2 fun n read => other (isDigit_iff.2 ⟨n, read⟩)
  match front with
  | [] =>
    cases behind with
    | nil => simp at even
    | cons low behind =>
      rw [List.nil_append, decodeFrom, unread]
      rfl
  | [high] =>
    obtain ⟨h, readHigh⟩ := isDigit_iff.1 (digits high (by simp))
    rw [List.singleton_append, decodeFrom, readHigh]
    simp only [unread]
    rfl
  | high :: low :: front =>
    obtain ⟨h, readHigh⟩ := isDigit_iff.1 (digits high (by simp))
    obtain ⟨l, readLow⟩ := isDigit_iff.1 (digits low (by simp))
    have rest := @decodeFrom_of_other (index + 2) (UInt8.ofNat (16 * h + l) :: read) front behind
      octet (by simp only [List.length_append, List.length_cons] at even ⊢; omega)
      (fun b mem => digits b (by simp [mem])) other
    rw [List.cons_append, List.cons_append, decodeFrom, readHigh]
    simp only [readLow, rest, List.length_cons]
    rw [Nat.add_assoc, Nat.add_comm 2]

/-- An even number of digits is read. -/
theorem exists_decodeFrom {index : Nat} {read : Bytes} : ∀ {octets : Bytes},
    octets.length % 2 = 0 → (∀ b ∈ octets, IsDigit b) →
      ∃ bytes, decodeFrom index read octets = .ok bytes
  | [], _, _ => ⟨_, rfl⟩
  | [_], even, _ => by simp at even
  | high :: low :: rest, even, digits => by
    obtain ⟨h, readHigh⟩ := isDigit_iff.1 (digits high (by simp))
    obtain ⟨l, readLow⟩ := isDigit_iff.1 (digits low (by simp))
    obtain ⟨bytes, read⟩ := @exists_decodeFrom (index + 2) (UInt8.ofNat (16 * h + l) :: read) rest
      (by simp only [List.length_cons] at even; omega) fun b mem => digits b (by simp [mem])
    refine ⟨bytes, ?_⟩
    rw [decodeFrom, readHigh]
    simp only [readLow, read]

/-- Octets are digits, or there is a first one that is none. -/
theorem digits_or_other (octets : Bytes) : (∀ b ∈ octets, IsDigit b) ∨
    ∃ front octet behind, octets = front ++ octet :: behind ∧ (∀ b ∈ front, IsDigit b) ∧
      ¬ IsDigit octet := by
  induction octets with
  | nil => exact .inl (by simp)
  | cons b octets ih =>
    by_cases digit : IsDigit b
    · rcases ih with all | ⟨front, octet, behind, rfl, digits, other⟩
      · exact .inl (List.forall_mem_cons.2 ⟨digit, all⟩)
      · exact .inr ⟨b :: front, octet, behind, rfl, List.forall_mem_cons.2 ⟨digit, digits⟩, other⟩
    · exact .inr ⟨[], b, octets, rfl, by simp, digit⟩

/-- A text is blamed for an odd number of octets, or else for the first one that is no digit. -/
theorem decode_eq_error_iff {text : String} {error : HexError} :
    decode text = .error error ↔ Fault (Utf8.encode text.toList) error := by
  rw [decode]
  generalize Utf8.encode text.toList = octets
  have blamed {front behind : Bytes} {octet : UInt8}
      (even : (front ++ octet :: behind).length % 2 = 0) (digits : ∀ b ∈ front, IsDigit b)
      (other : ¬ IsDigit octet) : decodeFrom 0 [] (front ++ octet :: behind) =
        .error (.invalidCharacter octet front.length) := by
    have from_start := @decodeFrom_of_other 0 [] front behind octet even digits other
    rwa [Nat.zero_add] at from_start
  split_ifs with odd
  · constructor
    · rintro ⟨⟩
      exact .oddLength odd
    · rintro (_ | ⟨even, -, -, -⟩)
      · rfl
      · omega
  · have even : octets.length % 2 = 0 := by omega
    constructor
    · intro error_here
      rcases digits_or_other octets with all | ⟨front, octet, behind, rfl, digits, other⟩
      · obtain ⟨bytes, read⟩ := @exists_decodeFrom 0 [] octets even all
        rw [read] at error_here
        cases error_here
      · rw [blamed even digits other] at error_here
        cases error_here
        exact .invalidCharacter even rfl digits other
    · rintro (odd' | ⟨-, rfl, digits, other⟩)
      · omega
      · exact blamed even digits other

/-! ## What characters denote -/

/-- A character is the digit of a number below sixteen, small or capital. -/
def IsDigitOf (n : Nat) (c : Char) : Prop :=
  n < 16 ∧ (c = n.digitChar ∨ c = n.digitChar.toUpper)

/-- The octets that characters denote: two digits for each, the high one first. -/
inductive Denotes : List Char → Bytes → Prop
  /-- No characters denote no octets. -/
  | nil : Denotes [] []
  /-- Two digits denote an octet. -/
  | cons {high low : Char} {h l : Nat} {chars : List Char} {bytes : Bytes}
      (highDigit : IsDigitOf h high) (lowDigit : IsDigitOf l low) (rest : Denotes chars bytes) :
      Denotes (high :: low :: chars) (UInt8.ofNat (16 * h + l) :: bytes)

/-- The characters that are digits. -/
def alphabet : List Char := "0123456789abcdefABCDEF".toList

/-- A character is a digit exactly if its small form is the one that is written. -/
theorem isDigitOf_iff {n : Nat} {c : Char} : IsDigitOf n c ↔ n < 16 ∧ c.toLower = digit n := by
  refine and_congr_right fun bound => ?_
  have written : ∀ n < 16, n.digitChar = digit n ∧ n.digitChar.toUpper.toLower = digit n ∧
      n.digitChar.toLower = digit n ∧ (digit n).toNat < 128 := by decide
  obtain ⟨small, capital, own, ascii⟩ := written n bound
  constructor
  · rintro (rfl | rfl)
    · exact own
    · exact capital
  · intro same
    have low : c.toNat < 128 := by
      by_contra high
      rw [toLower_of_not_ascii (by omega)] at same
      rw [same] at high
      exact high ascii
    have each : ∀ k < 128, ∀ n < 16, (Char.ofNat k).toLower = digit n →
        Char.ofNat k = n.digitChar ∨ Char.ofNat k = n.digitChar.toUpper := by decide +kernel
    have here := each c.toNat low n bound
    rw [Char.ofNat_toNat] at here
    exact here same

/-- The characters that are digits are the ones of the alphabet. -/
theorem exists_isDigitOf_iff {c : Char} : (∃ n, IsDigitOf n c) ↔ c ∈ alphabet := by
  constructor
  · rintro ⟨n, bound, case⟩
    have each : ∀ n < 16, n.digitChar ∈ alphabet ∧ n.digitChar.toUpper ∈ alphabet := by decide
    rcases case with rfl | rfl
    · exact (each n bound).1
    · exact (each n bound).2
  · intro mem
    have each : alphabet.all fun c => (List.range 16).any fun n =>
        c = n.digitChar ∨ c = n.digitChar.toUpper := by decide
    obtain ⟨n, bound, case⟩ := List.any_eq_true.1 (List.all_eq_true.1 each c mem)
    exact ⟨n, List.mem_range.1 bound, of_decide_eq_true case⟩

/-- Characters denote octets exactly if their small forms are the digits of the octets. -/
theorem denotes_iff {chars : List Char} {bytes : Bytes} :
    Denotes chars bytes ↔ chars.map Char.toLower = digits bytes := by
  constructor
  · intro denotes
    induction denotes with
    | nil => rfl
    | @cons high low h l chars bytes highDigit lowDigit rest ih =>
      obtain ⟨highBound, high_eq⟩ := isDigitOf_iff.1 highDigit
      obtain ⟨lowBound, low_eq⟩ := isDigitOf_iff.1 lowDigit
      have number : (UInt8.ofNat (16 * h + l)).toNat = 16 * h + l := by
        rw [UInt8.toNat_ofNat']
        omega
      have quotient : (16 * h + l) / 16 = h := by omega
      have remainder : (16 * h + l) % 16 = l := by omega
      rw [List.map_cons, List.map_cons, ih, high_eq, low_eq, digits, digits, List.flatMap_cons,
        number, quotient, remainder]
      rfl
  · intro same
    induction bytes generalizing chars with
    | nil =>
      rw [digits, List.flatMap_nil, List.map_eq_nil_iff] at same
      exact same ▸ .nil
    | cons b bytes ih =>
      have bound := b.toNat_lt
      rw [digits, List.flatMap_cons] at same
      obtain ⟨high, chars, rfl, high_eq, same⟩ := List.map_eq_cons_iff.1 same
      obtain ⟨low, chars, rfl, low_eq, same⟩ := List.map_eq_cons_iff.1 same
      have denotes := Denotes.cons (isDigitOf_iff.2 ⟨by omega, high_eq⟩)
        (isDigitOf_iff.2 ⟨by omega, low_eq⟩) (ih same)
      rwa [Nat.div_add_mod, UInt8.ofNat_toNat] at denotes

/-- Characters that denote octets are twice as many. -/
theorem Denotes.length_eq {chars : List Char} {bytes : Bytes} (denotes : Denotes chars bytes) :
    chars.length = 2 * bytes.length := by
  induction denotes with
  | nil => rfl
  | cons _ _ _ ih =>
    rw [List.length_cons, List.length_cons, ih, List.length_cons]
    omega

/-- So many characters denote octets exactly if all of them are digits. -/
theorem exists_denotes_iff {size : Nat} {chars : List Char} :
    (∃ bytes, bytes.length = size ∧ Denotes chars bytes) ↔
      chars.length = 2 * size ∧ ∀ c ∈ chars, c ∈ alphabet := by
  constructor
  · rintro ⟨bytes, rfl, denotes⟩
    refine ⟨denotes.length_eq, ?_⟩
    induction denotes with
    | nil => simp
    | cons highDigit lowDigit rest ih =>
      rw [List.forall_mem_cons, List.forall_mem_cons]
      exact ⟨exists_isDigitOf_iff.1 ⟨_, highDigit⟩, exists_isDigitOf_iff.1 ⟨_, lowDigit⟩, ih⟩
  · rintro ⟨length, all⟩
    induction size generalizing chars with
    | zero =>
      obtain rfl := List.length_eq_zero_iff.1 length
      exact ⟨[], rfl, .nil⟩
    | succ size ih =>
      match chars, length, all with
      | high :: low :: chars, length, all =>
        rw [List.forall_mem_cons, List.forall_mem_cons] at all
        obtain ⟨highMem, lowMem, all⟩ := all
        obtain ⟨h, highDigit⟩ := exists_isDigitOf_iff.2 highMem
        obtain ⟨l, lowDigit⟩ := exists_isDigitOf_iff.2 lowMem
        obtain ⟨bytes, rfl, denotes⟩ := ih (by simp only [List.length_cons] at length; omega) all
        exact ⟨_, rfl, .cons highDigit lowDigit denotes⟩

/-! ## Texts of a fixed size -/

/-- What is wrong with the octets of a text that is not the hexadecimal form of so many octets. -/
inductive Misfit (size : Nat) (octets : Bytes) : HexError → Prop
  /-- Their number is odd. -/
  | oddLength (odd : octets.length % 2 = 1) : Misfit size octets .oddLength
  /-- Their number is even, but not the one of the form. -/
  | invalidStringLength (even : octets.length % 2 = 0) (other : octets.length ≠ 2 * size) :
      Misfit size octets .invalidStringLength
  /-- Their number is the one of the form, and this one is the first that is no digit. -/
  | invalidCharacter {front behind : Bytes} {octet : UInt8} (length : octets.length = 2 * size)
      (parts : octets = front ++ octet :: behind) (digits : ∀ b ∈ front, IsDigit b)
      (other : ¬ IsDigit octet) : Misfit size octets (.invalidCharacter octet front.length)

/-- A text of an acceptable length is read as any other one. -/
theorem decodeExactly_eq {size : Nat} {text : String} :
    decodeExactly size text =
      if (Utf8.encode text.toList).length % 2 = 0 ∧ (Utf8.encode text.toList).length ≠ 2 * size then
        .error .invalidStringLength
      else decode text := by
  rw [decodeExactly, decode]
  split_ifs with odd other wrong wrong
  all_goals first | rfl | omega

/-- A text of a fixed size is read as the octets that its characters denote. -/
theorem decodeExactly_eq_ok_iff {size : Nat} {text : String} {bytes : Bytes} :
    decodeExactly size text = .ok bytes ↔ bytes.length = size ∧ Denotes text.toList bytes := by
  have lower : text.toLower.toList = text.toList.map Char.toLower := String.toList_map
  have read : decode text = .ok bytes ↔ Denotes text.toList bytes := by
    rw [decode_eq_ok_iff, denotes_iff, ← lower, encode, ← String.toList_inj,
      String.toList_ofList]
  have length (denotes : Denotes text.toList bytes) :
      (Utf8.encode text.toList).length = 2 * bytes.length := by
    have same := congrArg List.length (encode_toLower text)
    rw [lower, denotes_iff.1 denotes, length_encode_digits, List.length_map] at same
    exact same.symm
  rw [decodeExactly_eq]
  split_ifs with wrong
  · refine ⟨nofun, fun ⟨size_eq, denotes⟩ => ?_⟩
    have := length denotes
    omega
  · rw [read]
    refine ⟨fun denotes => ⟨?_, denotes⟩, And.right⟩
    have := length denotes
    omega

/-- A text of a fixed size is blamed for an odd number of octets, for their number, or for the first
one that is no digit. -/
theorem decodeExactly_eq_error_iff {size : Nat} {text : String} {error : HexError} :
    decodeExactly size text = .error error ↔ Misfit size (Utf8.encode text.toList) error := by
  rw [decodeExactly_eq]
  split_ifs with wrong
  · constructor
    · rintro ⟨⟩
      exact .invalidStringLength wrong.1 wrong.2
    · rintro (odd | _ | length)
      · omega
      · rfl
      · exact absurd length wrong.2
  · rw [decode_eq_error_iff]
    constructor
    · rintro (odd | ⟨even, parts, digits, other⟩)
      · exact .oddLength odd
      · exact .invalidCharacter (by omega) parts digits other
    · rintro (odd | ⟨even, other⟩ | ⟨length, parts, digits, other⟩)
      · exact .oddLength odd
      · exact absurd ⟨even, other⟩ wrong
      · exact .invalidCharacter (by omega) parts digits other

end PeerLink.Hex
