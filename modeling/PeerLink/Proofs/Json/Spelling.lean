import Mathlib.Data.List.DropRight
import PeerLink.Proofs.Json.Trees

/-!
# The spellings of JSON values

A value is spelled in many ways: blanks may stand between any two tokens, a character may be escaped
or not, and a number has more than one form. `Spells` has all spellings of the values that are read:
the ones whose strings are Unicode text and whose numbers are in the range of the reader.

A string and a number are taken from any of their spellings (`scanString_spelled`,
`scanNumber_spelled`).
-/

namespace PeerLink.Json

/-! ## The grammar -/

/-- Octets that are blanks. -/
def Blank (octets : Bytes) : Prop :=
  ∀ b ∈ octets, b ∈ ([32, 9, 10, 13] : Bytes)

/-- The octets that stand behind a backslash for a character. -/
def shortEscapes : List (UInt8 × Char) :=
  [(34, '"'), (92, '\\'), (47, '/'), (98, '\x08'), (102, '\x0c'), (110, '\n'), (114, '\r'),
    (116, '\t')]

/-- Octets that spell a character of a string. -/
inductive SpellsChar : Bytes → Char → Prop
  /-- A character stands for itself. -/
  | plain {c : Char} (no_mark : c ≠ '"') (no_escape : c ≠ '\\') (no_control : 32 ≤ c.toNat) :
      SpellsChar (Utf8.encodeChar c) c
  /-- A character is escaped by one octet. -/
  | short {b : UInt8} {c : Char} (known : (b, c) ∈ shortEscapes) : SpellsChar [92, b] c
  /-- A character is escaped by the four hexadecimal digits of its code point. -/
  | word {w x y z : UInt8} {c : Char} (word : hexWord? w x y z = some c.toNat) :
      SpellsChar [92, 117, w, x, y, z] c
  /-- A character is escaped by a high and a low surrogate. -/
  | surrogates {w x y z w' x' y' z' : UInt8} {high low : Nat} {c : Char}
      (first : hexWord? w x y z = some (0xd800 + high))
      (second : hexWord? w' x' y' z' = some (0xdc00 + low)) (high_lt : high < 1024)
      (low_lt : low < 1024) (point : c.toNat = 0x10000 + 1024 * high + low) :
      SpellsChar [92, 117, w, x, y, z, 92, 117, w', x', y', z'] c

/-- Octets that spell characters one after the other. -/
inductive SpellsChars : Bytes → List Char → Prop
  /-- No character. -/
  | nil : SpellsChars [] []
  /-- A character, and more of them. -/
  | cons {first later : Bytes} {c : Char} {chars : List Char} (spells : SpellsChar first c)
      (rest : SpellsChars later chars) : SpellsChars (first ++ later) (c :: chars)

/-- Octets that spell digits, at least one. -/
structure SpellsDigits (octets : Bytes) (digits : List Nat) : Prop where
  /-- There is a digit. -/
  nonempty : octets ≠ []
  /-- There are only digits. -/
  digit : ∀ b ∈ octets, Number.isDigit b = true
  /-- The digits have these values. -/
  value : digits = octets.map fun b => b.toNat - 48

/-- Octets that spell the digits behind the point of a number. -/
inductive SpellsFraction : Bytes → Option (List Nat) → Prop
  /-- There is no point. -/
  | none : SpellsFraction [] none
  /-- A point and digits. -/
  | some {octets : Bytes} {digits : List Nat} (spells : SpellsDigits octets digits) :
      SpellsFraction (46 :: octets) (some digits)

/-- Octets that spell the exponent of a number. -/
inductive SpellsExponent : Bytes → Option (Bool × List Nat) → Prop
  /-- There is no exponent. -/
  | none : SpellsExponent [] none
  /-- An exponent without a sign. -/
  | unsigned {mark : UInt8} {octets : Bytes} {digits : List Nat} (marks : mark = 101 ∨ mark = 69)
      (spells : SpellsDigits octets digits) :
      SpellsExponent (mark :: octets) (some (false, digits))
  /-- An exponent with a plus sign. -/
  | plus {mark : UInt8} {octets : Bytes} {digits : List Nat} (marks : mark = 101 ∨ mark = 69)
      (spells : SpellsDigits octets digits) :
      SpellsExponent (mark :: 43 :: octets) (some (false, digits))
  /-- An exponent with a minus sign. -/
  | minus {mark : UInt8} {octets : Bytes} {digits : List Nat} (marks : mark = 101 ∨ mark = 69)
      (spells : SpellsDigits octets digits) :
      SpellsExponent (mark :: 45 :: octets) (some (true, digits))

/-- Octets that spell a number. -/
inductive SpellsNumber : Bytes → Number.Lexeme → Prop
  /-- A sign, digits before the point, where a zero stands alone, a fraction and an exponent. -/
  | mk {negative : Bool} {whole fraction exponent : Bytes} {digits : List Nat}
      {decimals : Option (List Nat)} {power : Option (Bool × List Nat)}
      (spellsWhole : SpellsDigits whole digits) (alone : ∀ rest, digits = 0 :: rest → rest = [])
      (spellsFraction : SpellsFraction fraction decimals)
      (spellsExponent : SpellsExponent exponent power) :
      SpellsNumber ((if negative then [45] else []) ++ (whole ++ (fraction ++ exponent)))
        ⟨negative, digits, decimals, power⟩

/-- A member of an object as it is spelled. -/
structure MemberText where
  /-- The blanks in front of the name. -/
  lead : Bytes
  /-- The octets of the name between its marks. -/
  name : Bytes
  /-- The blanks in front of the colon. -/
  gap : Bytes
  /-- The octets of the value, with the blanks around it. -/
  value : Bytes

namespace MemberText

/-- The octets of a member. -/
def octets (text : MemberText) : Bytes :=
  text.lead ++ 34 :: (text.name ++ 34 :: (text.gap ++ 58 :: text.value))

/-- A member is spelled with this name. -/
structure Names (text : MemberText) (name : String) : Prop where
  /-- There are blanks in front of the name. -/
  lead : Blank text.lead
  /-- The name is spelled between its marks. -/
  name : SpellsChars text.name name.toList
  /-- There are blanks in front of the colon. -/
  gap : Blank text.gap

end MemberText

/-- Octets that spell a value of at most so many levels of arrays and objects. -/
inductive Spells : Nat → Bytes → Json → Prop
  /-- The word `null`. -/
  | null {depth : Nat} : Spells depth [110, 117, 108, 108] null
  /-- The word `true`. -/
  | true {depth : Nat} : Spells depth [116, 114, 117, 101] (bool true)
  /-- The word `false`. -/
  | false {depth : Nat} : Spells depth [102, 97, 108, 115, 101] (bool false)
  /-- A number in the range of the reader. -/
  | number {depth : Nat} {octets : Bytes} {x : Number.Lexeme} {n : Number}
      (spells : SpellsNumber octets x) (in_range : Number.eval? x = some n) :
      Spells depth octets (number n)
  /-- A string. -/
  | string {depth : Nat} {octets : Bytes} {s : String} (spells : SpellsChars octets s.toList) :
      Spells depth (34 :: (octets ++ [34])) (string s)
  /-- An array, with commas between its elements. -/
  | array {depth : Nat} {gap : Bytes} {elements : List (Bytes × Json)} (blank : Blank gap)
      (parts : ∀ element ∈ elements, Spells depth element.1 element.2) :
      Spells (depth + 1) (91 :: (gap ++ ([44].intercalate (elements.map (·.1)) ++ [93])))
        (array (elements.map (·.2)))
  /-- An object, with commas between its members. -/
  | object {depth : Nat} {gap : Bytes} {members : List (MemberText × String × Json)}
      (blank : Blank gap) (names : ∀ member ∈ members, member.1.Names member.2.1)
      (parts : ∀ member ∈ members, Spells depth member.1.value member.2.2) :
      Spells (depth + 1) (123 :: (gap ++ ([44].intercalate (members.map (·.1.octets)) ++ [125])))
        (object (members.map (·.2)))
  /-- A value with blanks around it. -/
  | blank {depth : Nat} {front octets back : Bytes} {value : Json} (front_blank : Blank front)
      (back_blank : Blank back) (spells : Spells depth octets value) :
      Spells depth (front ++ (octets ++ back)) value

/-! ## Blanks -/

/-- Blanks are the octets that are skipped. -/
theorem Blank.isSpace {octets : Bytes} (blank : Blank octets) : ∀ b ∈ octets, isSpace b = true := by
  intro b mem
  have known := blank b mem
  simp only [List.mem_cons, List.not_mem_nil, or_false] at known
  rcases known with rfl | rfl | rfl | rfl <;> rfl

/-- Blanks in front of a text are skipped. -/
theorem Blank.skipSpace_append {octets : Bytes} (blank : Blank octets) (text : Bytes) :
    skipSpace (octets ++ text) = skipSpace text := by
  rw [skipSpace, List.dropWhile_append_of_pos blank.isSpace, skipSpace]

/-- An octet that is no blank is not skipped. -/
theorem skipSpace_cons {b : UInt8} (no_space : isSpace b = false) (text : Bytes) :
    skipSpace (b :: text) = b :: text := by
  rw [skipSpace, List.dropWhile_cons, no_space]
  rfl

/-- What is left behind blanks begins with no blank. -/
theorem skipSpace_of_eq_cons {b : UInt8} {text rest : Bytes} (here : skipSpace text = b :: rest) :
    skipSpace (b :: rest) = b :: rest := by
  rw [← here, skipSpace, skipSpace, List.dropWhile_idempotent]

/-- A text that begins with something else than blanks is skipped to that whatever follows it. -/
theorem skipSpace_append {b : UInt8} {octets rest : Bytes} (here : skipSpace octets = b :: rest)
    (text : Bytes) : skipSpace (octets ++ text) = b :: (rest ++ text) := by
  have first : octets.dropWhile isSpace = b :: rest := here
  rw [skipSpace, List.dropWhile_append, first]
  rfl

/-- A choice on what is behind blanks is made by the octet that is there. -/
theorem match_skipSpace {γ : Type} {input rest : Bytes} {b : UInt8}
    (here : skipSpace input = b :: rest) (truncated : γ)
    (found : ∀ b rest, skipSpace input = b :: rest → γ) :
    (match h : skipSpace input with
      | [] => truncated
      | b :: rest => found b rest h) = found b rest here := by
  split
  · rename_i h
    rw [here] at h
    cases h
  · rename_i h
    obtain ⟨rfl, rfl⟩ := List.cons.inj (here.symm.trans h)
    rfl

/-- A text that is over, or goes on with a blank, a comma or the end of a container. -/
def Delimited (text : Bytes) : Prop :=
  ∀ b rest, text = b :: rest → b ∈ ([32, 9, 10, 13, 44, 93, 125] : Bytes)

/-- Blanks in front of a delimited text delimit. -/
theorem Blank.delimited {octets text : Bytes} (blank : Blank octets) (delimited : Delimited text) :
    Delimited (octets ++ text) := by
  cases octets with
  | nil => exact delimited
  | cons b octets =>
    rintro b' rest ⟨⟩
    have known := blank b List.mem_cons_self
    simp only [List.mem_cons, List.not_mem_nil, or_false] at known ⊢
    tauto

/-! ## Strings -/

/-- The code point of a character is none of the surrogates. -/
theorem no_surrogate (c : Char) :
    ¬ (0xdc00 ≤ c.toNat ∧ c.toNat < 0xe000) ∧ ¬ (0xd800 ≤ c.toNat ∧ c.toNat < 0xdc00) := by
  have valid := Utf8.isValidChar_toNat c
  omega

/-- A character is taken from any of its spellings. -/
theorem stringOctets_spellsChar {input octets : Bytes} {c : Char} (spells : SpellsChar octets c)
    (done text : Bytes) (h : (octets ++ text).length ≤ input.length)
    (h' : text.length ≤ input.length) :
    stringOctets input done 0 (octets ++ text) h =
      stringOctets input ((Utf8.encodeChar c).reverse ++ done) 0 text h' := by
  have character : Char.ofNat c.toNat = c := Char.ofNat_toNat c
  -- A character stands for itself, behind a backslash, as one word, or as a pair of surrogates.
  cases spells with
  | plain no_mark no_escape no_control =>
    have mark : c.toNat ≠ 34 := fun number => no_mark (Char.toNat_inj.1 number)
    have slash : c.toNat ≠ 92 := fun number => no_escape (Char.toNat_inj.1 number)
    have plain : ∀ b ∈ Utf8.encodeChar c, Plain b :=
      fun b mem => plain_of_mem_encodeChar mark slash no_control mem
    exact stringOctets_plain plain done text h h'
  | @short b c known =>
    refine stringOctets_escape [b] _ text ?_ done h h'
    simp only [shortEscapes, List.mem_cons, List.not_mem_nil, or_false, Prod.mk.injEq] at known
    rcases known with ⟨rfl, rfl⟩ | ⟨rfl, rfl⟩ | ⟨rfl, rfl⟩ | ⟨rfl, rfl⟩ | ⟨rfl, rfl⟩ | ⟨rfl, rfl⟩ |
      ⟨rfl, rfl⟩ | ⟨rfl, rfl⟩ <;> rfl
  | @word w x y z c word =>
    obtain ⟨not_low, not_high⟩ := no_surrogate c
    refine stringOctets_escape [117, w, x, y, z] _ text ?_ done h h'
    show escape (117 :: w :: x :: y :: z :: text) = _
    simp only [escape, codePointEscape, word, if_neg not_low, if_neg not_high, character]
    rfl
  | @surrogates w x y z w' x' y' z' high low c first second high_lt low_lt point =>
    have not_low : ¬ (0xdc00 ≤ 0xd800 + high ∧ 0xd800 + high < 0xe000) := by omega
    have is_high : 0xd800 ≤ 0xd800 + high ∧ 0xd800 + high < 0xdc00 := by omega
    have is_low : 0xdc00 ≤ 0xdc00 + low ∧ 0xdc00 + low < 0xe000 := by omega
    refine stringOctets_escape [117, w, x, y, z, 92, 117, w', x', y', z'] _ text ?_ done h h'
    show escape (117 :: w :: x :: y :: z :: 92 :: 117 :: w' :: x' :: y' :: z' :: text) = _
    simp only [escape, codePointEscape, first, second, if_neg not_low, if_pos is_high,
      if_pos is_low, Nat.add_sub_cancel_left, ← point, character]
    rfl

/-- The characters of a string are taken from their spelling. -/
theorem stringOctets_spellsChars {input octets : Bytes} {chars : List Char}
    (spells : SpellsChars octets chars) (done text : Bytes)
    (h : (octets ++ text).length ≤ input.length) (h' : text.length ≤ input.length) :
    stringOctets input done 0 (octets ++ text) h =
      stringOctets input ((Utf8.encode chars).reverse ++ done) 0 text h' := by
  induction spells generalizing done with
  | nil => rfl
  | @cons first later c chars spells rest ih =>
    have behind : (later ++ text).length ≤ input.length := by
      simp only [List.length_append] at h ⊢
      omega
    simp only [List.append_assoc] at h ⊢
    rw [stringOctets_spellsChar spells done _ h behind, ih _ behind, Utf8.encode_cons,
      List.reverse_append, List.append_assoc]

/-- A string is taken from its spelling. -/
theorem scanString_spelled {octets : Bytes} {s : String} (spells : SpellsChars octets s.toList)
    (text : Bytes) : ∃ shorter, scanString (octets ++ 34 :: text) = .ok ⟨s, text, shorter⟩ := by
  have behind : text.length < (octets ++ 34 :: text).length := by
    simp only [List.length_append, List.length_cons]
    omega
  have taken : stringOctets (octets ++ 34 :: text) [] 0 (octets ++ 34 :: text)
      (length_self_le _) = .ok ⟨Utf8.encode s.toList, text, behind⟩ := by
    rw [stringOctets_spellsChars spells [] (34 :: text) _ behind, stringOctets, if_pos rfl]
    simp only [List.append_nil, List.reverse_reverse]
  refine ⟨behind, ?_⟩
  rw [scanString, taken]
  simp only [Utf8.decode?_encode, String.ofList_toList]
  rfl

/-! ## Numbers -/

/-- A text that is over, or goes on with nothing that continues a number. -/
def NumberEnd (text : Bytes) : Prop :=
  ∀ b rest, text = b :: rest → Number.isDigit b = false ∧ b ≠ 46 ∧ b ≠ 101 ∧ b ≠ 69

/-- A delimited text does not continue a number. -/
theorem Delimited.numberEnd {text : Bytes} (delimited : Delimited text) : NumberEnd text := by
  intro b rest here
  have known := delimited b rest here
  simp only [List.mem_cons, List.not_mem_nil, or_false] at known
  rcases known with rfl | rfl | rfl | rfl | rfl | rfl | rfl <;> decide

/-- A text that is over, or goes on with something else than a digit. -/
def NoDigit (text : Bytes) : Prop :=
  ∀ b rest, text = b :: rest → Number.isDigit b = false

/-- Digits are taken up to something else. -/
theorem digits_spelled {octets text : Bytes} {digits : List Nat}
    (spells : SpellsDigits octets digits) (ends : NoDigit text) :
    Number.digits (octets ++ text) = digits ∧ Number.afterDigits (octets ++ text) = text := by
  have taken : text.takeWhile Number.isDigit = [] := by
    cases text with
    | nil => rfl
    | cons b rest => rw [List.takeWhile_cons, ends b rest rfl]; rfl
  have dropped : text.dropWhile Number.isDigit = text := by
    cases text with
    | nil => rfl
    | cons b rest => rw [List.dropWhile_cons, ends b rest rfl]; rfl
  constructor
  · rw [Number.digits, List.takeWhile_append_of_pos spells.digit, taken, List.append_nil,
      spells.value]
  · rw [Number.afterDigits, List.dropWhile_append_of_pos spells.digit, dropped]

/-- There are digits where they are spelled. -/
theorem SpellsDigits.ne_nil {octets : Bytes} {digits : List Nat}
    (spells : SpellsDigits octets digits) : digits ≠ [] := by
  rw [spells.value]
  exact fun empty => spells.nonempty (List.map_eq_nil_iff.1 empty)

/-- The digits before the point are cut from their spelling. -/
theorem cutWhole_spelled {octets text : Bytes} {digits : List Nat}
    (spells : SpellsDigits octets digits) (alone : ∀ rest, digits = 0 :: rest → rest = [])
    (ends : NoDigit text) : Number.cutWhole (octets ++ text) = .ok (digits, text) := by
  obtain ⟨taken, left⟩ := digits_spelled spells ends
  rw [Number.cutWhole, taken]
  split
  · exact absurd rfl spells.ne_nil
  · exact absurd (alone _ rfl) (by simp)
  · rw [left]

/-- The fraction is cut from its spelling. -/
theorem cutFraction_spelled {octets text : Bytes} {decimals : Option (List Nat)}
    (spells : SpellsFraction octets decimals) (no_digit : NoDigit text)
    (no_point : ∀ b rest, text = b :: rest → b ≠ 46) :
    Number.cutFraction (octets ++ text) = .ok (decimals, text) := by
  cases spells with
  | none =>
    cases text with
    | nil => rfl
    | cons b rest =>
      rw [List.nil_append, Number.cutFraction, if_neg (no_point b rest rfl)]
  | some spells =>
    obtain ⟨taken, left⟩ := digits_spelled spells no_digit
    rw [List.cons_append, Number.cutFraction, if_pos rfl, taken, left, if_neg spells.ne_nil]

/-- The exponent is cut from its spelling. -/
theorem cutExponent_spelled {octets text : Bytes} {power : Option (Bool × List Nat)}
    (spells : SpellsExponent octets power) (ends : NumberEnd text) :
    Number.cutExponent (octets ++ text) = .ok (power, text) := by
  have no_digit : NoDigit text := fun b rest here => (ends b rest here).1
  -- Without a mark the text goes on with something that is no mark.
  cases spells with
  | none =>
    cases text with
    | nil => rfl
    | cons b rest =>
      obtain ⟨-, -, small, large⟩ := ends b rest rfl
      rw [List.nil_append, Number.cutExponent, if_neg (not_or.2 ⟨small, large⟩)]
  | @unsigned mark octets digits marks spells =>
    obtain ⟨taken, left⟩ := digits_spelled spells no_digit
    obtain ⟨first, more, rfl⟩ := List.exists_cons_of_ne_nil spells.nonempty
    have digit := spells.digit first List.mem_cons_self
    have no_minus : first ≠ 45 := by rintro rfl; simp [Number.isDigit] at digit
    have no_plus : first ≠ 43 := by rintro rfl; simp [Number.isDigit] at digit
    have unsigned : Number.afterSign (first :: more ++ text) = first :: more ++ text := by
      simp [Number.afterSign, no_minus, no_plus]
    rw [List.cons_append, Number.cutExponent, if_pos marks, unsigned, taken, left,
      if_neg spells.ne_nil]
    simp [no_minus]
  | @plus mark octets digits marks spells =>
    obtain ⟨taken, left⟩ := digits_spelled spells no_digit
    have signed : Number.afterSign (43 :: (octets ++ text)) = octets ++ text := rfl
    rw [List.cons_append, List.cons_append, Number.cutExponent, if_pos marks, signed, taken, left,
      if_neg spells.ne_nil]
    rfl
  | @minus mark octets digits marks spells =>
    obtain ⟨taken, left⟩ := digits_spelled spells no_digit
    have signed : Number.afterSign (45 :: (octets ++ text)) = octets ++ text := rfl
    rw [List.cons_append, List.cons_append, Number.cutExponent, if_pos marks, signed, taken, left,
      if_neg spells.ne_nil]
    rfl

/-- An exponent, or what follows a number without one, continues neither digits nor a fraction. -/
theorem SpellsExponent.first {octets text : Bytes} {power : Option (Bool × List Nat)}
    (spells : SpellsExponent octets power) (ends : NumberEnd text) (b : UInt8) (rest : Bytes)
    (here : octets ++ text = b :: rest) : Number.isDigit b = false ∧ b ≠ 46 := by
  have known {mark : UInt8} (marks : mark = 101 ∨ mark = 69) :
      Number.isDigit mark = false ∧ mark ≠ 46 := by
    rcases marks with rfl | rfl <;> decide
  cases spells with
  | none => exact ⟨(ends b rest here).1, (ends b rest here).2.1⟩
  | unsigned marks => exact (List.cons.inj here).1 ▸ known marks
  | plus marks => exact (List.cons.inj here).1 ▸ known marks
  | minus marks => exact (List.cons.inj here).1 ▸ known marks

/-- A number is cut from its spelling. -/
theorem cut_spelled {octets text : Bytes} {x : Number.Lexeme} (spells : SpellsNumber octets x)
    (ends : NumberEnd text) : Number.cut (octets ++ text) = .ok (x, text) := by
  cases spells with
  | @mk negative whole fraction exponent digits decimals power spellsWhole alone spellsFraction
      spellsExponent =>
  -- Each part of the number ends where the next one begins: at no digit, and at no point.
  have no_digit : NoDigit (exponent ++ text) :=
    fun b rest here => (spellsExponent.first ends b rest here).1
  have no_point : ∀ b rest, exponent ++ text = b :: rest → b ≠ 46 :=
    fun b rest here => (spellsExponent.first ends b rest here).2
  have no_digit' : NoDigit (fraction ++ (exponent ++ text)) := by
    cases spellsFraction with
    | none => exact no_digit
    | some => rintro b rest ⟨⟩; rfl
  have behindWhole := cutWhole_spelled spellsWhole alone no_digit'
  have behindFraction := cutFraction_spelled spellsFraction no_digit no_point
  have behindExponent := cutExponent_spelled spellsExponent ends
  obtain ⟨first, more, rfl⟩ := List.exists_cons_of_ne_nil spellsWhole.nonempty
  have digit := spellsWhole.digit first List.mem_cons_self
  have no_minus : first ≠ 45 := by rintro rfl; simp [Number.isDigit] at digit
  cases negative with
  | false =>
    have no_sign :
        ((first :: more ++ (fraction ++ (exponent ++ text))).head? == some 45) = false := by
      simp [no_minus]
    have whole : (if false = true then [45] else []) ++ (first :: more ++ (fraction ++ exponent)) ++
        text = first :: more ++ (fraction ++ (exponent ++ text)) := by
      simp
    rw [whole]
    simp only [Number.cut, no_sign, Bool.false_eq_true, if_false, behindWhole, behindFraction,
      behindExponent, bind, Except.bind]
  | true =>
    have whole : (if true = true then [45] else []) ++ (first :: more ++ (fraction ++ exponent)) ++
        text = 45 :: (first :: more ++ (fraction ++ (exponent ++ text))) := by
      simp
    have sign : ((45 :: (first :: more ++ (fraction ++ (exponent ++ text)))).head? == some 45) =
        true := rfl
    rw [whole]
    simp only [Number.cut, sign, if_true, List.drop_one, List.tail_cons, behindWhole,
      behindFraction, behindExponent, bind, Except.bind]

/-- A number is taken from its spelling if it is in the range of the reader. -/
theorem scanNumber_spelled {octets text : Bytes} {x : Number.Lexeme} {n : Number}
    (spells : SpellsNumber octets x) (in_range : Number.eval? x = some n) (ends : NumberEnd text) :
    ∃ shorter, scanNumber (octets ++ text) = .ok ⟨n, text, shorter⟩ := by
  have taken := cut_spelled spells ends
  refine ⟨Number.length_cut taken, ?_⟩
  unfold scanNumber
  split
  · rename_i fault h
    rw [taken] at h
    cases h
  · rename_i lexeme rest h
    rw [taken] at h
    cases h
    simp only [in_range]

end PeerLink.Json
