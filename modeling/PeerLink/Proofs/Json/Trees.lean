import PeerLink.Json.Decoder
import PeerLink.Proofs.Json.Strings
import PeerLink.Proofs.Text.Digits

/-!
# Trees are read as they are written
-/

namespace PeerLink

namespace Binary64

/-- There are characters in the text of digits, wherever the point is. -/
theorem layout_ne_nil {digits : List Char} (some_digits : digits ≠ []) (exponent : Int) :
    layout digits exponent ≠ [] := by
  unfold layout
  dsimp only
  split_ifs
  · simp
  · simp
  · simp
  all_goals
    cases digits with
    | nil => exact absurd rfl some_digits
    | cons d rest => cases rest <;> simp

/-- There are characters in the text of a double. -/
theorem chars_ne_nil (x : Binary64) : x.chars ≠ [] := by
  have some_digits := Text.Decimal.digits_ne_nil (shortest x.units).1
  have some_chars := layout_ne_nil some_digits (shortest x.units).2
  unfold chars
  dsimp only
  by_cases zero : x.units = 0
  · simp [zero]
  · simp [zero, some_chars]

end Binary64

namespace Json

mutual

/-- What is written behind other characters does not depend on them. -/
theorem writeAfter_append (done done' : List Char) : (value : Json) →
    writeAfter (done ++ done') value = writeAfter done value ++ done'
  | null => by simp [writeAfter, List.reverseAux_eq]
  | bool b => by simp [writeAfter, List.reverseAux_eq]
  | number n => by simp [writeAfter, List.reverseAux_eq]
  | string s => by simp [writeAfter, writeString_eq, List.reverseAux_eq]
  | array elements => by
    rw [writeAfter, writeAfter, ← List.cons_append, writeElements_append, List.cons_append]
  | object members => by
    rw [writeAfter, writeAfter, ← List.cons_append, writeMembers_append, List.cons_append]

/-- What is written behind other characters does not depend on them. -/
theorem writeElements_append (done done' : List Char) (first : Bool) : (elements : List Json) →
    writeElements (done ++ done') first elements = writeElements done first elements ++ done'
  | [] => rfl
  | element :: rest => by
    cases first with
    | true => simp only [writeElements, if_true, writeAfter_append, writeElements_append]
    | false =>
      simp only [writeElements, Bool.false_eq_true, if_false, ← List.cons_append,
        writeAfter_append, writeElements_append]

/-- What is written behind other characters does not depend on them. -/
theorem writeMembers_append (done done' : List Char) (first : Bool) :
    (members : List (String × Json)) →
      writeMembers (done ++ done') first members = writeMembers done first members ++ done'
  | [] => rfl
  | (name, value) :: rest => by
    cases first with
    | true =>
      simp only [writeMembers, if_true, writeString_eq, List.reverseAux_eq, ← List.append_assoc,
        ← List.cons_append, writeAfter_append, writeMembers_append]
    | false =>
      simp only [writeMembers, Bool.false_eq_true, if_false, writeString_eq, List.reverseAux_eq,
        ← List.append_assoc, ← List.cons_append, writeAfter_append, writeMembers_append]

end

/-! ## The octets of a tree -/

/-- The octets of the elements of an array, with its end. -/
def elementsOctets (first : Bool) : List Json → Bytes
  | [] => [93]
  | element :: rest =>
    (if first then [] else [44]) ++ (element.encode ++ elementsOctets false rest)

/-- The octets of a member of an object. -/
def memberOctets (name : String) (value : Json) : Bytes :=
  34 :: (tailOctets name ++ 58 :: value.encode)

/-- The octets of the members of an object, with its end. -/
def membersOctets (first : Bool) : List (String × Json) → Bytes
  | [] => [125]
  | (name, value) :: rest =>
    (if first then [] else [44]) ++ (memberOctets name value ++ membersOctets false rest)

/-- Separators between parts stand in front of all but the first one. -/
theorem intercalate_cons_flatMap {α : Type} (separator part : List α) (parts : List (List α)) :
    separator.intercalate (part :: parts) = part ++ parts.flatMap (separator ++ ·) := by
  induction parts generalizing part with
  | nil => rw [List.intercalate_singleton, List.flatMap_nil, List.append_nil]
  | cons part' parts ih =>
    rw [List.intercalate_cons_cons, ih, List.flatMap_cons, List.append_assoc, List.append_assoc]

/-- Elements of an array are written with commas between them. -/
theorem elementsOctets_eq_intercalate (elements : List Json) :
    elementsOctets true elements = [44].intercalate (elements.map encode) ++ [93] := by
  have later (elements : List Json) :
      elementsOctets false elements = (elements.map encode).flatMap ([44] ++ ·) ++ [93] := by
    induction elements with
    | nil => rfl
    | cons element rest ih => simp [elementsOctets, ih]
  cases elements with
  | nil => rfl
  | cons element rest =>
    rw [elementsOctets, List.map_cons, intercalate_cons_flatMap, later, List.append_assoc]
    rfl

/-- The characters of a value stand behind the ones that were written before. -/
theorem reverse_writeAfter (done : List Char) (value : Json) :
    (writeAfter done value).reverse = done.reverse ++ value.chars := by
  have append := writeAfter_append [] done value
  rw [List.nil_append] at append
  rw [append, List.reverse_append, chars]

/-- The octets of a string. -/
theorem encode_stringChars (s : String) : Utf8.encode (stringChars s) = 34 :: tailOctets s := by
  rw [stringChars, Utf8.encode, List.flatMap_cons, List.flatMap_append]
  rfl

/-- The octets of a string. -/
theorem encode_string (s : String) : (string s).encode = 34 :: tailOctets s := by
  rw [← encode_stringChars, encode, chars, writeAfter, writeString_eq, List.reverseAux_eq,
    List.append_nil, List.reverse_reverse]

/-- The octets of the elements of an array stand behind what was written before. -/
theorem encode_writeElements (done : List Char) (first : Bool) (elements : List Json) :
    Utf8.encode ((']' :: writeElements done first elements).reverse) =
      Utf8.encode done.reverse ++ elementsOctets first elements := by
  induction elements generalizing done first with
  | nil =>
    rw [writeElements, List.reverse_cons, Utf8.encode_append]
    rfl
  | cons element rest ih =>
    rw [writeElements, ih, reverse_writeAfter, Utf8.encode_append, elementsOctets, ← encode]
    cases first with
    | true => simp
    | false =>
      have comma : Utf8.encode [','] = [44] := rfl
      simp [Utf8.encode_append, comma]

/-- The octets of an array. -/
theorem encode_array (elements : List Json) :
    (array elements).encode = 91 :: elementsOctets true elements := by
  rw [encode, chars, writeAfter, encode_writeElements]
  rfl

/-- The octets of the members of an object stand behind what was written before. -/
theorem encode_writeMembers (done : List Char) (first : Bool) (members : List (String × Json)) :
    Utf8.encode (('\x7d' :: writeMembers done first members).reverse) =
      Utf8.encode done.reverse ++ membersOctets first members := by
  induction members generalizing done first with
  | nil =>
    rw [writeMembers, List.reverse_cons, Utf8.encode_append]
    rfl
  | cons member rest ih =>
    obtain ⟨name, value⟩ := member
    have colon : Utf8.encode [':'] = [58] := rfl
    have comma : Utf8.encodeChar ',' = [44] := rfl
    rw [writeMembers, ih, reverse_writeAfter, Utf8.encode_append, membersOctets, memberOctets,
      ← encode]
    cases first with
    | true =>
      simp [Utf8.encode_append, writeString_eq, List.reverseAux_eq, encode_stringChars, colon]
    | false =>
      simp [Utf8.encode_append, Utf8.encode_cons, writeString_eq, List.reverseAux_eq,
        encode_stringChars, colon, comma]

/-- The octets of an object. -/
theorem encode_object (members : List (String × Json)) :
    (object members).encode = 123 :: membersOctets true members := by
  rw [encode, chars, writeAfter, encode_writeMembers]
  rfl

/-- There are octets in the text of any value. -/
theorem encode_ne_nil (value : Json) : value.encode ≠ [] := by
  have encoded {text : List Char} (some_chars : text ≠ []) : Utf8.encode text ≠ [] := by
    cases text with
    | nil => exact absurd rfl some_chars
    | cons c text =>
      have positive := List.ne_nil_of_length_pos (Utf8.length_encodeChar_pos c)
      rw [Utf8.encode_cons]
      exact List.append_ne_nil_of_left_ne_nil positive _
  have some_chars : value.writeAfter [] ≠ [] := by
    cases value with
    | null => simp [writeAfter]
    | bool b => cases b <;> simp [writeAfter]
    | number n =>
      cases n with
      | integer n => simp [writeAfter, Number.chars, List.reverseAux_eq, Text.Decimal.digits_ne_nil]
      | double x => simp [writeAfter, Number.chars, List.reverseAux_eq, x.chars_ne_nil]
    | string s => simp [writeAfter, writeString]
    | array elements => simp [writeAfter]
    | object members => simp [writeAfter]
  exact encoded (by simpa [chars] using some_chars)

end Json

end PeerLink
