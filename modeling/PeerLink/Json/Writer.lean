import PeerLink.Json.Basic
import PeerLink.Text.Utf8

/-!
# Writing JSON

The compact text of a JSON value: no blanks, members in the order of the tree, and in strings only
the quotation mark, the backslash and the characters below the space escaped.
-/

namespace PeerLink.Json

/-- How a character stands in a JSON string. -/
def escapeChar (c : Char) : List Char :=
  if c = '"' then ['\\', '"']
  else if c = '\\' then ['\\', '\\']
  else if c = '\x08' then ['\\', 'b']
  else if c = '\t' then ['\\', 't']
  else if c = '\n' then ['\\', 'n']
  else if c = '\x0c' then ['\\', 'f']
  else if c = '\r' then ['\\', 'r']
  else if c.toNat < 32 then
    ['\\', 'u', '0', '0', Nat.digitChar (c.toNat / 16), Nat.digitChar (c.toNat % 16)]
  else [c]

/-- The characters of a string between its quotation marks. -/
def stringChars (s : String) : List Char :=
  '"' :: (s.toList.flatMap escapeChar ++ ['"'])

/-- The characters of a number. -/
def Number.chars : Number → List Char
  | integer n => (if n < 0 then ['-'] else []) ++ Text.Decimal.digits n.natAbs
  | double x => x.chars

/-- Writes a string behind the characters `done`, which are in reverse order. -/
def writeString (done : List Char) (s : String) : List Char :=
  '"' :: s.toList.foldl (fun done c => (escapeChar c).reverseAux done) ('"' :: done)

/-- A string is written as the characters it stands as. -/
theorem writeString_eq (done : List Char) (s : String) :
    writeString done s = (stringChars s).reverseAux done := by
  have h (text done : List Char) :
      text.foldl (fun done c => (escapeChar c).reverseAux done) done =
        (text.flatMap escapeChar).reverse ++ done := by
    induction text generalizing done with
    | nil => rfl
    | cons c text ih =>
      rw [List.foldl_cons, ih, List.flatMap_cons, List.reverse_append, List.reverseAux_eq,
        List.append_assoc]
  rw [writeString, h, stringChars]
  simp [List.reverseAux_eq]

mutual

/-- Writes a value behind the characters `done`, which are in reverse order. -/
def writeAfter (done : List Char) : Json → List Char
  | null => "null".toList.reverseAux done
  | bool b => (if b then "true".toList else "false".toList).reverseAux done
  | number n => n.chars.reverseAux done
  | string s => writeString done s
  | array elements => ']' :: writeElements ('[' :: done) true elements
  | object members => '\x7d' :: writeMembers ('\x7b' :: done) true members

/-- Writes the elements of an array; the `first` one has no comma in front. -/
def writeElements (done : List Char) (first : Bool) : List Json → List Char
  | [] => done
  | element :: rest =>
    writeElements (writeAfter (if first then done else ',' :: done) element) false rest

/-- Writes the members of an object; the `first` one has no comma in front. -/
def writeMembers (done : List Char) (first : Bool) : List (String × Json) → List Char
  | [] => done
  | (name, value) :: rest =>
    let done := if first then done else ',' :: done
    writeMembers (writeAfter (':' :: writeString done name) value) false rest

end

/-- The characters of the compact text of a value. -/
def chars (value : Json) : List Char :=
  (writeAfter [] value).reverse

/-- The compact text of a value. -/
def text (value : Json) : String :=
  String.ofList value.chars

/-- The octets of the compact text of a value. -/
def encode (value : Json) : Bytes :=
  Utf8.encode value.chars

end PeerLink.Json
