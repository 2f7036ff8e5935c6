import PeerLink.Json.Number
import PeerLink.Text.Utf8

/-!
# Scanning JSON text

A reader takes a value from the front of a text and leaves a shorter one. This module has the
readers of what has no parts: words, numbers and strings. A fault is the first one in the order of
the text. A string is checked for its encoding at its closing mark, and only when it is read and not
skipped.
-/

namespace PeerLink.Json

/-- What a reader makes of a text: a value, and the text behind it, which is shorter. -/
structure Scanned (α : Type) (input : Bytes) where
  /-- The value. -/
  value : α
  /-- The text behind the value. -/
  rest : Bytes
  /-- The text behind the value is shorter than the whole. -/
  shorter : rest.length < input.length

namespace Scanned

/-- The same text behind another value. -/
def map {α β : Type} {input : Bytes} (f : α → β) (s : Scanned α input) : Scanned β input :=
  ⟨f s.value, s.rest, s.shorter⟩

/-- What was read from the end of a text was read from the text. -/
def weaken {α : Type} {input tail : Bytes} (s : Scanned α tail) (h : tail.length ≤ input.length) :
    Scanned α input :=
  ⟨s.value, s.rest, Nat.lt_of_lt_of_le s.shorter h⟩

end Scanned

/-- A function that takes a value from the front of a text. -/
abbrev Scanner (α : Type) := (input : Bytes) → Except Fault (Scanned α input)

/-- Whether an octet is a blank of JSON: space, line feed, tabulator or carriage return. -/
def isSpace (b : UInt8) : Bool :=
  b == 32 || b == 10 || b == 9 || b == 13

/-- The text behind the blanks at its front. -/
def skipSpace (text : Bytes) : Bytes :=
  text.dropWhile isSpace

/-- Blanks dropped make a text no longer. -/
theorem length_skipSpace_le (text : Bytes) : (skipSpace text).length ≤ text.length :=
  (List.dropWhile_sublist _).length_le

/-- What is left when blanks are dropped is no longer than the text. -/
theorem length_cons_le_of_skipSpace {text rest : Bytes} {b : UInt8}
    (h : skipSpace text = b :: rest) : (b :: rest).length ≤ text.length :=
  h ▸ length_skipSpace_le text

/-- A text is no longer than itself. -/
theorem length_self_le (text : Bytes) : text.length ≤ text.length := Nat.le_refl _

/-- A text is no longer than one with an octet in front of it. -/
theorem length_le_cons (b : UInt8) (text : Bytes) : text.length ≤ (b :: text).length :=
  Nat.le_succ _

/-- A text that begins with an octet after its blanks is longer than what follows the octet. -/
theorem length_lt_of_skipSpace {text rest : Bytes} {b : UInt8} (h : skipSpace text = b :: rest) :
    rest.length < text.length := by
  have := length_skipSpace_le text
  rw [h, List.length_cons] at this
  omega

/-- Takes the given octets, the rest of a word, from the front of a text. -/
def word? : (expected text : Bytes) → Except Fault { rest : Bytes // rest.length ≤ text.length }
  | [], text => .ok ⟨text, length_self_le text⟩
  | _ :: _, [] => .error .truncated
  | e :: expected, b :: text =>
    if e = b then
      match word? expected text with
      | .ok ⟨rest, h⟩ => .ok ⟨rest, Nat.le_succ_of_le h⟩
      | .error fault => .error fault
    else .error .malformed

/-- The octets behind the first one of the word `null`. -/
def nullTail : Bytes := [117, 108, 108]

/-- The octets behind the first one of the word `true`. -/
def trueTail : Bytes := [114, 117, 101]

/-- The octets behind the first one of the word `false`. -/
def falseTail : Bytes := [97, 108, 115, 101]

/-- Takes the rest of a word and gives it a value. -/
def scanWord {α : Type} (value : α) (first : UInt8) (tail text : Bytes) :
    Except Fault (Scanned α (first :: text)) :=
  match word? tail text with
  | .ok ⟨rest, h⟩ => .ok ⟨value, rest, Nat.lt_succ_of_le h⟩
  | .error fault => .error fault

/-- Takes a number. -/
def scanNumber : Scanner Number := fun input =>
  match h : Number.cut input with
  | .error fault => .error fault
  | .ok (lexeme, rest) =>
    match Number.eval? lexeme with
    | none => .error .malformed
    | some n => .ok ⟨n, rest, Number.length_cut h⟩

/-- Skips a number, of any magnitude. -/
def skipNumber : Scanner Unit := fun input =>
  match h : Number.cut input with
  | .error _ => .error .malformed
  | .ok (_, rest) => .ok ⟨(), rest, Number.length_cut h⟩

/-! ## Strings -/

/-- The value of four hexadecimal digits. -/
def hexWord? (a b c d : UInt8) : Option Nat := do
  let w ← hexValue a
  let x ← hexValue b
  let y ← hexValue c
  let z ← hexValue d
  pure (4096 * w + 256 * x + 16 * y + z)
where
  /-- The value of a hexadecimal digit of either case. -/
  hexValue (b : UInt8) : Option Nat :=
    if 48 ≤ b ∧ b ≤ 57 then some (b.toNat - 48)
    else if 65 ≤ b ∧ b ≤ 70 then some (b.toNat - 55)
    else if 97 ≤ b ∧ b ≤ 102 then some (b.toNat - 87)
    else none

/-- The octet that a backslash and this octet stand for. -/
def shortEscape? (b : UInt8) : Option UInt8 :=
  if b = 34 ∨ b = 92 ∨ b = 47 then some b
  else if b = 98 then some 8
  else if b = 102 then some 12
  else if b = 110 then some 10
  else if b = 114 then some 13
  else if b = 116 then some 9
  else none

/-- The octets that the text behind the mark `\u` stands for, and how many octets of the text it
takes. A code point above `0xffff` is written as a high and a low surrogate; neither stands
alone. -/
def codePointEscape : Bytes → Except Fault (Bytes × Nat)
  | a :: b :: c :: d :: rest =>
    match hexWord? a b c d with
    | none => .error .malformed
    | some high =>
      if 0xdc00 ≤ high ∧ high < 0xe000 then .error .malformed
      else if 0xd800 ≤ high ∧ high < 0xdc00 then
        match rest with
        | [] => .error .truncated
        | slash :: rest =>
          if slash ≠ 92 then .error .malformed
          else
            match rest with
            | [] => .error .truncated
            | u :: rest =>
              if u ≠ 117 then .error .malformed
              else
                match rest with
                | a :: b :: c :: d :: _ =>
                  match hexWord? a b c d with
                  | none => .error .malformed
                  | some low =>
                    if 0xdc00 ≤ low ∧ low < 0xe000 then
                      let n := 0x10000 + 1024 * (high - 0xd800) + (low - 0xdc00)
                      .ok (Utf8.encodeChar (Char.ofNat n), 10)
                    else .error .malformed
                | _ => .error .truncated
      else .ok (Utf8.encodeChar (Char.ofNat high), 4)
  | _ => .error .truncated

/-- The octets that the text behind a backslash stands for, and how many octets of the text it
takes. -/
def escape : Bytes → Except Fault (Bytes × Nat)
  | [] => .error .truncated
  | b :: rest =>
    if b = 117 then
      match codePointEscape rest with
      | .error fault => .error fault
      | .ok (octets, size) => .ok (octets, size + 1)
    else
      match shortEscape? b with
      | none => .error .malformed
      | some octet => .ok ([octet], 1)

/-- Takes the octets of a string up to its closing mark. `done` holds the ones already taken in
reverse order, and the next `pending` octets belong to the escape taken last. -/
def stringOctets (input : Bytes) (done : Bytes) :
    (pending : Nat) → (text : Bytes) → text.length ≤ input.length →
      Except Fault (Scanned Bytes input)
  | _, [], _ => .error .truncated
  | pending + 1, _ :: text, h => stringOctets input done pending text (Nat.le_of_succ_le h)
  | 0, b :: text, h =>
    if b = 34 then .ok ⟨done.reverse, text, h⟩
    else if b = 92 then
      match escape text with
      | .error fault => .error fault
      | .ok (octets, size) =>
        stringOctets input (octets.reverseAux done) size text (Nat.le_of_succ_le h)
    else if b < 32 then .error .malformed
    else stringOctets input (b :: done) 0 text (Nat.le_of_succ_le h)

/-- Takes a string from behind its opening mark. -/
def scanString : Scanner String := fun input =>
  match stringOctets input [] 0 input (length_self_le input) with
  | .error fault => .error fault
  | .ok s =>
    match Utf8.decode? s.value with
    | none => .error .malformed
    | some chars => .ok (s.map fun _ => String.ofList chars)

/-- How many octets the text behind a backslash takes, when what it stands for does not matter. -/
def skipEscape : Bytes → Except Fault Nat
  | [] => .error .truncated
  | b :: rest =>
    if b = 117 then
      match rest with
      | a :: b :: c :: d :: _ =>
        match hexWord? a b c d with
        | none => .error .malformed
        | some _ => .ok 5
      | _ => .error .truncated
    else
      match shortEscape? b with
      | none => .error .malformed
      | some _ => .ok 1

/-- Skips a string up to its closing mark; the next `pending` octets belong to the escape skipped
last. -/
def skipStringOctets (input : Bytes) :
    (pending : Nat) → (text : Bytes) → text.length ≤ input.length →
      Except Fault (Scanned Unit input)
  | _, [], _ => .error .truncated
  | pending + 1, _ :: text, h => skipStringOctets input pending text (Nat.le_of_succ_le h)
  | 0, b :: text, h =>
    if b = 34 then .ok ⟨(), text, h⟩
    else if b = 92 then
      match skipEscape text with
      | .error fault => .error fault
      | .ok size => skipStringOctets input size text (Nat.le_of_succ_le h)
    else if b < 32 then .error .malformed
    else skipStringOctets input 0 text (Nat.le_of_succ_le h)

/-- Skips a string from behind its opening mark. -/
def skipString : Scanner Unit := fun input =>
  skipStringOctets input 0 input (length_self_le input)

end PeerLink.Json
