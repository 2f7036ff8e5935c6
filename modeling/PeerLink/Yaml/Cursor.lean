/-!
# Places in a text

A cursor is a place in a text with its column, which the indentation of blocks is measured by. Text
is scanned in steps, each of which takes at least one character; `Cursor.scan` runs such steps, so
that no scanner has a recursion of its own. A text ends at its first null character.
-/

namespace PeerLink.Yaml

/-- A place in a text. -/
structure Cursor where
  /-- The characters that follow. -/
  rest : List Char
  /-- The number of characters of the text. -/
  size : Nat
  /-- The number of characters before the place. -/
  index : Nat
  /-- The number of line feeds before the place. -/
  line : Nat
  /-- The number of characters between the last line feed and the place. -/
  column : Nat

/-- Whether a character separates words within a line. -/
def isBlank (c : Char) : Bool :=
  c == ' ' || c == '\t'

/-- Whether a character breaks a line. -/
def isBreak (c : Char) : Bool :=
  c == '\n' || c == '\r'

/-- Whether nothing of a word follows: a blank, a break or the end of the text. -/
def endsWord : Option Char → Bool
  | none => true
  | some c => isBlank c || isBreak c

/-- Whether nothing of a line follows. -/
def endsLine : Option Char → Bool
  | none => true
  | some c => isBreak c

/-- Whether a character encloses or separates the items of a flow collection. -/
def isFlowMark (c : Char) : Bool :=
  c == ',' || c == '[' || c == ']' || c == '\x7b' || c == '\x7d'

/-- Whether a character can be part of the name of an anchor or of the handle of a tag. -/
def isNameChar (c : Char) : Bool :=
  c.isAlphanum || c == '_' || c == '-'

namespace Cursor

/-- The beginning of a text. -/
def ofText (text : List Char) : Cursor :=
  let text := text.takeWhile (· ≠ '\x00')
  ⟨text, text.length, 0, 0, 0⟩

/-- The number of characters that follow. -/
def remaining (cursor : Cursor) : Nat :=
  cursor.size - cursor.index

/-- The next character. -/
def peek (cursor : Cursor) : Option Char :=
  cursor.rest.head?

/-- The character `n` places ahead. -/
def peekAt (n : Nat) (cursor : Cursor) : Option Char :=
  cursor.rest[n]?

/-- The place behind the next character. -/
def skip (cursor : Cursor) : Cursor :=
  match cursor.rest with
  | [] => cursor
  | c :: rest =>
    if c = '\n' then ⟨rest, cursor.size, cursor.index + 1, cursor.line + 1, 0⟩
    else ⟨rest, cursor.size, cursor.index + 1, cursor.line, cursor.column + 1⟩

/-- The place behind the next `n` characters. -/
def skipMany (n : Nat) (cursor : Cursor) : Cursor :=
  n.repeat skip cursor

/-- The place behind a line break, which may be a carriage return and a line feed. -/
def skipBreak (cursor : Cursor) : Cursor :=
  if cursor.peek = some '\r' ∧ cursor.peekAt 1 = some '\n' then cursor.skip.skip else cursor.skip

/-- Whether a line begins with three dashes or three dots and nothing else of a word. -/
def isAtMarker (cursor : Cursor) : Bool :=
  cursor.column == 0 && endsWord (cursor.peekAt 3) &&
    (cursor.rest.take 3 == ['-', '-', '-'] || cursor.rest.take 3 == ['.', '.', '.'])

/-- What a step of a scan comes to. -/
inductive Step (σ α : Type) where
  /-- The scan goes on behind the step. -/
  | more (state : σ) (cursor : Cursor)
  /-- The scan is over. -/
  | done (value : α) (cursor : Cursor)
  /-- The text is not what it should be. -/
  | fault

/-- Runs steps, each of which takes characters from the text. -/
def scan {σ α : Type} (step : σ → Cursor → Step σ α) (state : σ) (cursor : Cursor) :
    Option (α × Cursor) :=
  match step state cursor with
  | .fault => none
  | .done value cursor => some (value, cursor)
  | .more state next =>
    if _h : next.remaining < cursor.remaining then scan step state next else none
termination_by cursor.remaining

/-- Takes the characters at the beginning for which a test holds. -/
def takeWhile (test : Char → Bool) (cursor : Cursor) : List Char × Cursor :=
  let taken := cursor.rest.takeWhile test
  (taken, cursor.skipMany taken.length)

/-- The place behind the blanks. -/
def skipBlanks (cursor : Cursor) : Cursor :=
  (cursor.takeWhile isBlank).2

/-- The place behind a comment, if there is one. -/
def skipComment (cursor : Cursor) : Cursor :=
  if cursor.peek = some '#' then (cursor.takeWhile fun c => !isBreak c).2 else cursor

end Cursor

end PeerLink.Yaml
