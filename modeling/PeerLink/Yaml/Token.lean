import PeerLink.Yaml.Cursor

/-!
# Tokens

What a YAML text consists of: marks, the beginnings and ends of blocks that its indentation shows,
and scalars with their anchors and tags. Tags and the names of anchors are scanned here.
-/

namespace PeerLink.Yaml

/-- The tag of a node: a handle and what follows it. -/
structure Tag where
  /-- The handle. -/
  handle : String
  /-- The part behind the handle. -/
  suffix : String
  deriving DecidableEq, Repr

/-- A token. -/
inductive Token where
  /-- A directive; none of them changes what a document is. -/
  | directive
  /-- Three dashes. -/
  | documentStart
  /-- Three dots. -/
  | documentEnd
  /-- A sequence in block form begins. -/
  | blockSequence
  /-- A mapping in block form begins. -/
  | blockMapping
  /-- A sequence or mapping in block form ends. -/
  | blockEnd
  /-- The dash of an item in block form. -/
  | blockEntry
  /-- An opening bracket. -/
  | flowSequence
  /-- A closing bracket. -/
  | flowSequenceEnd
  /-- An opening brace. -/
  | flowMapping
  /-- A closing brace. -/
  | flowMappingEnd
  /-- A comma. -/
  | flowEntry
  /-- A key follows. -/
  | key
  /-- A value follows. -/
  | value
  /-- The node of an anchor is meant. -/
  | alias (name : String)
  /-- The anchor of the node that follows. -/
  | anchor (name : String)
  /-- The tag of the node that follows. -/
  | tag (tag : Tag)
  /-- A scalar, plain or not. -/
  | scalar (plain : Bool) (text : String)
  deriving DecidableEq, Repr

namespace Token

/-- Scans the name of an anchor behind its mark. -/
def scanName (cursor : Cursor) : Option (String × Cursor) :=
  let (name, cursor) := cursor.takeWhile isNameChar
  let isEnded := endsWord cursor.peek ||
    cursor.peek.any ['?', ':', ',', ']', '\x7d', '%', '@', '\x60'].contains
  if !name.isEmpty && isEnded then some (String.ofList name, cursor) else none

end Token

namespace Tag

/-- Scans an octet written with a percent sign and two digits. -/
def scanOctet (cursor : Cursor) : Option (Nat × Cursor) :=
  let digit? (c : Option Char) : Option Nat :=
    c.bind fun c =>
      if '0' ≤ c ∧ c ≤ '9' then some (c.toNat - 48)
      else if 'A' ≤ c ∧ c ≤ 'F' then some (c.toNat - 55)
      else if 'a' ≤ c ∧ c ≤ 'f' then some (c.toNat - 87)
      else none
  if cursor.peek = some '%' then do
    let high ← digit? (cursor.peekAt 1)
    let low ← digit? (cursor.peekAt 2)
    some (16 * high + low, cursor.skipMany 3)
  else none

/-- Scans `n` more octets of a character whose leading bits are `bits`. -/
def scanContinuation : (n bits : Nat) → Cursor → Option (Char × Cursor)
  | 0, bits, cursor => if bits.isValidChar then some (Char.ofNat bits, cursor) else none
  | n + 1, bits, cursor => do
    let (octet, cursor) ← scanOctet cursor
    if octet / 64 = 2 then scanContinuation n (64 * bits + octet % 64) cursor else none

/-- Scans a character that is written as the octets of its UTF-8 form. -/
def scanEscape (cursor : Cursor) : Option (Char × Cursor) := do
  let (octet, cursor) ← scanOctet cursor
  if octet < 128 then scanContinuation 0 octet cursor
  else if octet / 32 = 6 then scanContinuation 1 (octet % 32) cursor
  else if octet / 16 = 14 then scanContinuation 2 (octet % 16) cursor
  else if octet / 8 = 30 then scanContinuation 3 (octet % 8) cursor
  else none

/-- Whether a character stands for itself in a tag. -/
def isUriChar (c : Char) : Bool :=
  isNameChar c ||
    [';', '/', '?', ':', '@', '&', '=', '+', '$', ',', '.', '!', '~', '*', '\'', '(', ')', '[',
      ']'].contains c

/-- A step over a character of a tag. -/
def uriStep (text : List Char) (cursor : Cursor) : Cursor.Step (List Char) (List Char) :=
  match cursor.peek with
  | none => .done text.reverse cursor
  | some c =>
    if c = '%' then
      match scanEscape cursor with
      | none => .fault
      | some (c, cursor) => .more (c :: text) cursor
    else if isUriChar c then .more (c :: text) cursor.skip
    else .done text.reverse cursor

/-- Scans the characters of a tag. -/
def scanUri (cursor : Cursor) : Option (List Char × Cursor) :=
  cursor.scan uriStep []

/-- Scans the handle of a tag, whose first character is an exclamation mark: a second one may
follow, with a name in between. -/
def scanHandle (cursor : Cursor) : Option (List Char × Cursor) :=
  if cursor.peek = some '!' then
    let (name, cursor) := cursor.skip.takeWhile isNameChar
    if cursor.peek = some '!' then some ('!' :: (name ++ ['!']), cursor.skip)
    else some ('!' :: name, cursor)
  else none

/-- Scans a tag, in angle brackets or with a handle. A name behind a single exclamation mark is no
handle but the suffix. -/
def scanText (cursor : Cursor) : Option (Tag × Cursor) := do
  if cursor.peekAt 1 = some '<' then
    let (uri, cursor) ← scanUri (cursor.skipMany 2)
    if !uri.isEmpty && cursor.peek = some '>' then some (⟨"", String.ofList uri⟩, cursor.skip)
    else none
  else
    let (handle, cursor) ← scanHandle cursor
    let (uri, cursor) ← scanUri cursor
    if 2 ≤ handle.length ∧ handle.getLast? = some '!' then
      if uri.isEmpty then none else some (⟨String.ofList handle, String.ofList uri⟩, cursor)
    else
      let suffix := handle.drop 1 ++ uri
      if suffix.isEmpty then some (⟨"", "!"⟩, cursor)
      else some (⟨"!", String.ofList suffix⟩, cursor)

/-- Scans a tag, which only a blank or a line break may follow. -/
def scan (cursor : Cursor) : Option (Tag × Cursor) := do
  let (tag, cursor) ← scanText cursor
  if endsWord cursor.peek then some (tag, cursor) else none

end Tag

/-! ## Directives -/

namespace Directive

/-- Scans a number of at most nine digits. -/
def scanNumber (cursor : Cursor) : Option Cursor :=
  let (digits, cursor) := cursor.takeWhile Char.isDigit
  if !digits.isEmpty && digits.length ≤ 9 then some cursor else none

/-- Scans the version of a document: two numbers with a dot between them. -/
def scanVersion (cursor : Cursor) : Option Cursor := do
  let cursor ← scanNumber cursor.skipBlanks
  if cursor.peek = some '.' then scanNumber cursor.skip else none

/-- Scans the handle of a tag and what it is short for. -/
def scanTag (cursor : Cursor) : Option Cursor := do
  let (handle, cursor) ← Tag.scanHandle cursor.skipBlanks
  if handle = ['!'] ∨ handle.getLast? = some '!' then
    let (uri, cursor) ← Tag.scanUri cursor.skipBlanks
    if !uri.isEmpty && endsWord cursor.peek then some cursor else none
  else none

/-- Scans a directive and the rest of its line. A directive of another name is passed over. -/
def scan (cursor : Cursor) : Option Cursor := do
  let (name, cursor) := cursor.skip.takeWhile isNameChar
  if name.isEmpty || !endsWord cursor.peek then none
  let cursor ←
    if name = "YAML".toList then scanVersion cursor
    else if name = "TAG".toList then scanTag cursor
    else some (cursor.takeWhile fun c => !isBreak c).2
  let cursor := cursor.skipBlanks.skipComment
  match cursor.peek with
  | none => some cursor
  | some c => if isBreak c then some cursor.skipBreak else none

end Directive

end PeerLink.Yaml
