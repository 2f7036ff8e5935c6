import PeerLink.Yaml.Scalar
import PeerLink.Yaml.Token

/-!
# The tokens of a text

Outside of brackets and braces, the indentation of a text shows where blocks begin and end. A
scalar or a bracket may turn out to be a key once a colon follows; so the place of each candidate
is kept, and the token of the key, and of the block that begins with it, is put there then.
-/

namespace PeerLink.Yaml

/-- A place of the text that becomes the beginning of a key if a colon follows. -/
structure KeyCandidate where
  /-- The number of tokens in front. -/
  tokens : Nat
  /-- The index of the place in the text. -/
  index : Nat
  /-- The line of the place. -/
  line : Nat
  /-- The column of the place. -/
  column : Nat
  /-- Whether the text is wrong without a colon. -/
  required : Bool

/-- How far the tokens of a text are known. -/
structure Lexer where
  /-- The place in the text. -/
  cursor : Cursor
  /-- The tokens so far, the latest first. -/
  tokens : List Token
  /-- The columns of the blocks around the place, the innermost first. -/
  indents : List Nat
  /-- The candidates for keys: one for each bracket around the place, the innermost first, and one
  outside of all. -/
  keys : List (Option KeyCandidate)
  /-- Whether a key may begin at the place. -/
  allowsKey : Bool
  /-- The place behind a quotation mark, where a colon needs no blank. -/
  adjacent : Option Nat

namespace Lexer

/-- The beginning of a text. -/
def ofText (text : List Char) : Lexer where
  cursor := .ofText text
  tokens := []
  indents := []
  keys := [none]
  allowsKey := true
  adjacent := none

/-- Whether the place is within brackets or braces. -/
def inFlow (lexer : Lexer) : Bool :=
  1 < lexer.keys.length

/-- The column of the innermost block. -/
def indent (lexer : Lexer) : Option Nat :=
  lexer.indents.head?

/-- Whether the innermost block begins left of a column. -/
def isIndentedLess (column : Nat) (lexer : Lexer) : Bool :=
  lexer.indent.all (· < column)

/-- Adds a token. -/
def put (token : Token) (lexer : Lexer) : Lexer :=
  { lexer with tokens := token :: lexer.tokens }

/-- Puts a token behind the first `n` ones. -/
def putAt (n : Nat) (token : Token) (lexer : Lexer) : Lexer :=
  let later := lexer.tokens.length - n
  { lexer with tokens := lexer.tokens.take later ++ token :: lexer.tokens.drop later }

/-- Goes on at another place. -/
def goto (cursor : Cursor) (lexer : Lexer) : Lexer :=
  { lexer with cursor }

/-- Goes on behind the next `n` characters, which are a token. -/
def take (n : Nat) (token : Token) (lexer : Lexer) : Lexer :=
  (lexer.put token).goto (lexer.cursor.skipMany n)

/-- Says whether a key may begin at the place. -/
def allowKey (allowsKey : Bool) (lexer : Lexer) : Lexer :=
  { lexer with allowsKey }

/-! ## Blocks -/

/-- Begins a block at a column that is indented more than the innermost one; the token goes behind
the first `n` ones. -/
def openBlock (column n : Nat) (token : Token) (lexer : Lexer) : Lexer :=
  if !lexer.inFlow && lexer.isIndentedLess column then
    { lexer.putAt n token with indents := column :: lexer.indents }
  else lexer

/-- Ends the blocks that are indented more than to a column; all of them, if there is no column. -/
def closeBlocks (column : Option Nat) (lexer : Lexer) : Lexer :=
  if lexer.inFlow then lexer
  else
    let isRight (indent : Nat) : Bool := column.all (· < indent)
    let ended := lexer.indents.takeWhile isRight
    { lexer with
      tokens := ended.foldl (fun tokens _ => .blockEnd :: tokens) lexer.tokens
      indents := lexer.indents.dropWhile isRight }

/-! ## Keys -/

/-- Gives up the candidates that are in an earlier line or more than 1024 characters back. -/
def dropStaleKeys (lexer : Lexer) : Option Lexer := do
  let cursor := lexer.cursor
  let keys ← lexer.keys.mapM fun key =>
    match key with
    | none => some none
    | some candidate =>
      if candidate.line < cursor.line || candidate.index + 1024 < cursor.index then
        if candidate.required then none else some none
      else some (some candidate)
  some { lexer with keys }

/-- Gives up the innermost candidate. -/
def dropKey (lexer : Lexer) : Option Lexer :=
  match lexer.keys with
  | [] => some lexer
  | key :: keys =>
    if key.any (·.required) then none else some { lexer with keys := none :: keys }

/-- Makes the place a candidate for a key, if a key may begin here. -/
def saveKey (lexer : Lexer) : Option Lexer :=
  if lexer.allowsKey then do
    let lexer ← lexer.dropKey
    let candidate : KeyCandidate :=
      { tokens := lexer.tokens.length
        index := lexer.cursor.index
        line := lexer.cursor.line
        column := lexer.cursor.column
        required := lexer.inFlow && lexer.indent == some lexer.cursor.column }
    some { lexer with keys := some candidate :: lexer.keys.drop 1 }
  else some lexer

/-! ## One token -/

/-- The most brackets and braces around a place. -/
def maxDepth : Nat := 255

/-- An opening bracket or brace. -/
def openFlow (token : Token) (lexer : Lexer) : Option Lexer := do
  let lexer ← lexer.saveKey
  if lexer.keys.length ≤ maxDepth then
    some ({ lexer with keys := none :: lexer.keys, allowsKey := true }.take 1 token)
  else none

/-- A closing bracket or brace. -/
def closeFlow (token : Token) (lexer : Lexer) : Option Lexer := do
  let lexer ← lexer.dropKey
  let keys := if lexer.inFlow then lexer.keys.drop 1 else lexer.keys
  some ({ lexer with keys, allowsKey := false }.take 1 token)

/-- A comma. -/
def flowEntry (lexer : Lexer) : Option Lexer := do
  let lexer ← lexer.dropKey
  some ((lexer.allowKey true).take 1 .flowEntry)

/-- The dash of an item. -/
def blockEntry (lexer : Lexer) : Option Lexer := do
  if lexer.inFlow || !lexer.allowsKey then none
  let lexer := lexer.openBlock lexer.cursor.column lexer.tokens.length .blockSequence
  let lexer ← lexer.dropKey
  some ((lexer.allowKey true).take 1 .blockEntry)

/-- The question mark of a key. -/
def explicitKey (lexer : Lexer) : Option Lexer := do
  if !lexer.inFlow && !lexer.allowsKey then none
  let lexer := lexer.openBlock lexer.cursor.column lexer.tokens.length .blockMapping
  let lexer ← lexer.dropKey
  some ((lexer.allowKey !lexer.inFlow).take 1 .key)

/-- The colon of a value. -/
def value (lexer : Lexer) : Option Lexer :=
  match lexer.keys with
  | some key :: _ =>
    -- Only now it is known that a key began at the candidate's place.
    let lexer := (lexer.putAt key.tokens .key).openBlock key.column key.tokens .blockMapping
    some ({ lexer with keys := none :: lexer.keys.drop 1, allowsKey := false }.take 1 .value)
  | _ =>
    -- The key is an explicit one in front, or left out.
    if !lexer.inFlow && !lexer.allowsKey then none
    else
      let lexer := lexer.openBlock lexer.cursor.column lexer.tokens.length .blockMapping
      some ((lexer.allowKey !lexer.inFlow).take 1 .value)

/-- Three dashes or three dots. -/
def marker (token : Token) (lexer : Lexer) : Option Lexer := do
  let lexer ← (lexer.closeBlocks none).dropKey
  some ((lexer.allowKey false).take 3 token)

/-- A directive. -/
def directive (lexer : Lexer) : Option Lexer := do
  let lexer ← (lexer.closeBlocks none).dropKey
  let cursor ← Directive.scan lexer.cursor
  some (((lexer.allowKey false).put .directive).goto cursor)

/-- An anchor or an alias. -/
def anchor (token : String → Token) (lexer : Lexer) : Option Lexer := do
  let lexer ← lexer.saveKey
  let (name, cursor) ← Token.scanName lexer.cursor.skip
  some (((lexer.allowKey false).put (token name)).goto cursor)

/-- A tag. -/
def tag (lexer : Lexer) : Option Lexer := do
  let lexer ← lexer.saveKey
  let (tag, cursor) ← Tag.scan lexer.cursor
  some (((lexer.allowKey false).put (.tag tag)).goto cursor)

/-- A scalar of lines. -/
def blockScalar (literal : Bool) (lexer : Lexer) : Option Lexer := do
  let lexer ← lexer.saveKey
  let (text, cursor) ← Block.scan literal lexer.indent lexer.cursor
  some (((lexer.allowKey true).put (.scalar false text)).goto cursor)

/-- A scalar between quotation marks. -/
def quotedScalar (double : Bool) (lexer : Lexer) : Option Lexer := do
  let lexer ← lexer.saveKey
  let (text, cursor) ← Quoted.scan double lexer.cursor
  let lexer := ((lexer.allowKey false).put (.scalar false text)).goto cursor
  some { lexer with adjacent := some cursor.index }

/-- A plain scalar. -/
def plainScalar (lexer : Lexer) : Option Lexer := do
  let lexer ← lexer.saveKey
  let indent := (lexer.indent.map (· + 1)).getD 0
  let ((text, broken), cursor) ← Plain.scan lexer.inFlow indent lexer.cursor
  some (((lexer.allowKey broken).put (.scalar true text)).goto cursor)

/-- A step over what is between tokens; a line break allows a key to begin. -/
def spaceStep (inFlow allowsKey : Bool) (cursor : Cursor) : Cursor.Step Bool Bool :=
  match cursor.peek with
  | none => .done allowsKey cursor
  | some c =>
    if c = ' ' ∨ (c = '\t' ∧ (inFlow ∨ !allowsKey)) then .more allowsKey cursor.skip
    else if isBreak c then .more (allowsKey || !inFlow) cursor.skipBreak
    else if c = '#' then .more allowsKey cursor.skipComment
    else .done allowsKey cursor

/-- Goes on at the next token. -/
def skipSpace (lexer : Lexer) : Option Lexer := do
  let (allowsKey, cursor) ← lexer.cursor.scan (spaceStep lexer.inFlow) lexer.allowsKey
  some { lexer with cursor, allowsKey }

/-- The token that a character begins. -/
def tokenOf (c : Char) (lexer : Lexer) : Option Lexer :=
  let cursor := lexer.cursor
  let next := cursor.peekAt 1
  if cursor.column = 0 ∧ c = '%' then lexer.directive
  else if cursor.isAtMarker then
    lexer.marker (if c = '-' then .documentStart else .documentEnd)
  else
    match c with
    | '[' => lexer.openFlow .flowSequence
    | '\x7b' => lexer.openFlow .flowMapping
    | ']' => lexer.closeFlow .flowSequenceEnd
    | '\x7d' => lexer.closeFlow .flowMappingEnd
    | ',' => lexer.flowEntry
    | '*' => lexer.anchor .alias
    | '&' => lexer.anchor .anchor
    | '!' => lexer.tag
    | '\'' => lexer.quotedScalar false
    | '"' => lexer.quotedScalar true
    | '%' => none
    | '@' => none
    | '\x60' => none
    | _ =>
      if c = '-' ∧ endsWord next then lexer.blockEntry
      else if c = '?' ∧ endsWord next then lexer.explicitKey
      else if c = ':' ∧ (endsWord next ∨
          (lexer.inFlow ∧ (next.any isFlowMark ∨ lexer.adjacent = some cursor.index))) then
        lexer.value
      else if c = '|' ∧ !lexer.inFlow then lexer.blockScalar true
      else if c = '>' ∧ !lexer.inFlow then lexer.blockScalar false
      else lexer.plainScalar

/-- The lexer behind the next token; `none` within the result at the end of the text. -/
def next (lexer : Lexer) : Option (Option Lexer) := do
  let lexer ← lexer.skipSpace
  let lexer ← lexer.dropStaleKeys
  let lexer := lexer.closeBlocks (some lexer.cursor.column)
  match lexer.cursor.peek with
  | none => some none
  | some c => (lexer.tokenOf c).map some

/-- The lexer at the end of the text. -/
def finish (lexer : Lexer) : Option (List Token) := do
  let lexer ← lexer.skipSpace
  let lexer ← lexer.dropStaleKeys
  let lexer ← (lexer.closeBlocks none).dropKey
  some lexer.tokens.reverse

/-- The tokens from a place on, each of which takes characters from the text. -/
def run (lexer : Lexer) : Option (List Token) :=
  match lexer.next with
  | none => none
  | some none => lexer.finish
  | some (some next) =>
    if _h : next.cursor.remaining < lexer.cursor.remaining then next.run else none
termination_by lexer.cursor.remaining

end Lexer

/-- The tokens of a text. -/
def tokens? (text : String) : Option (List Token) :=
  (Lexer.ofText text.toList).run

end PeerLink.Yaml
