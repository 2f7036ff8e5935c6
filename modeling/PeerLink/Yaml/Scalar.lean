import PeerLink.Yaml.Cursor

/-!
# The texts of scalars

A scalar is written plainly, between quotation marks, or as a block of lines. In the first two ways
a single line break stands for a space and a longer run of breaks for one break less; in a block
the lines are kept or folded as its header says.
-/

namespace PeerLink.Yaml

/-! ## Gaps between words -/

/-- What separates two words of a scalar. -/
inductive Gap where
  /-- Blanks within a line. -/
  | blanks (text : List Char)
  /-- Line breaks, with blanks around them that do not count. -/
  | breaks (count : Nat)

namespace Gap

/-- The text that a gap stands for. -/
def text : Gap → List Char
  | blanks text => text
  | breaks count => if count = 1 then [' '] else List.replicate (count - 1) '\n'

/-- Whether a gap has a line break. -/
def isBroken : Gap → Bool
  | blanks _ => false
  | breaks _ => true

/-- A step over a gap, with its blanks so far in reverse order and the number of its line breaks. A
tab at the beginning of a line left of the column `indent` is refused. -/
def step (indent : Nat) : List Char × Nat → Cursor → Cursor.Step (List Char × Nat) Gap
  | (seen, count), cursor =>
    match cursor.peek with
    | some c =>
      if isBlank c then
        if count = 0 then .more (c :: seen, 0) cursor.skip
        else if c = '\t' ∧ cursor.column < indent then .fault
        else .more ([], count) cursor.skip
      else if isBreak c then .more ([], count + 1) cursor.skipBreak
      else .done (if count = 0 then .blanks seen.reverse else .breaks count) cursor
    | none => .done (if count = 0 then .blanks seen.reverse else .breaks count) cursor

/-- Scans a gap behind a number of line breaks. -/
def scan (indent count : Nat) (cursor : Cursor) : Option (Gap × Cursor) :=
  cursor.scan (step indent) ([], count)

end Gap

/-! ## Plain scalars -/

namespace Plain

/-- How far the scan of a plain scalar has come. -/
structure State where
  /-- The text, in reverse order. -/
  text : List Char
  /-- The gap behind the text. -/
  gap : Gap
  /-- Whether the place is within a word. -/
  inWord : Bool

/-- Whether a plain scalar ends before the next character, within a word or not. -/
def isAtEnd (inFlow : Bool) (cursor : Cursor) : Bool :=
  match cursor.peek with
  | none => true
  | some c =>
    if c = ':' then
      endsWord (cursor.peekAt 1) || (inFlow && (cursor.peekAt 1).any isFlowMark)
    else inFlow && isFlowMark c

/-- A step over a character of a word or over a gap. Outside of flow collections the scalar ends at
a line that is indented less than to the column `indent`. -/
def step (inFlow : Bool) (indent : Nat) (state : State) (cursor : Cursor) :
    Cursor.Step State (String × Bool) :=
  let ended := (String.ofList state.text.reverse, state.gap.isBroken)
  if !state.inWord && (cursor.isAtMarker || cursor.peek == some '#') then .done ended cursor
  else if isAtEnd inFlow cursor then .done ended cursor
  else
    match cursor.peek with
    | none => .done ended cursor
    | some c =>
      if isBlank c || isBreak c then
        match Gap.scan indent 0 cursor with
        | none => .fault
        | some (gap, cursor') =>
          -- The gap is passed over even when the scalar ends in front of it.
          if !inFlow && cursor'.column < indent then
            .done (String.ofList state.text.reverse, gap.isBroken) cursor'
          else .more ⟨state.text, gap, false⟩ cursor'
      else .more ⟨c :: (state.gap.text.reverse ++ state.text), .blanks [], true⟩ cursor.skip

/-- Scans a plain scalar; also gives whether line breaks follow it. -/
def scan (inFlow : Bool) (indent : Nat) (cursor : Cursor) : Option ((String × Bool) × Cursor) :=
  cursor.scan (step inFlow indent) ⟨[], .blanks [], false⟩

end Plain

/-! ## Quoted scalars -/

namespace Quoted

/-- The value of a hexadecimal digit. -/
def hexValue? (c : Char) : Option Nat :=
  if '0' ≤ c ∧ c ≤ '9' then some (c.toNat - 48)
  else if 'A' ≤ c ∧ c ≤ 'F' then some (c.toNat - 55)
  else if 'a' ≤ c ∧ c ≤ 'f' then some (c.toNat - 87)
  else none

/-- The number that hexadecimal digits denote. -/
def hexNumber? (digits : List Char) : Option Nat :=
  digits.foldlM (fun n c => (hexValue? c).map (16 * n + ·)) 0

/-- The character that one letter behind a backslash stands for. -/
def escaped? (c : Char) : Option Char :=
  match c with
  | '0' => some '\x00'
  | 'a' => some '\x07'
  | 'b' => some '\x08'
  | 't' => some '\t'
  | '\t' => some '\t'
  | 'n' => some '\n'
  | 'v' => some '\x0b'
  | 'f' => some '\x0c'
  | 'r' => some '\r'
  | 'e' => some '\x1b'
  | ' ' => some ' '
  | '"' => some '"'
  | '\'' => some '\''
  | '/' => some '/'
  | '\\' => some '\\'
  | 'N' => some '\u0085'
  | '_' => some '\u00a0'
  | 'L' => some '\u2028'
  | 'P' => some '\u2029'
  | _ => none

/-- The number of hexadecimal digits behind a letter that announces a code point. -/
def codeSize? (c : Char) : Option Nat :=
  match c with
  | 'x' => some 2
  | 'u' => some 4
  | 'U' => some 8
  | _ => none

/-- Scans an escape sequence, whose backslash is the next character. -/
def escape (cursor : Cursor) : Option (Char × Cursor) := do
  let letter ← cursor.peekAt 1
  match codeSize? letter with
  | none =>
    let c ← escaped? letter
    some (c, cursor.skipMany 2)
  | some size =>
    let digits := (cursor.rest.drop 2).take size
    if digits.length = size then
      let n ← hexNumber? digits
      if n.isValidChar then some (Char.ofNat n, cursor.skipMany (2 + size)) else none
    else none

/-- A step over a character, an escape sequence or a gap. The text so far is in reverse order. -/
def step (double : Bool) (text : List Char) (cursor : Cursor) : Cursor.Step (List Char) String :=
  if cursor.isAtMarker then .fault
  else
    match cursor.peek with
    | none => .fault
    | some c =>
      if c = '"' ∧ double then .done (String.ofList text.reverse) cursor.skip
      else if c = '\'' ∧ !double then
        if cursor.peekAt 1 = some '\'' then .more ('\'' :: text) (cursor.skipMany 2)
        else .done (String.ofList text.reverse) cursor.skip
      else if c = '\\' ∧ double then
        -- An escaped line break stands for nothing, and neither do the blanks behind it.
        if (cursor.peekAt 1).any isBreak then
          match Gap.scan 0 1 cursor.skip.skipBreak with
          | none => .fault
          | some (.blanks blanks, cursor) => .more (blanks.reverse ++ text) cursor
          | some (.breaks count, cursor) => .more (List.replicate (count - 1) '\n' ++ text) cursor
        else
          match escape cursor with
          | none => .fault
          | some (c, cursor) => .more (c :: text) cursor
      else if isBlank c || isBreak c then
        match Gap.scan 0 0 cursor with
        | none => .fault
        | some (gap, cursor) => .more (gap.text.reverse ++ text) cursor
      else .more (c :: text) cursor.skip

/-- Scans a quoted scalar, whose quotation mark is the next character. -/
def scan (double : Bool) (cursor : Cursor) : Option (String × Cursor) :=
  cursor.skip.scan (step double) []

end Quoted

/-! ## Block scalars -/

namespace Block

/-- What becomes of the line breaks at the end of a block. -/
inductive Chomping where
  /-- All are dropped. -/
  | strip
  /-- One is kept. -/
  | clip
  /-- All are kept. -/
  | keep
  deriving DecidableEq, Repr

/-- The chomping that a character of the header asks for. -/
def chomping? (c : Char) : Option Chomping :=
  if c = '+' then some .keep else if c = '-' then some .strip else none

/-- The indentation that a digit of the header asks for. -/
def increment? (c : Char) : Option Nat :=
  if c.isDigit then some (c.toNat - 48) else none

/-- Scans the header behind its first character: chomping and indentation in either order. -/
def header (cursor : Cursor) : Option (Chomping × Option Nat × Cursor) := do
  let (chomping, increment, cursor) :=
    match cursor.peek.bind chomping?, cursor.peek.bind increment? with
    | some chomping, _ =>
      match cursor.skip.peek.bind increment? with
      | some n => (chomping, some n, cursor.skip.skip)
      | none => (chomping, none, cursor.skip)
    | none, some n =>
      match cursor.skip.peek.bind chomping? with
      | some chomping => (chomping, some n, cursor.skip.skip)
      | none => (.clip, some n, cursor.skip)
    | none, none => (.clip, none, cursor)
  if increment = some 0 then none
  let cursor := cursor.skipBlanks.skipComment
  if endsLine cursor.peek then
    some (chomping, increment, if cursor.peek.isSome then cursor.skipBreak else cursor)
  else none

/-- A step over the indentation of a line, and over the line if it is empty. The state is the number
of line breaks and the widest indentation so far. -/
def indentationStep (indent : Option Nat) :
    Nat × Nat → Cursor → Cursor.Step (Nat × Nat) (Nat × Nat)
  | (breaks, widest), cursor =>
    let isLeft := fun (cursor : Cursor) => indent.all (cursor.column < ·)
    if cursor.peek = some ' ' ∧ isLeft cursor then .more (breaks, widest) cursor.skip
    else
      let widest := max widest cursor.column
      if cursor.peek = some '\t' ∧ isLeft cursor then .fault
      else if cursor.peek.any isBreak then .more (breaks + 1, widest) cursor.skipBreak
      else .done (breaks, widest) cursor

/-- Scans empty lines and the indentation of the next one; gives the number of line breaks and the
widest indentation. -/
def indentation (indent : Option Nat) (cursor : Cursor) : Option ((Nat × Nat) × Cursor) :=
  cursor.scan (indentationStep indent) (0, 0)

/-- How far the scan of a block has come. -/
structure State where
  /-- The text, in reverse order. -/
  text : List Char
  /-- Whether a line break follows the text. -/
  broken : Bool
  /-- The number of line breaks of empty lines behind it. -/
  empty : Nat
  /-- Whether the last line begins with a blank. -/
  blankLine : Bool

/-- The text with the line breaks behind it, before a line that begins with a blank or not. -/
def State.joined (literal nextBlank : Bool) (state : State) : List Char :=
  let folds := !literal && state.broken && !state.blankLine && !nextBlank
  let first :=
    if folds then (if state.empty = 0 then [' '] else [])
    else if state.broken then ['\n']
    else []
  List.replicate state.empty '\n' ++ (first ++ state.text)

/-- The text with the line breaks that are kept at the end. -/
def State.chomped (chomping : Chomping) (state : State) : String :=
  let first := if state.broken && chomping != .strip then ['\n'] else []
  let others := if chomping = .keep then List.replicate state.empty '\n' else []
  String.ofList (others ++ (first ++ state.text)).reverse

/-- A step over a line and the empty lines behind it. -/
def step (literal : Bool) (chomping : Chomping) (indent : Nat) (state : State) (cursor : Cursor) :
    Cursor.Step State String :=
  if cursor.column = indent ∧ cursor.peek.isSome then
    let isBlankLine := cursor.peek.any isBlank
    let (line, cursor) := cursor.takeWhile fun c => !isBreak c
    let text := line.reverse ++ state.joined literal isBlankLine
    if cursor.peek.isNone then .done (State.chomped chomping ⟨text, false, 0, isBlankLine⟩) cursor
    else
      match indentation (some indent) cursor.skipBreak with
      | none => .fault
      | some ((empty, _), cursor) => .more ⟨text, true, empty, isBlankLine⟩ cursor
  else .done (state.chomped chomping) cursor

/-- Scans a block scalar, whose first character is the next one, within blocks indented to the
column `parent`; `none` outside of them. -/
def scan (literal : Bool) (parent : Option Nat) (cursor : Cursor) : Option (String × Cursor) := do
  let (chomping, increment, cursor) ← header cursor.skip
  let wanted := increment.map (parent.getD 0 + ·)
  let ((empty, widest), cursor) ← indentation wanted cursor
  let indent := wanted.getD (max widest (max ((parent.map (· + 1)).getD 0) 1))
  cursor.scan (step literal chomping indent) ⟨[], false, empty, false⟩

end Block

end PeerLink.Yaml
