import PeerLink.Yaml.Lexer

/-!
# Nodes

The tree that a YAML document denotes. An alias is the node of the last anchor of its name in front
of it, which must be complete there; a value that is left out is the plain scalar `~`. A node that
an anchor or a tag announces and that does not follow is an empty scalar.
-/

namespace PeerLink.Yaml

/-- How the text of a scalar is to be understood. -/
inductive ScalarKind where
  /-- The text is plain, and may be a number or a truth value. -/
  | plain
  /-- The text is plain and has a tag. -/
  | tagged (tag : Tag)
  /-- The text is quoted or a block. -/
  | verbatim
  deriving DecidableEq, Repr

/-- A node. -/
inductive Node where
  /-- A text. -/
  | scalar (kind : ScalarKind) (text : String)
  /-- Items in their order. -/
  | sequence (items : List Node)
  /-- Keys and values as they are written. -/
  | mapping (entries : List (Node × Node))

namespace Node

/-- The value that is left out. -/
def absent : Node := scalar .plain "~"

/-- The kind of a scalar that is plain or not and may have a tag. -/
def kindOf (plain : Bool) (tag : Option Tag) : ScalarKind :=
  if plain then (match tag with | none => .plain | some tag => .tagged tag) else .verbatim

end Node

/-! ## Anchors -/

/-- The nodes that aliases may mean. -/
structure Anchors where
  /-- The names of the anchors with their numbers, the latest first. -/
  names : List (String × Nat)
  /-- The complete nodes by the numbers of their anchors. -/
  nodes : List (Nat × Node)

namespace Anchors

/-- No anchors. -/
def empty : Anchors := ⟨[], []⟩

/-- The number of the next anchor. -/
def nextNumber (anchors : Anchors) : Nat :=
  anchors.names.length

/-- The anchors with one more, whose node begins. -/
def begin (name : String) (anchors : Anchors) : Anchors :=
  { anchors with names := (name, anchors.nextNumber) :: anchors.names }

/-- The anchors with the node of the anchor of a number. -/
def complete (number : Nat) (node : Node) (anchors : Anchors) : Anchors :=
  { anchors with nodes := (number, node) :: anchors.nodes }

/-- The node of the last anchor of a name. -/
def get? (name : String) (anchors : Anchors) : Option Node := do
  let number ← anchors.names.lookup name
  anchors.nodes.lookup number

end Anchors

/-! ## Nodes of tokens -/

/-- What some tokens denote, with fewer than `bound` tokens behind them. -/
structure Parsed (α : Type) (bound : Nat) where
  /-- What the tokens denote. -/
  value : α
  /-- The anchors so far. -/
  anchors : Anchors
  /-- The tokens behind. -/
  rest : List Token
  /-- There are fewer tokens behind. -/
  shorter : rest.length < bound

namespace Parsed

/-- The same with another value, for a larger bound. -/
def as {α β : Type} {bound bound' : Nat} (parsed : Parsed α bound) (value : β)
    (h : bound ≤ bound') : Parsed β bound' :=
  ⟨value, parsed.anchors, parsed.rest, Nat.lt_of_lt_of_le parsed.shorter h⟩

end Parsed

/-- Whether a token may follow a key or a value of a block that is left out. -/
def Token.endsBlockNode : Token → Bool
  | key => true
  | value => true
  | blockEnd => true
  | _ => false

/-- Whether a token may follow an item of a block that is left out. -/
def Token.endsBlockItem : Token → Bool
  | blockEntry => true
  | blockEnd => true
  | _ => false

/-- Whether a token may follow an item of an indented sequence without an indentation of its own. -/
def Token.endsPlainItem : Token → Bool
  | blockEntry => true
  | token => token.endsBlockNode

/-- Whether a token may follow a value in braces that is left out. -/
def Token.endsFlowEntry : Token → Bool
  | flowEntry => true
  | flowMappingEnd => true
  | _ => false

/-- Whether a token may follow a value in brackets that is left out. -/
def Token.endsFlowItem : Token → Bool
  | flowEntry => true
  | flowSequenceEnd => true
  | _ => false

/-- Whether a token begins a node, where blocks may begin and where a dash may, or not. -/
def Token.beginsNode (block dash : Bool) : Token → Bool
  | scalar _ _ => true
  | flowSequence => true
  | flowMapping => true
  | blockSequence => block
  | blockMapping => block
  | blockEntry => dash
  | _ => false

mutual

/-- The node at the beginning of some tokens, where blocks may begin and where a dash may, or
not. -/
def parseNode (block dash : Bool) (anchors : Anchors) (tokens : List Token) :
    Option (Parsed Node tokens.length) :=
  match tokens with
  | [] => none
  | .alias name :: rest => do
    let node ← anchors.get? name
    some ⟨node, anchors, rest, by simp⟩
  | .anchor name :: .tag tag :: rest => do
    let number := anchors.nextNumber
    let node ← parseTagged block dash (some tag) (anchors.begin name) rest
    some { node.as node.value (by simp) with anchors := node.anchors.complete number node.value }
  | .anchor name :: rest => do
    let number := anchors.nextNumber
    let node ← parseTagged block dash none (anchors.begin name) rest
    some { node.as node.value (by simp) with anchors := node.anchors.complete number node.value }
  | .tag tag :: .anchor name :: rest => do
    let number := anchors.nextNumber
    let node ← parseTagged block dash (some tag) (anchors.begin name) rest
    some { node.as node.value (by simp) with anchors := node.anchors.complete number node.value }
  | .tag tag :: rest => do
    let node ← parseTagged block dash (some tag) anchors rest
    some (node.as node.value (by simp))
  | token :: rest => parseContent block dash none anchors (token :: rest)
termination_by (tokens.length, 2)

/-- The node behind an anchor or a tag; an empty scalar if none follows. -/
def parseTagged (block dash : Bool) (tag : Option Tag) (anchors : Anchors) (tokens : List Token) :
    Option (Parsed Node (tokens.length + 1)) :=
  match tokens with
  | [] => some ⟨.scalar (Node.kindOf true tag) "", anchors, [], by simp⟩
  | token :: rest =>
    if token.beginsNode block dash then do
      let node ← parseContent block dash tag anchors (token :: rest)
      some (node.as node.value (by simp))
    else some ⟨.scalar (Node.kindOf true tag) "", anchors, token :: rest, by simp⟩
termination_by (tokens.length, 1)

/-- The node without its anchor and tag. -/
def parseContent (block dash : Bool) (tag : Option Tag) (anchors : Anchors) (tokens : List Token) :
    Option (Parsed Node tokens.length) :=
  match tokens with
  | .scalar plain text :: rest =>
    some ⟨.scalar (Node.kindOf plain tag) text, anchors, rest, by simp⟩
  | .flowSequence :: rest => do
    let items ← parseFlowItems true anchors rest
    some (items.as (.sequence items.value) (by simp))
  | .flowMapping :: rest => do
    let entries ← parseFlowEntries true anchors rest
    some (entries.as (.mapping entries.value) (by simp))
  | .blockSequence :: rest =>
    if block then do
      let items ← parseBlockItems anchors rest
      some (items.as (.sequence items.value) (by simp))
    else none
  | .blockMapping :: rest =>
    if block then do
      let entries ← parseBlockEntries anchors rest
      some (entries.as (.mapping entries.value) (by simp))
    else none
  | .blockEntry :: rest =>
    if dash then do
      let items ← parsePlainItems anchors rest
      some (items.as (.sequence items.value) (by simp))
    else none
  | _ => none
termination_by (tokens.length, 0)

/-- The node at the beginning of some tokens, or the value that is left out if the first of them
says so. -/
def parseOptional (isLeftOut : Token → Bool) (block dash : Bool) (anchors : Anchors)
    (tokens : List Token) : Option (Parsed Node (tokens.length + 1)) :=
  match tokens with
  | [] => none
  | token :: rest =>
    if isLeftOut token then some ⟨.absent, anchors, token :: rest, by simp⟩
    else do
      let node ← parseNode block dash anchors (token :: rest)
      some (node.as node.value (by simp))
termination_by (tokens.length, 3)

/-- The items of a sequence in block form, up to its end. -/
def parseBlockItems (anchors : Anchors) (tokens : List Token) :
    Option (Parsed (List Node) tokens.length) :=
  match tokens with
  | .blockEnd :: rest => some ⟨[], anchors, rest, by simp⟩
  | .blockEntry :: rest => do
    let item ← parseOptional Token.endsBlockItem true false anchors rest
    have := item.shorter
    let items ← parseBlockItems item.anchors item.rest
    some (items.as (item.value :: items.value) (by grind))
  | _ => none
termination_by (tokens.length, 0)
decreasing_by all_goals simp_all [Prod.lex_def]

/-- The items of a sequence in block form that is not indented, behind the first dash. -/
def parsePlainItems (anchors : Anchors) (tokens : List Token) :
    Option (Parsed (List Node) (tokens.length + 1)) := do
  let item ← parseOptional Token.endsPlainItem true false anchors tokens
  have := item.shorter
  match h : item.rest with
  | .blockEntry :: rest =>
    have : rest.length < tokens.length := by rw [h] at this; simp at this; omega
    let items ← parsePlainItems item.anchors rest
    some (items.as (item.value :: items.value) (by omega))
  | _ => some (item.as [item.value] (Nat.le_refl _))
termination_by (tokens.length, 4)

/-- The entries of a mapping in block form, up to its end. -/
def parseBlockEntries (anchors : Anchors) (tokens : List Token) :
    Option (Parsed (List (Node × Node)) tokens.length) :=
  match tokens with
  | .blockEnd :: rest => some ⟨[], anchors, rest, by simp⟩
  | .key :: rest => do
    let key ← parseOptional Token.endsBlockNode true true anchors rest
    have := key.shorter
    let value ← parseBlockValue key.anchors key.rest
    have := value.shorter
    let entries ← parseBlockEntries value.anchors value.rest
    some (entries.as ((key.value, value.value) :: entries.value) (by grind))
  | .value :: rest => do
    let value ← parseOptional Token.endsBlockNode true true anchors rest
    have := value.shorter
    let entries ← parseBlockEntries value.anchors value.rest
    some (entries.as ((.absent, value.value) :: entries.value) (by grind))
  | _ => none
termination_by (tokens.length, 0)
decreasing_by all_goals simp_all [Prod.lex_def] <;> omega

/-- The value behind a key in block form. -/
def parseBlockValue (anchors : Anchors) (tokens : List Token) :
    Option (Parsed Node (tokens.length + 1)) :=
  match tokens with
  | .value :: rest => do
    let value ← parseOptional Token.endsBlockNode true true anchors rest
    some (value.as value.value (by simp))
  | tokens => some ⟨.absent, anchors, tokens, by simp⟩
termination_by (tokens.length, 4)

/-- The items in brackets, up to the closing one; a comma is in front of each but the `first`. -/
def parseFlowItems (first : Bool) (anchors : Anchors) (tokens : List Token) :
    Option (Parsed (List Node) tokens.length) :=
  match tokens with
  | .flowSequenceEnd :: rest => some ⟨[], anchors, rest, by simp⟩
  | .flowEntry :: .flowSequenceEnd :: rest =>
    if first then none else some ⟨[], anchors, rest, by grind⟩
  | .flowEntry :: rest =>
    if first then none
    else do
      let item ← parseFlowItem anchors rest
      have := item.shorter
      let items ← parseFlowItems false item.anchors item.rest
      some (items.as (item.value :: items.value) (by grind))
  | tokens =>
    if first then do
      let item ← parseFlowItem anchors tokens
      have := item.shorter
      let items ← parseFlowItems false item.anchors item.rest
      some (items.as (item.value :: items.value) (by omega))
    else none
termination_by (tokens.length, 6)
decreasing_by all_goals simp_all [Prod.lex_def] <;> omega

/-- An item in brackets: a node, or a mapping of a single key without braces. -/
def parseFlowItem (anchors : Anchors) (tokens : List Token) :
    Option (Parsed Node tokens.length) :=
  match tokens with
  -- A key that is left out takes the mark behind it along.
  | .key :: .value :: rest => parseFlowPair ⟨.absent, anchors, rest, by grind⟩
  | .key :: .flowEntry :: rest => parseFlowPair ⟨.absent, anchors, rest, by grind⟩
  | .key :: .flowSequenceEnd :: rest => parseFlowPair ⟨.absent, anchors, rest, by grind⟩
  | .key :: rest => do
    let key ← parseNode false false anchors rest
    have := key.shorter
    parseFlowPair (key.as key.value (by simp))
  | tokens => parseNode false false anchors tokens
termination_by (tokens.length, 5)
decreasing_by all_goals simp_all [Prod.lex_def, Parsed.as] <;> omega

/-- The mapping of a single key in brackets, of which the key is known. -/
def parseFlowPair {bound : Nat} (key : Parsed Node bound) :
    Option (Parsed Node bound) :=
  have := key.shorter
  match h : key.rest with
  | .value :: rest => do
    have : rest.length + 1 < bound := by rw [h] at this; simpa using this
    let value ← parseOptional Token.endsFlowItem false false key.anchors rest
    some (value.as (.mapping [(key.value, value.value)]) (by omega))
  | _ => some (key.as (.mapping [(key.value, .absent)]) (Nat.le_refl _))
termination_by (key.rest.length, 4)
decreasing_by all_goals simp_all [Prod.lex_def]

/-- The entries in braces, up to the closing one; a comma is in front of each but the `first`. -/
def parseFlowEntries (first : Bool) (anchors : Anchors) (tokens : List Token) :
    Option (Parsed (List (Node × Node)) tokens.length) :=
  match tokens with
  | .flowMappingEnd :: rest => some ⟨[], anchors, rest, by simp⟩
  | .flowEntry :: .flowMappingEnd :: rest =>
    if first then none else some ⟨[], anchors, rest, by grind⟩
  | .flowEntry :: rest =>
    if first then none
    else do
      let entry ← parseFlowPairEntry anchors rest
      have := entry.shorter
      let entries ← parseFlowEntries false entry.anchors entry.rest
      some (entries.as (entry.value :: entries.value) (by grind))
  | tokens =>
    if first then do
      let entry ← parseFlowPairEntry anchors tokens
      have := entry.shorter
      let entries ← parseFlowEntries false entry.anchors entry.rest
      some (entries.as (entry.value :: entries.value) (by omega))
    else none
termination_by (tokens.length, 6)
decreasing_by all_goals simp_all [Prod.lex_def] <;> omega

/-- An entry in braces; the key or the value or both may be left out. -/
def parseFlowPairEntry (anchors : Anchors) (tokens : List Token) :
    Option (Parsed (Node × Node) tokens.length) :=
  match tokens with
  | .key :: .value :: rest => do
    let value ← parseOptional Token.endsFlowEntry false false anchors rest
    some (value.as (.absent, value.value) (by simp))
  | .key :: rest => do
    let key ← parseOptional Token.endsFlowEntry false false anchors rest
    have := key.shorter
    match h : key.rest with
    | .value :: behind =>
      have : behind.length + 1 < rest.length + 1 := by rw [h] at this; simpa using this
      let value ← parseOptional Token.endsFlowEntry false false key.anchors behind
      some (value.as (key.value, value.value) (by grind))
    | _ => some (key.as (key.value, .absent) (by simp))
  | .value :: rest => do
    let value ← parseOptional Token.endsFlowEntry false false anchors rest
    some (value.as (.absent, value.value) (by simp))
  | tokens => do
    let key ← parseNode false false anchors tokens
    some (key.as (key.value, .absent) (Nat.le_refl _))
termination_by (tokens.length, 5)
decreasing_by all_goals simp_all [Prod.lex_def] <;> omega

end

/-! ## Documents -/

namespace Node

/-- The node of a document behind its first dashes, and the tokens behind it. -/
def ofContent (tokens : List Token) : Option (Node × List Token) :=
  match tokens with
  | [] => some (absent, [])
  | .directive :: rest => some (absent, .directive :: rest)
  | .documentStart :: rest => some (absent, .documentStart :: rest)
  | .documentEnd :: rest => some (absent, .documentEnd :: rest)
  | tokens => (parseNode true false .empty tokens).map fun node => (node.value, node.rest)

/-- The node of the only document of some tokens. Its dashes may be left out if there are no
directives. -/
def ofTokens? (tokens : List Token) : Option Node := do
  let (node, rest) ←
    match tokens with
    | [] => none
    | .directive :: rest =>
      match rest.dropWhile (· == .directive) with
      | .documentStart :: rest => ofContent rest
      | _ => none
    | .documentStart :: rest => ofContent rest
    | tokens => (parseNode true false .empty tokens).map fun node => (node.value, node.rest)
  if rest.all (· == .documentEnd) then some node else none

/-- The node of the only document of a text. -/
def ofText? (text : String) : Option Node :=
  (tokens? text).bind ofTokens?

end Node

end PeerLink.Yaml
