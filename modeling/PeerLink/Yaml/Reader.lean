import PeerLink.Text.Decimal
import PeerLink.Yaml.Node

/-!
# Values of nodes

What a node is read as where a text, a truth value, a number, a list or a record is expected. A
plain scalar is a text, a number or a truth value by what it looks like; where a text is expected
every scalar is its own text. A record is a mapping from the names of its settings, or a sequence
of their values in the order of the settings.
-/

namespace PeerLink.Yaml

/-! ## Numbers -/

/-- The number that at least one digit of a base denotes. -/
def digitsOf? (base : Nat) (text : List Char) : Option Nat :=
  if text.isEmpty then none
  else
    text.foldlM
      (fun n c => ((Quoted.hexValue? c).filter (· < base)).map (base * n + ·)) 0

/-- The base that a letter behind a leading zero announces. -/
def baseOf? (letter : Char) : Option Nat :=
  if letter = 'x' then some 16
  else if letter = 'o' then some 8
  else if letter = 'b' then some 2
  else none

/-- The number that a plain scalar without a sign denotes. Decimal digits have no leading zero. -/
def unsigned? (text : List Char) : Option Nat :=
  match text with
  | ['0'] => some 0
  | '0' :: letter :: rest => (baseOf? letter).bind fun base => digitsOf? base rest
  | text => digitsOf? 10 text

/-- The natural number that a plain scalar denotes. Behind a minus sign only zero is one. -/
def natural? (text : List Char) : Option Nat :=
  match text with
  | '+' :: rest => unsigned? rest
  | '-' :: rest => (unsigned? rest).filter (· = 0)
  | text => unsigned? text

/-- The natural number that decimal digits denote, which may have leading zeros and a sign. -/
def decimal? (text : List Char) : Option Nat :=
  match text with
  | '+' :: rest => Text.Decimal.read? rest
  | '-' :: rest => (Text.Decimal.read? rest).filter (· = 0)
  | text => Text.Decimal.read? text

/-- The truth value that a text denotes. -/
def truth? (text : String) : Option Bool :=
  if text = "true" then some true else if text = "false" then some false else none

namespace Node

/-- The text of a scalar. -/
def text? : Node → Option String
  | scalar _ text => some text
  | _ => none

/-- The truth value of a scalar. -/
def bool? : Node → Option Bool
  | scalar .plain text => truth? text
  | scalar (.tagged tag) text => if tag = ⟨"!!", "bool"⟩ then truth? text else none
  | _ => none

/-- The largest number that a scalar with the tag of numbers is read as. -/
def maxTagged : Nat := UInt64.size / 2 - 1

/-- The number of a scalar, at most `limit`. -/
def natural? (limit : Nat) : Node → Option Nat
  | scalar .plain text => (Yaml.natural? text.toList).filter (· ≤ limit)
  | scalar (.tagged tag) text =>
    if tag = ⟨"!!", "int"⟩ then (decimal? text.toList).filter (· ≤ min limit maxTagged) else none
  | _ => none

/-- The values of the items of a sequence. -/
def list? {α : Type} (read : Node → Option α) : Node → Option (List α)
  | sequence items => items.mapM read
  | _ => none

end Node

/-! ## Records -/

/-- A setting of a record. -/
structure Setting (σ : Type) where
  /-- The name of the setting. -/
  name : String
  /-- The record after the setting is given by a node. -/
  read : Node → σ → Option σ

/-- The setting of a value that is read by `read` and put into the record by `put`. -/
def Setting.of {σ α : Type} (name : String) (read : Node → Option α) (put : α → σ → σ) :
    Setting σ where
  name := name
  read node record := (read node).map (put · record)

/-- Reads the entries of a mapping; no setting may be given twice. -/
def readEntries {σ : Type} (settings : List (Setting σ)) (record : σ) :
    List (Node × Node) → Option σ
  | [] => some record
  | (key, value) :: rest => do
    let name ← key.text?
    let setting ← settings.find? (·.name = name)
    let record ← setting.read value record
    readEntries (settings.filter (·.name ≠ name)) record rest

/-- Reads the items of a sequence, one for each of the first settings. -/
def readItems {σ : Type} : List (Setting σ) → σ → List Node → Option σ
  | _, record, [] => some record
  | [], _, _ :: _ => none
  | setting :: settings, record, item :: rest => do
    let record ← setting.read item record
    readItems settings record rest

/-- The record of a node; a setting that is left out is as in `start`. -/
def Node.record? {σ : Type} (settings : List (Setting σ)) (start : σ) : Node → Option σ
  | mapping entries => readEntries settings start entries
  | sequence items => readItems settings start items
  | scalar _ _ => none

end PeerLink.Yaml
