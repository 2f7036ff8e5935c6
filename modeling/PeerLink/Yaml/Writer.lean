import PeerLink.Hex
import PeerLink.Yaml.Node

/-!
# Writing YAML

The text of a node in a single line: collections in braces and brackets, plain scalars as they are
and all others between double quotation marks.
-/

namespace PeerLink.Yaml

/-- How a character stands between double quotation marks. Control characters are written as their
code points, so that none of them breaks the line. -/
def escapeChar (c : Char) : List Char :=
  if c = '"' then ['\\', '"']
  else if c = '\\' then ['\\', '\\']
  else if c.toNat < 32 ∨ c.toNat = 127 then '\\' :: 'x' :: Hex.digits [UInt8.ofNat c.toNat]
  else [c]

/-- A text between double quotation marks. -/
def quote (text : String) : List Char :=
  '"' :: (text.toList.flatMap escapeChar ++ ['"'])

mutual

/-- The characters of a node. -/
def Node.chars : Node → List Char
  | .scalar .plain text => text.toList
  | .scalar (.tagged tag) text => (tag.handle ++ tag.suffix ++ " " ++ text).toList
  | .scalar .verbatim text => quote text
  | .sequence items => '[' :: (itemsChars true items ++ [']'])
  | .mapping entries => '\x7b' :: (entriesChars true entries ++ ['\x7d'])

/-- The characters of items, with commas between them. -/
def itemsChars (first : Bool) : List Node → List Char
  | [] => []
  | item :: rest => (if first then [] else [',', ' ']) ++ (item.chars ++ itemsChars false rest)

/-- The characters of entries, with commas between them. -/
def entriesChars (first : Bool) : List (Node × Node) → List Char
  | [] => []
  | (key, value) :: rest =>
    (if first then [] else [',', ' ']) ++
      (key.chars ++ (':' :: ' ' :: (value.chars ++ entriesChars false rest)))

end

/-- The text of a node. -/
def Node.text (node : Node) : String :=
  String.ofList node.chars

end PeerLink.Yaml
