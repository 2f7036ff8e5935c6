import PeerLink.Json.Binary64

/-!
# JSON trees

A JSON value as it is read: the members of an object in their order, with repetitions. `normal`
gives the value that a map from names to values holds: each name once, with the value given last,
in the order of the names.
-/

namespace PeerLink

/-- A JSON number: a whole number that fits a word of 64 bits, or a double. -/
inductive Json.Number where
  /-- A whole number from `-2 ^ 63` to `2 ^ 64 - 1`. -/
  | integer (n : Int)
  /-- Any other number. -/
  | double (x : Binary64)
  deriving DecidableEq, Repr

/-- A JSON value. -/
inductive Json where
  /-- The value `null`. -/
  | null
  /-- A truth value. -/
  | bool (b : Bool)
  /-- A number. -/
  | number (n : Json.Number)
  /-- A string. -/
  | string (s : String)
  /-- An array. -/
  | array (elements : List Json)
  /-- An object with its members as they are written. -/
  | object (members : List (String × Json))
  deriving Repr

/-- The simplest value. -/
instance : Inhabited Json := ⟨.null⟩

namespace Json

/-- Why a text is not read as a value of the expected shape. -/
inductive Fault where
  /-- The text is not JSON. -/
  | malformed
  /-- The value is not of the expected shape. -/
  | mismatch
  /-- The text ends too early. -/
  | truncated
  deriving DecidableEq, Repr

/-- Of members in the order of their names, the last one of each name. -/
def lastOfEach : List (String × Json) → List (String × Json) → List (String × Json)
  | kept, [] => kept.reverse
  | kept, [m] => (m :: kept).reverse
  | kept, m :: n :: rest =>
    if m.1 = n.1 then lastOfEach kept (n :: rest) else lastOfEach (m :: kept) (n :: rest)

/-- Members in the order of their names, of each name the one given last. -/
def sortMembers (members : List (String × Json)) : List (String × Json) :=
  lastOfEach [] (members.mergeSort fun m n => decide (m.1 ≤ n.1))

mutual

/-- The value with each object's names once and in order, the last member of a name winning. -/
def normal : Json → Json
  | array elements => array (normalElements [] elements)
  | object members => object (sortMembers (normalMembers [] members))
  | null => null
  | bool b => bool b
  | number n => number n
  | string s => string s

/-- The normal values of the elements of an array, behind `done` in reverse order. -/
def normalElements (done : List Json) : List Json → List Json
  | [] => done.reverse
  | element :: rest => normalElements (normal element :: done) rest

/-- The members of an object with normal values, behind `done` in reverse order. -/
def normalMembers (done : List (String × Json)) : List (String × Json) → List (String × Json)
  | [] => done.reverse
  | (name, value) :: rest => normalMembers ((name, normal value) :: done) rest

end

/-- The value of the first member of a name. -/
def member? (name : String) : Json → Option Json
  | object members => members.lookup name
  | _ => none

end Json

end PeerLink
