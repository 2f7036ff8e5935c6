import PeerLink.Json.Scan

/-!
# Skipping JSON text

Passes over a value that nobody asks for. Only the form of the text is checked: numbers may have any
magnitude, strings any octets and containers any depth. The containers that are open are kept on a
stack, the innermost first.
-/

namespace PeerLink.Json

/-- The two kinds of containers. -/
inductive Container where
  /-- An array. -/
  | array
  /-- An object. -/
  | object
  deriving DecidableEq, Repr

/-- The octet that closes a container. -/
def Container.closing : Container → UInt8
  | array => 93
  | object => 125

/-- What may follow at a place of the text. -/
inductive Expected where
  /-- A value. -/
  | value
  /-- The first element of an array, or its end. -/
  | firstElement
  /-- A name and its value. -/
  | member
  /-- The first name and value of an object, or its end. -/
  | firstMember
  /-- A comma, or the end of the innermost container. -/
  | separator
  deriving DecidableEq, Repr

/-- What stands in front of the first value of a container just opened. -/
def Container.first : Container → Expected
  | array => .firstElement
  | object => .firstMember

/-- What stands behind a comma in a container. -/
def Container.next : Container → Expected
  | array => .value
  | object => .member

/-- The container that an octet opens. -/
def Container.ofOpening? (b : UInt8) : Option Container :=
  if b = 91 then some array else if b = 123 then some object else none

/-- Skips a value without parts whose first octet is `b`. -/
def skipScalar (b : UInt8) (rest : Bytes) : Except Fault (Scanned Unit (b :: rest)) :=
  if b = 110 then scanWord () b nullTail rest
  else if b = 116 then scanWord () b trueTail rest
  else if b = 102 then scanWord () b falseTail rest
  else if b = 34 then
    match skipString rest with
    | .error fault => .error fault
    | .ok s => .ok (s.weaken (length_le_cons b rest))
  else if b = 45 ∨ Number.isDigit b then skipNumber (b :: rest)
  else .error .malformed

/-- Skips a name from behind its opening mark, and the colon behind it. -/
def skipName : Scanner Unit := fun input =>
  match skipString input with
  | .error fault => .error fault
  | .ok s =>
    match h : skipSpace s.rest with
    | [] => .error .truncated
    | b :: rest =>
      if b = 58 then
        .ok ⟨(), rest, Nat.lt_trans (length_lt_of_skipSpace h) s.shorter⟩
      else .error .malformed

/-- Skips up to the end of the outermost open container, or one value if none is open. -/
def skipLoop (input : Bytes) (expected : Expected) (stack : List Container) (text : Bytes)
    (bound : text.length ≤ input.length) : Except Fault (Scanned Unit input) :=
  match h : skipSpace text with
  | [] => .error .truncated
  | b :: rest =>
    have shorter : rest.length < text.length := length_lt_of_skipSpace h
    have here : (b :: rest).length ≤ text.length := length_cons_le_of_skipSpace h
    match stack, expected with
    | top :: outer, .separator =>
      if b = 44 then skipLoop input top.next (top :: outer) rest (by omega)
      else if b = top.closing then
        if outer.isEmpty then .ok ⟨(), rest, by omega⟩
        else skipLoop input .separator outer rest (by omega)
      else .error .malformed
    | [], .separator => .error .malformed
    | stack, .member =>
      if b = 34 then
        match skipName rest with
        | .error fault => .error fault
        | .ok s =>
          have := s.shorter
          skipLoop input .value stack s.rest (by omega)
      else .error .malformed
    | stack, .firstMember =>
      if b = 34 then
        match skipName rest with
        | .error fault => .error fault
        | .ok s =>
          have := s.shorter
          skipLoop input .value stack s.rest (by omega)
      else if b = 125 then
        if (stack.drop 1).isEmpty then .ok ⟨(), rest, by omega⟩
        else skipLoop input .separator (stack.drop 1) rest (by omega)
      else .error .malformed
    | stack, place =>
      if place = .firstElement ∧ b = 93 then
        if (stack.drop 1).isEmpty then .ok ⟨(), rest, by omega⟩
        else skipLoop input .separator (stack.drop 1) rest (by omega)
      else
        match Container.ofOpening? b with
        | some container => skipLoop input container.first (container :: stack) rest (by omega)
        | none =>
          match skipScalar b rest with
          | .error fault => .error fault
          | .ok s =>
            have := s.shorter
            if stack.isEmpty then .ok ⟨(), s.rest, by omega⟩
            else skipLoop input .separator stack s.rest (by omega)
termination_by text.length

/-- Skips a value. -/
def skipValue : Scanner Unit := fun input =>
  skipLoop input .value [] input (length_self_le input)

end PeerLink.Json
