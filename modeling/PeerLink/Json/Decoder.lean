import PeerLink.Json.Skip

/-!
# Decoders

A decoder reads values of one type in two ways: straight from the text, or from a tree that was read
before its shape was known. Read from the text, members with unknown names are skipped and the fault
found first in the order of the text is the one reported; read from a tree, every fault is a wrong
shape, since the text was checked when the tree was read.

Records are read from objects, whose members may come in any order, and from arrays, whose elements
are the fields in order. A record told from others by a tag is always read from a tree, because the
tag may be the last member.
-/

namespace PeerLink.Json

/-- The deepest nesting of arrays and objects that is read, less one. -/
def depthLimit : Nat := 127

/-! ## Arrays and objects in a text -/

/-- The place where the next element or member of a container begins, or its end. -/
inductive Next (input : Bytes) where
  /-- The end of the container: the text begins with the octet that closes it. -/
  | stop (rest : Bytes) (shorter : rest.length < input.length)
  /-- Something else, at which the text begins. -/
  | item (text : Bytes) (bound : text.length ≤ input.length)

/-- What follows an octet and the blanks on both sides of it is no longer than the text. -/
theorem length_cons_le_of_comma {input rest rest' : Bytes} {b b' : UInt8}
    (h : skipSpace input = b :: rest) (h' : skipSpace rest = b' :: rest') :
    (b' :: rest').length ≤ input.length :=
  Nat.le_trans (length_cons_le_of_skipSpace h') (Nat.le_of_lt (length_lt_of_skipSpace h))

/-- Goes to the next element of an array, over the comma in front of it unless it is the `first`
one. -/
def nextElement (first : Bool) (input : Bytes) : Except Fault (Next input) :=
  match h : skipSpace input with
  | [] => .error .truncated
  | b :: rest =>
    have shorter := length_lt_of_skipSpace h
    if b = 93 then .ok (.stop rest shorter)
    else if first then .ok (.item (b :: rest) (length_cons_le_of_skipSpace h))
    else if b = 44 then
      match h' : skipSpace rest with
      | [] => .error .truncated
      | b' :: rest' =>
        if b' = 93 then .error .malformed
        else .ok (.item (b' :: rest') (length_cons_le_of_comma h h'))
    else .error .malformed

/-- Goes to the next member of an object, over the comma in front of it unless it is the `first`
one, and over the opening mark of its name. -/
def nextMember (first : Bool) (input : Bytes) : Except Fault (Next input) :=
  match h : skipSpace input with
  | [] => .error .truncated
  | b :: rest =>
    have shorter := length_lt_of_skipSpace h
    if b = 125 then .ok (.stop rest shorter)
    else if first then
      if b = 34 then .ok (.item rest (Nat.le_of_lt shorter)) else .error .malformed
    else if b = 44 then
      match h' : skipSpace rest with
      | [] => .error .truncated
      | b' :: rest' =>
        if b' = 34 then .ok (.item rest' (by
          have := length_lt_of_skipSpace h'
          omega))
        else .error .malformed
    else .error .malformed

/-- Takes a name from behind its opening mark, and the colon behind it. -/
def scanName : Scanner String := fun input =>
  match scanString input with
  | .error fault => .error fault
  | .ok s =>
    match h : skipSpace s.rest with
    | [] => .error .truncated
    | b :: rest =>
      if b = 58 then
        .ok ⟨s.value, rest, Nat.lt_trans (length_lt_of_skipSpace h) s.shorter⟩
      else .error .malformed

/-- Takes the elements of an array up to its end; `done` holds the ones taken in reverse order. -/
def scanElements {α : Type} (element : Scanner α) (input : Bytes) (first : Bool) (done : List α)
    (text : Bytes) (bound : text.length ≤ input.length) :
    Except Fault (Scanned (List α) input) :=
  match nextElement first text with
  | .error fault => .error fault
  | .ok (.stop rest h) => .ok ⟨done.reverse, rest, by omega⟩
  | .ok (.item place h) =>
    match element place with
    | .error fault => .error fault
    | .ok s =>
      have := s.shorter
      scanElements element input false (s.value :: done) s.rest (by omega)
termination_by text.length

/-- Takes the members of an object up to its end, each by its name into what the ones before made;
`finish` looks at the outcome when the end is reached. -/
def scanMembers {σ β : Type} (member : σ → String → Scanner σ) (finish : σ → Except Fault β)
    (input : Bytes) (first : Bool) (state : σ) (text : Bytes)
    (bound : text.length ≤ input.length) : Except Fault (Scanned β input) :=
  match nextMember first text with
  | .error fault => .error fault
  | .ok (.stop rest h) =>
    match finish state with
    | .error fault => .error fault
    | .ok value => .ok ⟨value, rest, by omega⟩
  | .ok (.item place h) =>
    match scanName place with
    | .error fault => .error fault
    | .ok name =>
      have := name.shorter
      match member state name.value name.rest with
      | .error fault => .error fault
      | .ok s =>
        have := s.shorter
        scanMembers member finish input false s.value s.rest (by omega)
termination_by text.length

/-- Takes the end of an array in which no element is left. -/
def scanArrayEnd {α : Type} (value : α) (input text : Bytes) (bound : text.length ≤ input.length) :
    Except Fault (Scanned α input) :=
  match h : skipSpace text with
  | [] => .error .truncated
  | b :: rest =>
    if b = 93 then .ok ⟨value, rest, Nat.lt_of_lt_of_le (length_lt_of_skipSpace h) bound⟩
    else .error .malformed

/-! ## Trees -/

/-- Takes a value without parts whose first octet is `b`. -/
def scanScalar (b : UInt8) (rest : Bytes) : Except Fault (Scanned Json (b :: rest)) :=
  if b = 110 then scanWord .null b nullTail rest
  else if b = 116 then scanWord (.bool true) b trueTail rest
  else if b = 102 then scanWord (.bool false) b falseTail rest
  else if b = 34 then
    match scanString rest with
    | .error fault => .error fault
    | .ok s => .ok ((s.map .string).weaken (length_le_cons b rest))
  else if b = 45 ∨ Number.isDigit b then
    match scanNumber (b :: rest) with
    | .error fault => .error fault
    | .ok s => .ok (s.map .number)
  else .error .malformed

/-- Takes a value of any shape with at most so many levels of arrays and objects. -/
def scanTree (depth : Nat) : Scanner Json := fun input =>
  match h : skipSpace input with
  | [] => .error .truncated
  | b :: rest =>
    have shorter := length_lt_of_skipSpace h
    have here : (b :: rest).length ≤ input.length := length_cons_le_of_skipSpace h
    match Container.ofOpening? b, depth with
    | none, _ =>
      match scanScalar b rest with
      | .error fault => .error fault
      | .ok s => .ok (s.weaken here)
    | some _, 0 => .error .malformed
    | some .array, depth + 1 =>
      match scanElements (scanTree depth) rest true [] rest (length_self_le rest) with
      | .error fault => .error fault
      | .ok s => .ok ((s.map .array).weaken (Nat.le_of_lt shorter))
    | some .object, depth + 1 =>
      let member (done : List (String × Json)) (name : String) : Scanner (List (String × Json)) :=
        fun text =>
          match scanTree depth text with
          | .error fault => .error fault
          | .ok s => .ok (s.map fun value => (name, value) :: done)
      match scanMembers member (fun done => .ok (Json.object done.reverse)) rest true [] rest
          (length_self_le rest) with
      | .error fault => .error fault
      | .ok s => .ok (s.weaken (Nat.le_of_lt shorter))

/-- The fault of a text whose value is not of the expected shape: a value without parts is read
first, and may be faulty itself. -/
def shapeFault (b : UInt8) (rest : Bytes) : Fault :=
  match Container.ofOpening? b with
  | some _ => .mismatch
  | none =>
    match scanScalar b rest with
    | .error fault => fault
    | .ok _ => .mismatch

/-! ## Decoders and their combinators -/

/-- How values of a type are read. -/
structure Decoder (α : Type) where
  /-- Reads from the front of a text with at most so many levels of arrays and objects. -/
  scan : (depth : Nat) → Scanner α
  /-- Reads from a tree. -/
  ofTree : Json → Option α

namespace Decoder

/-- Reads a whole text, around which only blanks may stand. -/
def decode {α : Type} (d : Decoder α) (text : Bytes) : Except Fault α :=
  match d.scan depthLimit text with
  | .error fault => .error fault
  | .ok s => if (skipSpace s.rest).isEmpty then .ok s.value else .error .malformed

/-- Reads a value of any shape. -/
def any : Decoder Json where
  scan := scanTree
  ofTree := some

/-- Reads what `convert` makes of the values of another decoder; a value that it refuses is of the
wrong shape. -/
def filterMap {α β : Type} (convert : α → Option β) (d : Decoder α) : Decoder β where
  scan depth input :=
    match d.scan depth input with
    | .error fault => .error fault
    | .ok s =>
      match convert s.value with
      | none => .error .mismatch
      | some value => .ok (s.map fun _ => value)
  ofTree tree := d.ofTree tree >>= convert

/-- Reads a value without parts of the expected kind. -/
def scalar {α : Type} (convert : Json → Option α) : Decoder α where
  scan _ input :=
    match h : skipSpace input with
    | [] => .error .truncated
    | b :: rest =>
      match Container.ofOpening? b with
      | some _ => .error .mismatch
      | none =>
        match scanScalar b rest with
        | .error fault => .error fault
        | .ok s =>
          match convert s.value with
          | none => .error .mismatch
          | some value =>
            .ok ((s.map fun _ => value).weaken (length_cons_le_of_skipSpace h))
  ofTree := convert

/-- Reads a string. -/
def string : Decoder String :=
  scalar fun
    | .string s => some s
    | _ => none

/-- Reads a truth value. -/
def bool : Decoder Bool :=
  scalar fun
    | .bool b => some b
    | _ => none

/-- Reads a whole number from zero up to a limit. -/
def natural (limit : Nat) : Decoder Nat :=
  scalar fun
    | .number (.integer n) => if 0 ≤ n ∧ n ≤ limit then some n.toNat else none
    | _ => none

/-- Reads `null`, or a value of another decoder. -/
def optional {α : Type} (d : Decoder α) : Decoder (Option α) where
  scan depth input :=
    match h : skipSpace input with
    | [] => .error .truncated
    | b :: rest =>
      have here : (b :: rest).length ≤ input.length := length_cons_le_of_skipSpace h
      if b = 110 then
        match scanWord none b nullTail rest with
        | .error fault => .error fault
        | .ok s => .ok (s.weaken here)
      else
        match d.scan depth (b :: rest) with
        | .error fault => .error fault
        | .ok s => .ok ((s.map some).weaken here)
  ofTree
    | .null => some none
    | tree => (d.ofTree tree).map some

/-- Reads an array of values of another decoder. -/
def list {α : Type} (d : Decoder α) : Decoder (List α) where
  scan depth input :=
    match h : skipSpace input with
    | [] => .error .truncated
    | b :: rest =>
      if b = 91 then
        match depth with
        | 0 => .error .malformed
        | depth + 1 =>
          match scanElements (d.scan depth) rest true [] rest (length_self_le rest) with
          | .error fault => .error fault
          | .ok s => .ok (s.weaken (Nat.le_of_lt (length_lt_of_skipSpace h)))
      else .error (shapeFault b rest)
  ofTree
    | .array elements => elements.mapM d.ofTree
    | _ => none

/-! ## Records -/

/-- A field of a record; the values of the fields read so far are kept in a `σ`. -/
structure Field (σ : Type) where
  /-- The name of the field. -/
  name : String
  /-- Reads the field from a text. -/
  scan : (depth : Nat) → σ → Scanner σ
  /-- Reads the field from a tree. -/
  ofTree : σ → Json → Option σ
  /-- What an object without the field means, if it may be absent. -/
  absent : σ → Option σ
  /-- What an array that ends before the field means, if it may. -/
  cutOff : σ → Option σ

/-- A field that a decoder reads; it may not be absent. -/
def Field.required {σ α : Type} (name : String) (d : Decoder α) (set : σ → α → σ) : Field σ where
  name := name
  scan depth state input :=
    match d.scan depth input with
    | .error fault => .error fault
    | .ok s => .ok (s.map (set state))
  ofTree state tree := (d.ofTree tree).map (set state)
  absent _ := none
  cutOff _ := none

/-- A field that a decoder reads; when it is absent the state stays as it is. -/
def Field.defaulted {σ α : Type} (name : String) (d : Decoder α) (set : σ → α → σ) : Field σ :=
  { Field.required name d set with
    absent := some
    cutOff := some }

/-- Gives the fields that are not among the names `seen` what their absence means. -/
def fillAbsent {σ : Type} (seen : List String) : List (Field σ) → σ → Option σ
  | [], state => some state
  | field :: rest, state =>
    if seen.contains field.name then fillAbsent seen rest state
    else field.absent state >>= fillAbsent seen rest

/-- Gives fields behind the end of an array what their absence means. -/
def fillCutOff {σ : Type} : List (Field σ) → σ → Option σ
  | [], state => some state
  | field :: rest, state => field.cutOff state >>= fillCutOff rest

/-- The outcome of a record that is complete, or a wrong shape. -/
def complete {σ : Type} (state : Option σ) : Except Fault σ :=
  match state with
  | none => .error .mismatch
  | some state => .ok state

/-- Reads the value of a member into a field with its name; other members are skipped, and no field
may be given twice. -/
def scanField {σ : Type} (fields : List (Field σ)) (depth : Nat) (state : List String × σ)
    (name : String) : Scanner (List String × σ) := fun input =>
  match fields.find? (·.name == name) with
  | none =>
    match skipValue input with
    | .error fault => .error fault
    | .ok s => .ok (s.map fun _ => state)
  | some field =>
    if state.1.contains name then .error .mismatch
    else
      match field.scan depth state.2 input with
      | .error fault => .error fault
      | .ok s => .ok (s.map fun value => (name :: state.1, value))

/-- Reads the fields of a record in order from the elements of an array. -/
def scanFields {σ : Type} (depth : Nat) (input : Bytes) :
    (fields : List (Field σ)) → (first : Bool) → σ → (text : Bytes) →
      text.length ≤ input.length → Except Fault (Scanned σ input)
  | [], _, state, text, bound => scanArrayEnd state input text bound
  | field :: fields, first, state, text, bound =>
    match nextElement first text with
    | .error fault => .error fault
    | .ok (.stop rest h) =>
      match complete (fillCutOff (field :: fields) state) with
      | .error fault => .error fault
      | .ok state => .ok ⟨state, rest, by omega⟩
    | .ok (.item place h) =>
      match field.scan depth state place with
      | .error fault => .error fault
      | .ok s =>
        have := s.shorter
        scanFields depth input fields false s.value s.rest (by omega)

/-- Reads the members of an object in a tree into the fields. -/
def fieldsOfMembers {σ : Type} (fields : List (Field σ)) :
    List String → σ → List (String × Json) → Option σ
  | seen, state, [] => fillAbsent seen fields state
  | seen, state, (name, tree) :: rest =>
    match fields.find? (·.name == name) with
    | none => fieldsOfMembers fields seen state rest
    | some field =>
      if seen.contains name then none
      else
        match field.ofTree state tree with
        | none => none
        | some state => fieldsOfMembers fields (name :: seen) state rest

/-- Reads the elements of an array in a tree into the fields. -/
def fieldsOfElements {σ : Type} : List (Field σ) → σ → List Json → Option σ
  | [], state, [] => some state
  | [], _, _ :: _ => none
  | fields, state, [] => fillCutOff fields state
  | field :: fields, state, tree :: rest =>
    match field.ofTree state tree with
    | none => none
    | some state => fieldsOfElements fields state rest

/-- Reads a record of fields, from an object or from an array. -/
def record {σ : Type} (fields : List (Field σ)) (start : σ) : Decoder σ where
  scan depth input :=
    match h : skipSpace input with
    | [] => .error .truncated
    | b :: rest =>
      have shorter := length_lt_of_skipSpace h
      match Container.ofOpening? b, depth with
      | none, _ => .error (shapeFault b rest)
      | some _, 0 => .error .malformed
      | some .array, depth + 1 =>
        match scanFields depth rest fields true start rest (length_self_le rest) with
        | .error fault => .error fault
        | .ok s => .ok (s.weaken (Nat.le_of_lt shorter))
      | some .object, depth + 1 =>
        match scanMembers (scanField fields depth)
            (fun (seen, state) => complete (fillAbsent seen fields state)) rest true ([], start)
            rest (length_self_le rest) with
        | .error fault => .error fault
        | .ok s => .ok (s.weaken (Nat.le_of_lt shorter))
  ofTree
    | .object members => fieldsOfMembers fields [] start members
    | .array elements => fieldsOfElements fields start elements
    | _ => none

/-! ## Tagged records -/

/-- Takes a member of a tagged object: the tag, which must be the given one and stand once, or any
other member, which is kept as a tree. -/
def scanTagged (tagName tag : String) (depth : Nat) (state : Bool × List (String × Json))
    (name : String) : Scanner (Bool × List (String × Json)) := fun input =>
  if name = tagName then
    if state.1 then .error .mismatch
    else
      match string.scan depth input with
      | .error fault => .error fault
      | .ok s => if s.value = tag then .ok (s.map fun _ => (true, state.2)) else .error .mismatch
  else
    match scanTree depth input with
    | .error fault => .error fault
    | .ok s => .ok (s.map fun value => (state.1, (name, value) :: state.2))

/-- Takes the tag that is the first element of an array, and the other elements as trees. -/
def scanTaggedArray (tag : String) (depth : Nat) : Scanner Json := fun input =>
  match nextElement true input with
  | .error fault => .error fault
  | .ok (.stop _ _) => .error .mismatch
  | .ok (.item place h) =>
    match string.scan depth place with
    | .error fault => .error fault
    | .ok s =>
      if s.value = tag then
        have := s.shorter
        match scanElements (scanTree depth) input false [] s.rest (by omega) with
        | .error fault => .error fault
        | .ok elements => .ok (elements.map .array)
      else .error .mismatch

/-- Takes the value of a tagged record, without its tag, as a tree. -/
def scanUntagged (tagName tag : String) (depth : Nat) : Scanner Json := fun input =>
  match h : skipSpace input with
  | [] => .error .truncated
  | b :: rest =>
    have shorter := length_lt_of_skipSpace h
    match Container.ofOpening? b, depth with
    | none, _ => .error (shapeFault b rest)
    | some _, 0 => .error .malformed
    | some .array, depth + 1 =>
      match scanTaggedArray tag depth rest with
      | .error fault => .error fault
      | .ok s => .ok (s.weaken (Nat.le_of_lt shorter))
    | some .object, depth + 1 =>
      let finish (state : Bool × List (String × Json)) : Except Fault Json :=
        if state.1 then .ok (.object state.2.reverse) else .error .mismatch
      match scanMembers (scanTagged tagName tag depth) finish rest true (false, []) rest
          (length_self_le rest) with
      | .error fault => .error fault
      | .ok s => .ok (s.weaken (Nat.le_of_lt shorter))

/-- A tree without its tag, which must be there once and be the given one. -/
def untagTree (tagName tag : String) : Json → Option Json
  | .object members =>
    match members.filter (·.1 == tagName) with
    | [(_, .string s)] =>
      if s = tag then some (.object (members.filter (·.1 != tagName))) else none
    | _ => none
  | .array (.string s :: elements) => if s = tag then some (.array elements) else none
  | _ => none

/-- Reads a record that is marked by a tag: a member of the name `tagName`, anywhere in an object,
or the first element of an array. The rest is read from a tree. -/
def tagged {α : Type} (tagName tag : String) (d : Decoder α) : Decoder α where
  scan depth input :=
    match scanUntagged tagName tag depth input with
    | .error fault => .error fault
    | .ok s =>
      match d.ofTree s.value with
      | none => .error .mismatch
      | some value => .ok (s.map fun _ => value)
  ofTree tree := untagTree tagName tag tree >>= d.ofTree

end Decoder

end PeerLink.Json
